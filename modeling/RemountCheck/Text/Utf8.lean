/-!
# Reading bytes as UTF-8

A body arrives as bytes. It is read one byte at a time by a machine that either
stands before a character or has read a part of one:

* `RemountCheck.Text.Utf8.decode` – the characters of a sequence of bytes, with
  `none` in the place of each stretch that cannot be continued to a character
  (each the longest such stretch, so that a byte that ends one starts afresh);
* `RemountCheck.Text.Utf8.lossy` – the text with U+FFFD in each such place;
* `RemountCheck.Text.Utf8.strict?` – the text, if there is no such place.

A byte-order mark is a character like any other.
-/

namespace RemountCheck

namespace Text

namespace Utf8

/-- Where the reading of a character stands: before its first byte, or with
`left + 1` bytes still due, the next of them from `low` to `high`, and the bits
read so far in `value`. -/
inductive Progress where
  | start
  | within (left : Nat) (low high : UInt8) (value : Nat)
  deriving DecidableEq, Repr

/-- **The first byte of a character** decides how many follow. The bounds on the
second byte shut out overlong forms, surrogates and code points above U+10FFFF. -/
def first (b : UInt8) : List (Option Char) × Progress :=
  if b < 0x80 then ([some (Char.ofNat b.toNat)], .start)
  else if b < 0xC2 then ([none], .start)
  else if b < 0xE0 then ([], .within 0 0x80 0xBF (b.toNat - 0xC0))
  else if b < 0xF0 then
    ([], .within 1 (if b = 0xE0 then 0xA0 else 0x80) (if b = 0xED then 0x9F else 0xBF)
      (b.toNat - 0xE0))
  else if b < 0xF5 then
    ([], .within 2 (if b = 0xF0 then 0x90 else 0x80) (if b = 0xF4 then 0x8F else 0xBF)
      (b.toNat - 0xF0))
  else ([none], .start)

/-- One more byte: what is read with it, and where the reading stands then. -/
def next : Progress → UInt8 → List (Option Char) × Progress
  | .start, b => first b
  | .within left low high value, b =>
    if low ≤ b ∧ b ≤ high then
      let value := value * 64 + (b.toNat - 0x80)
      match left with
      | 0 => ([some (Char.ofNat value)], .start)
      | left + 1 => ([], .within left 0x80 0xBF value)
    else
      -- The stretch before `b` ends unfinished, and `b` starts afresh.
      let (read, progress) := first b
      (none :: read, progress)

/-- The characters read from `progress` on. A character left unfinished at the
end is one unreadable stretch. -/
def decodeFrom : Progress → List UInt8 → List (Option Char)
  | .start, [] => []
  | .within .., [] => [none]
  | progress, b :: bytes =>
    let (read, progress) := next progress b
    read ++ decodeFrom progress bytes

/-- **The characters of a sequence of bytes**, `none` for each unreadable stretch. -/
def decode (bytes : List UInt8) : List (Option Char) := decodeFrom .start bytes

/-- The text with the replacement character for each unreadable stretch. -/
def lossy (bytes : List UInt8) : String :=
  String.ofList ((decode bytes).map (·.getD '\uFFFD'))

/-- The text, where every byte of it is readable. -/
def strict? (bytes : List UInt8) : Option String :=
  ((decode bytes).mapM id).map String.ofList

/-- Bytes that are a text are read as its characters. -/
theorem decode_of_strict? {bytes : List UInt8} {text : String} (h : strict? bytes = some text) :
    decode bytes = text.toList.map some := by
  obtain ⟨chars, hchars, rfl⟩ := Option.map_eq_some_iff.mp h
  rw [String.toList_ofList]
  clear h
  generalize decode bytes = read at hchars
  induction read generalizing chars with
  | nil =>
    obtain rfl : [] = chars := by simpa using hchars
    rfl
  | cons c read ih =>
    rw [List.mapM_cons] at hchars
    obtain ⟨c', rfl, hrest⟩ := Option.bind_eq_some_iff.mp hchars
    obtain ⟨rest, hread, hcons⟩ := Option.bind_eq_some_iff.mp hrest
    obtain rfl : c' :: rest = chars := by simpa using hcons
    rw [ih _ hread, List.map_cons]

end Utf8

end Text

end RemountCheck
