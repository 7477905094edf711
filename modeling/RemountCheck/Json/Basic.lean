/-!
# JSON documents as they are written

A JSON document is kept here as it is written: members in their order and as
often as they occur, numbers by their digits, string literals by their
characters and escapes. What a document *means* – which of two members of one
name counts, whether a literal is readable text, whether a number is within
reach – is for those who read it to decide, and they decide differently.

* `RemountCheck.Json.Literal` – the inside of a string literal, and
  `RemountCheck.Json.Literal.text?`, the text that it stands for, which an escaped
  surrogate without its partner does not have, nor bytes that are no characters;
* `RemountCheck.Json.Number` – a number by its digits;
* `RemountCheck.Json` – a document.
-/

namespace RemountCheck

namespace Json

/-! ### String literals -/

/-- A piece of a string literal: a character, written as it stands or by a short
escape, a unit of UTF-16 written by four hexadecimal digits, or bytes that are no
character. A text has none of the last kind, but a document need not come as a text. -/
inductive Piece where
  | char (c : Char)
  | unit (value : UInt16)
  | garbled
  deriving DecidableEq, Repr

/-- The inside of a string literal. -/
abbrev Literal := List Piece

/-- Whether a unit is the first of a surrogate pair. -/
def isHighSurrogate (u : UInt16) : Bool := 0xD800 ≤ u && u < 0xDC00

/-- Whether a unit is the second of a surrogate pair. -/
def isLowSurrogate (u : UInt16) : Bool := 0xDC00 ≤ u && u < 0xE000

/-- The character that a surrogate pair stands for. -/
def ofSurrogates (high low : UInt16) : Char :=
  Char.ofNat (0x10000 + (high.toNat - 0xD800) * 0x400 + (low.toNat - 0xDC00))

namespace Literal

/-- The characters of a literal: a high surrogate has to be followed at once by a
low one, and a low surrogate has to follow a high one. -/
def chars? : Literal → Option (List Char)
  | [] => some []
  | .char c :: rest => (chars? rest).map (c :: ·)
  | .unit high :: .unit low :: rest =>
    if isHighSurrogate high then
      if isLowSurrogate low then (chars? rest).map (ofSurrogates high low :: ·) else none
    else if isLowSurrogate high then none
    else (chars? (.unit low :: rest)).map (Char.ofNat high.toNat :: ·)
  | .unit u :: rest =>
    if isHighSurrogate u || isLowSurrogate u then none
    else (chars? rest).map (Char.ofNat u.toNat :: ·)
  | .garbled :: _ => none

/-- **The text that a literal stands for**, if it stands for one. -/
def text? (literal : Literal) : Option String := (chars? literal).map String.ofList

/-- The piece that writes a character: a control character without a short escape
needs its four digits, and every other stands for itself. -/
def pieceOf (c : Char) : Piece :=
  if c.toNat < 0x20 ∧ c ∉ ['\x08', '\t', '\n', '\x0c', '\r'] then .unit c.toNat.toUInt16
  else .char c

/-- The literal that a text is written as. -/
def ofString (s : String) : Literal := s.toList.map pieceOf

/-- A character's piece stands for that character, whatever follows. -/
theorem chars?_pieceOf (c : Char) (rest : Literal) :
    chars? (pieceOf c :: rest) = (chars? rest).map (c :: ·) := by
  by_cases h : c.toNat < 0x20 ∧ c ∉ ['\x08', '\t', '\n', '\x0c', '\r']
  · have small : ∀ n : Nat, n < 0x20 →
        isHighSurrogate n.toUInt16 = false ∧ isLowSurrogate n.toUInt16 = false ∧
          n.toUInt16.toNat = n := by decide
    obtain ⟨high, low, value⟩ := small _ h.1
    rw [pieceOf, if_pos h]
    cases rest with
    | nil => simp [chars?, high, low, value]
    | cons piece rest =>
      cases piece <;> simp [chars?, high, low, value]
  · rw [pieceOf, if_neg h, chars?]

/-- **A text's literal stands for that text.** -/
@[simp] theorem text?_ofString (s : String) : (ofString s).text? = some s := by
  have chars : ∀ l : List Char, chars? (l.map pieceOf) = some l := by
    intro l
    induction l with
    | nil => rfl
    | cons c l ih => simp [chars?_pieceOf, ih]
  simp [text?, ofString, chars]

end Literal

/-! ### Numbers -/

/-- The exponent of a number: its sign and its digits. -/
structure Exponent where
  negative : Bool
  digits : List Nat
  deriving DecidableEq, Repr

/-- **A number by its digits**: a sign, the digits before the point, the digits
after it (none where there is no point), and the exponent. -/
structure Number where
  negative : Bool
  whole : List Nat
  fraction : List Nat
  exponent : Option Exponent
  deriving DecidableEq, Repr

/-- The number that a run of digits denotes, given what stands before it. -/
def digitsValueFrom (before : Nat) (digits : List Nat) : Nat :=
  digits.foldl (fun n d => n * 10 + d) before

/-- The number that a run of digits denotes. -/
def digitsValue (digits : List Nat) : Nat := digitsValueFrom 0 digits

namespace Number

/-- **The integer that a number is written as**: it has neither a fraction nor an
exponent, and is not minus zero, which is no integer but a limit from below. -/
def integer? (n : Number) : Option Int :=
  match n.fraction, n.exponent with
  | [], none =>
    let value := digitsValue n.whole
    if n.negative then (if value = 0 then none else some (-(value : Int))) else some value
  | _, _ => none

/-- The decimal digits of a number, as numbers. -/
def digitsOf (n : Nat) : List Nat := (Nat.toDigits 10 n).map fun c => c.toNat - '0'.toNat

/-- A natural number in plain decimal. -/
def ofNat (n : Nat) : Number := ⟨false, digitsOf n, [], none⟩

end Number

end Json

/-! ### Documents -/

/-- **A JSON document**, as it is written. -/
inductive Json where
  | null
  | bool (b : Bool)
  | number (n : Json.Number)
  | string (s : Json.Literal)
  | array (items : List Json)
  | object (members : List (Json.Literal × Json))
  deriving Repr

end RemountCheck
