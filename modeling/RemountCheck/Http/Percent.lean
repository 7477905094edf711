import RemountCheck.Text.Digits

/-!
# Percent encoding

The parts of a URL hold printing ASCII only. Every other character is written by the bytes
of its UTF-8 form, each as a percent sign and two digits, and so are some characters that
would be mistaken for the end of a part.

* `RemountCheck.Http.percentEncode` – a text with the characters of a set encoded;
* `RemountCheck.Http.inPathSet`, `RemountCheck.Http.inQuerySet`,
  `RemountCheck.Http.inSpecialQuerySet`, `RemountCheck.Http.inFragmentSet`,
  `RemountCheck.Http.inUserSet`, `RemountCheck.Http.inControlSet` – the sets, one for each
  part;
* `RemountCheck.Http.percentDecode` – the bytes of a text with encoded bytes in it.
-/

namespace RemountCheck

namespace Http

/-! ### The sets -/

/-- What is encoded in every part: controls and everything outside of ASCII. -/
def inControlSet (c : Char) : Bool := c.toNat < 0x20 || 0x7E < c.toNat

/-- What is encoded in a fragment. -/
def inFragmentSet (c : Char) : Bool := inControlSet c || [' ', '"', '<', '>', '`'].contains c

/-- What is encoded in a query. -/
def inQuerySet (c : Char) : Bool := inControlSet c || [' ', '"', '#', '<', '>'].contains c

/-- What is encoded in the query of a URL whose scheme has hosts. -/
def inSpecialQuerySet (c : Char) : Bool := inQuerySet c || c = '\''

/-- What is encoded in a path. -/
def inPathSet (c : Char) : Bool := inQuerySet c || ['?', '`', '{', '}'].contains c

/-- What is encoded in a user name and in a password. -/
def inUserSet (c : Char) : Bool :=
  inPathSet c || ['/', ':', ';', '=', '@', '[', '\\', ']', '^', '|'].contains c

/-! ### Encoding and decoding -/

/-- A byte as a percent sign and two digits. -/
def encodedByte (b : UInt8) : List Char :=
  ['%', Text.upperHex (b.toNat / 16), Text.upperHex (b.toNat % 16)]

/-- **A text with the characters of a set encoded.** -/
def percentEncode (inSet : Char → Bool) (s : List Char) : List Char :=
  s.flatMap fun c => if inSet c then (String.utf8EncodeChar c).flatMap encodedByte else [c]

/-- **The bytes of a text** in which bytes may be encoded. A percent sign without two
digits after it stands for itself. -/
def percentDecode : List Char → List UInt8
  | '%' :: high :: low :: s =>
    match Text.hexDigit? high, Text.hexDigit? low with
    | some h, some l => UInt8.ofNat (h * 16 + l) :: percentDecode s
    | _, _ => '%'.toUInt8 :: percentDecode (high :: low :: s)
  | c :: s => String.utf8EncodeChar c ++ percentDecode s
  | [] => []

/-- A text without any character of the set is left as it is. -/
theorem percentEncode_eq_self {inSet : Char → Bool} {s : List Char}
    (h : ∀ c ∈ s, inSet c = false) : percentEncode inSet s = s := by
  induction s with
  | nil => rfl
  | cons c s ih =>
    have hc : inSet c = false := h c (by simp)
    have hs := ih fun d hd => h d (by simp [hd])
    simp only [percentEncode] at hs
    simp [percentEncode, hc, hs]

end Http

end RemountCheck
