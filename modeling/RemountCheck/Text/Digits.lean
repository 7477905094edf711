/-!
# Digits

* `RemountCheck.Text.digit?`, `RemountCheck.Text.hexDigit?` – the value of a decimal
  or a hexadecimal digit;
* `RemountCheck.Text.valueFrom?` – the number that digits of a base up to sixteen denote;
* `RemountCheck.Text.lowerHex`, `RemountCheck.Text.upperHex` – the hexadecimal digit of
  a number below sixteen.

Only the digits of ASCII count: a digit of another script is no digit here.
-/

namespace RemountCheck

namespace Text

/-- The value of a decimal digit. -/
def digit? (c : Char) : Option Nat :=
  if '0' ≤ c ∧ c ≤ '9' then some (c.toNat - '0'.toNat) else none

/-- The value of a hexadecimal digit of either case. -/
def hexDigit? (c : Char) : Option Nat :=
  if '0' ≤ c ∧ c ≤ '9' then some (c.toNat - '0'.toNat)
  else if 'a' ≤ c ∧ c ≤ 'f' then some (c.toNat - 'a'.toNat + 10)
  else if 'A' ≤ c ∧ c ≤ 'F' then some (c.toNat - 'A'.toNat + 10)
  else none

/-- The number that digits of a base denote, given the number that stands before them. -/
def valueFrom? (base before : Nat) : List Char → Option Nat
  | [] => some before
  | c :: s =>
    match hexDigit? c with
    | some d => if d < base then valueFrom? base (before * base + d) s else none
    | none => none

/-- The lower-case hexadecimal digit of a number below sixteen. -/
def lowerHex (n : Nat) : Char :=
  if n < 10 then Char.ofNat ('0'.toNat + n) else Char.ofNat ('a'.toNat + (n - 10))

/-- The upper-case hexadecimal digit of a number below sixteen. -/
def upperHex (n : Nat) : Char :=
  if n < 10 then Char.ofNat ('0'.toNat + n) else Char.ofNat ('A'.toNat + (n - 10))

/-- A digit read back has the value that it was written for. -/
theorem hexDigit?_lowerHex {n : Nat} (h : n < 16) : hexDigit? (lowerHex n) = some n := by
  have all : ∀ n : Nat, n < 16 → hexDigit? (lowerHex n) = some n := by decide
  exact all n h

end Text

end RemountCheck
