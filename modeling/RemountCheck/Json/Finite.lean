import RemountCheck.Json.Basic

/-!
# Numbers within reach

A reader that keeps numbers as binary floating point of 64 bits has to refuse
those that are too large for it. It does not hold on to all digits, though: it
takes the leading digits that fit 64 bits, counts the others, and multiplies by a
power of ten. Whether the product is finite is decided here exactly, on natural
numbers:

* `RemountCheck.Json.Number.significand` – the leading digits and the power of ten
  that they are to be multiplied by;
* `RemountCheck.Json.round53` – rounding to 53 binary digits, ties to even;
* `RemountCheck.Json.Number.isFinite` – whether the product stays below the point
  from which rounding leads to infinity.

Numbers that are too small are no trouble: they become zero.
-/

namespace RemountCheck

namespace Json

/-- The leading digits of a run that fit 64 bits, after those before it, and how
many are left over from the first that does not fit. -/
def fitting (before : Nat) : List Nat → Nat × Nat
  | [] => (before, 0)
  | d :: digits =>
    if before * 10 + d < UInt64.size then fitting (before * 10 + d) digits
    else (before, digits.length + 1)

/-- **Rounding to 53 binary digits**, to the nearest and from the middle to the
even neighbour. -/
def round53 (n : Nat) : Nat :=
  let unit := Nat.pow 2 (n.log2 + 1 - 53)
  let low := n / unit
  let rest := n % unit
  if rest * 2 < unit then low * unit
  else if rest * 2 = unit then (low + low % 2) * unit
  else (low + 1) * unit

/-- The least product that is rounded to infinity: halfway between the greatest
finite number and the power of two above it. -/
def overflowBound : Nat := Nat.pow 2 1024 - Nat.pow 2 970

namespace Number

/-- The value of an exponent. -/
def exponentValue (n : Number) : Int :=
  match n.exponent with
  | none => 0
  | some e => if e.negative then -(digitsValue e.digits : Int) else digitsValue e.digits

/-- **The leading digits** of a number as one natural number, and the power of ten
to multiply it by. A digit left over before the point raises the power by one, a
digit kept after the point lowers it by one. -/
def significand (n : Number) : Nat × Int :=
  let (whole, left) := fitting 0 n.whole
  let (all, dropped) := fitting whole n.fraction
  (all, (left : Int) - (n.fraction.length - dropped : Nat) + n.exponentValue)

/-- **Whether a number is within reach.** Above a power of 308 only zero is. -/
def isFinite (n : Number) : Bool :=
  let (digits, power) := n.significand
  if digits = 0 then true
  else if power < 0 then true
  else if 308 < power then false
  else round53 digits * round53 (Nat.pow 10 power.toNat) < overflowBound

end Number

end Json

end RemountCheck
