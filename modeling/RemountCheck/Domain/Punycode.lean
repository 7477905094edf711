import RemountCheck.Domain.Table
import RemountCheck.Text.Affix

/-!
# Punycode

A label of a domain name that holds characters outside of ASCII is written in ASCII: its ASCII
characters first, and then where each of the others goes, by differences in a variable-length
notation with 36 digits.

* `RemountCheck.Domain.Punycode.encode` – the encoded form of a label;
* `RemountCheck.Domain.Punycode.decode?` – the label that an encoded form stands for, if it
  stands for one.

The encoded form here is what follows the mark of encoded labels.
-/

namespace RemountCheck

namespace Domain

namespace Punycode

/-! ### The notation -/

/-- A digit of the notation: the letters, then the decimal digits. -/
def digit (n : Nat) : Char :=
  if n < 26 then Char.ofNat ('a'.toNat + n) else Char.ofNat ('0'.toNat + (n - 26))

/-- The threshold of the digit at position `k`, where `k` counts in steps of 36. -/
def threshold (k bias : Nat) : Nat := if k ≤ bias then 1 else if bias + 26 ≤ k then 26 else k - bias

/-- The digits of a difference, from the position `k` on, at most `fuel` of them. -/
def digits (bias : Nat) : (fuel k q : Nat) → List Char
  | 0, _, _ => []
  | fuel + 1, k, q =>
    let t := threshold k bias
    if q < t then [digit q] else digit (t + (q - t) % (36 - t)) :: digits bias fuel (k + 36) ((q - t) / (36 - t))

/-- The bias for the next difference, once `delta` has been brought down. -/
def adaptFrom : (fuel delta k : Nat) → Nat
  | 0, delta, k => k + 36 * delta / (delta + 38)
  | fuel + 1, delta, k =>
    if 455 < delta then adaptFrom fuel (delta / 35) (k + 36) else k + 36 * delta / (delta + 38)

/-- The bias after a difference, when `handled` characters have been placed. -/
def adapt (delta handled : Nat) (isFirst : Bool) : Nat :=
  let delta := if isFirst then delta / 700 else delta / 2
  adaptFrom 64 (delta + delta / handled) 0

/-! ### Encoding -/

/-- Where the encoding stands: the difference, the bias, how many characters are placed,
and whether a difference was written. -/
structure Progress where
  delta : Nat
  bias : Nat
  handled : Nat
  isFirst : Bool
  deriving DecidableEq, Repr

/-- Goes over the label for the code point `n`: what is written for each of its places. -/
def place (n : Nat) : List Nat → Progress → List Char × Progress
  | [], p => ([], p)
  | c :: label, p =>
    if c < n then place n label { p with delta := p.delta + 1 }
    else if c = n then
      let written := digits p.bias 64 36 p.delta
      let bias := adapt p.delta (p.handled + 1) p.isFirst
      let (rest, p) := place n label ⟨0, bias, p.handled + 1, false⟩
      (written ++ rest, p)
    else place n label p

/-- Encodes the code points from `n` on, the least first, at most `fuel` of them. -/
def encodeFrom (label : List Nat) : (fuel n : Nat) → Progress → List Char
  | 0, _, _ => []
  | fuel + 1, n, p =>
    match (label.filter (n ≤ ·)).min? with
    | none => []
    | some m =>
      let (written, p) := place m label { p with delta := p.delta + (m - n) * (p.handled + 1) }
      written ++ encodeFrom label fuel (m + 1) { p with delta := p.delta + 1 }

/-- **The encoded form** of a label. -/
def encode (label : List Char) : List Char :=
  let basic := label.filter isAscii
  let points := label.map (·.toNat)
  let start : Progress := ⟨0, 72, basic.length, true⟩
  basic ++ (if basic.isEmpty then [] else ['-']) ++ encodeFrom points label.length 0x80 start

/-! ### Decoding -/

/-- The value of a digit of the notation. -/
def digitValue? (c : Char) : Option Nat :=
  if 'a' ≤ c ∧ c ≤ 'z' then some (c.toNat - 'a'.toNat)
  else if '0' ≤ c ∧ c ≤ '9' then some (c.toNat - '0'.toNat + 26)
  else none

/-- The bound on every number that is read, a word of 32 bits. -/
def bound : Nat := 4294967296

/-- **Reads a difference** from the position `k` on, where a digit counts `weight` times. It is
added to `i`, and what follows it is left. -/
def difference? (bias : Nat) : (k weight i : Nat) → List Char → Option (Nat × List Char)
  | _, _, _, [] => none
  | k, weight, i, c :: s =>
    match digitValue? c with
    | none => none
    | some d =>
      if bound ≤ i + d * weight then none
      else if d < threshold k bias then some (i + d * weight, s)
      else if bound ≤ weight * (36 - threshold k bias) then none
      else difference? bias (k + 36) (weight * (36 - threshold k bias)) (i + d * weight) s

/-- A difference has at least one digit. -/
theorem length_lt_of_difference? {bias k weight i j : Nat} {s rest : List Char}
    (h : difference? bias k weight i s = some (j, rest)) : rest.length < s.length := by
  fun_induction difference? bias k weight i s with
  | case1 => simp at h
  | case2 => simp at h
  | case3 => simp at h
  | case4 => simp_all
  | case5 => simp at h
  | case6 _ _ _ _ s _ _ _ _ _ ih => exact Nat.lt_succ_of_lt (ih h)

/-- Places one character for each difference: `i` is the place that was reached in the label,
and `point` the code point. -/
def placeAll? (point bias i : Nat) (label : List Char) : List Char → Option (List Char)
  | [] => some label
  | c :: s =>
    match _h : difference? bias 36 1 i (c :: s) with
    | none => none
    | some (j, rest) =>
      let count := label.length + 1
      let next := point + j / count
      if next.isValidChar then
        placeAll? next (adapt (j - i) count (i = 0)) (j % count + 1)
          (label.insertIdx (j % count) (Char.ofNat next)) rest
      else none
termination_by s => s.length
decreasing_by exact length_lt_of_difference? _h

/-- **The label that an encoded form stands for**, if it stands for one. Its ASCII characters
stand before the last hyphen, which is there only if there are any. -/
def decode? (s : List Char) : Option (List Char) :=
  match Text.splitLast? ['-'] s with
  | some ([], _) => none
  | some (basic, rest) => placeAll? 0x80 72 0 basic rest
  | none => placeAll? 0x80 72 0 [] s

end Punycode

end Domain

end RemountCheck
