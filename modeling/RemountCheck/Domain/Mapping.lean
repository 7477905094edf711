import RemountCheck.Domain.Replacement
import RemountCheck.Domain.Table

/-!
# The mapping of characters

One name can be written in several ways: in either case, in wide or narrow forms, with
characters that show nothing. Each character of a name is therefore replaced by the characters
that it stands for, and some characters stand for nothing that a name may hold.

* `RemountCheck.Domain.replacement?` – the characters that a character stands for, or nothing
  where no name may hold it. A character of ASCII stands for its lower case.
-/

namespace RemountCheck

namespace Domain

/-- The characters that no name may hold. -/
def disallowed : List (Nat × Nat) := rangesOf disallowedTable

/-- The characters that are left out. -/
def ignored : List (Nat × Nat) := rangesOf ignoredTable

/-- The rows of the characters that are replaced in runs. -/
def shiftedRows : List (List Nat) := rowsOf shiftedTable

/-- The rows of the other characters that are replaced. -/
def replacedRows : List (List Nat) := rowsOf replacedTable

/-- The replacement of a code point by a row of runs, if the run holds it. -/
def shiftedBy? (point : Nat) : List Nat → Option (List Char)
  | [first, last, step, target] =>
    if first ≤ point ∧ point ≤ last ∧ (point - first) % step = 0 then
      some [Char.ofNat (target + (point - first))]
    else none
  | _ => none

/-- The replacement of a code point by a row of its own, if the row is that of the code point. -/
def replacedBy? (point : Nat) : List Nat → Option (List Char)
  | source :: targets => if source = point then some (targets.map Char.ofNat) else none
  | [] => none

/-- The replacement of a character outside of ASCII. -/
def tabulated? (c : Char) : Option (List Char) :=
  if isWithin disallowed c then none
  else if isWithin ignored c then some []
  else
    match shiftedRows.findSome? (shiftedBy? c.toNat) with
    | some target => some target
    | none => some ((replacedRows.findSome? (replacedBy? c.toNat)).getD [c])

/-- **The characters that a character stands for**, or nothing where no name may hold it. -/
def replacement? (c : Char) : Option (List Char) :=
  if isAscii c then some [c.toLower] else tabulated? c

end Domain

end RemountCheck
