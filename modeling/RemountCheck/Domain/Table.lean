import RemountCheck.Text.Affix
import RemountCheck.Text.Blank
import RemountCheck.Text.Digits

/-!
# Tables of code points

What is known of characters by their code points is kept in tables. A table is written as a
text: rows with commas between them, and in a row hexadecimal numbers with blanks between them.

* `RemountCheck.Domain.rowsOf` – the rows of a table;
* `RemountCheck.Domain.rangesOf` – the ranges of a table whose rows are a code point each, or
  the first and the last of a range;
* `RemountCheck.Domain.isWithin` – whether a character is in one of the ranges.
-/

namespace RemountCheck

namespace Domain

/-- The numbers of a row. -/
def numbersOf (row : String) : List Nat :=
  (Text.pieces Text.isBlank row.toList).filterMap fun number =>
    if number.isEmpty then none else Text.valueFrom? 16 0 number

/-- **The rows of a table.** -/
def rowsOf (table : String) : List (List Nat) := (table.splitOn ",").map numbersOf

/-- **The ranges of a table.** -/
def rangesOf (table : String) : List (Nat × Nat) :=
  (rowsOf table).filterMap fun
    | [point] => some (point, point)
    | [first, last] => some (first, last)
    | _ => none

/-- Whether a character is in one of the ranges. -/
def isWithin (ranges : List (Nat × Nat)) (c : Char) : Bool :=
  ranges.any fun (first, last) => first ≤ c.toNat && c.toNat ≤ last

/-- Whether a character is one of ASCII, of which no table speaks. -/
def isAscii (c : Char) : Bool := c.toNat < 0x80

end Domain

end RemountCheck
