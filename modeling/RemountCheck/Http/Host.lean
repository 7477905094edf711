import RemountCheck.Domain.Name
import RemountCheck.Http.Percent
import RemountCheck.Text.Utf8

/-!
# Hosts

A host is written in one of three ways, and each has one form that it is brought to:

* a domain name, in the form of `RemountCheck.Domain.toAscii?`;
* an address of four numbers – any name whose last label is a number has to be one. Each
  number may be decimal, octal or hexadecimal, and numbers may be left out before the last,
  which then stands for them too;
* an address of eight groups between brackets, with its longest run of zero groups left out.

`RemountCheck.Http.host?` gives the form of a host of a scheme that has hosts, and
`RemountCheck.Http.opaqueHost?` that of another scheme, which is taken as it is.
-/

namespace RemountCheck

namespace Http

/-! ### Addresses of four numbers -/

/-- A number of an address: hexadecimal after `0x`, octal after `0`, and else decimal. -/
def addressNumber? : List Char → Option Nat
  | [] => none
  | '0' :: 'x' :: s | '0' :: 'X' :: s => Text.valueFrom? 16 0 s
  | '0' :: c :: s => Text.valueFrom? 8 0 (c :: s)
  | s => Text.valueFrom? 10 0 s

/-- Whether a name is to be read as an address: its last label, before a dot that may end
it, is a number. -/
def endsInNumber (labels : List (List Char)) : Bool :=
  let labels := if labels.getLast? = some [] then labels.dropLast else labels
  match labels.getLast? with
  | some [] | none => false
  | some label => label.all (fun c => (Text.digit? c).isSome) || (addressNumber? label).isSome

/-- The value of an address: each number but the last is one byte, and the last one fills the
bytes that are left. -/
def addressValue? (numbers : List Nat) : Option Nat :=
  match numbers.reverse with
  | [] => none
  | last :: before =>
    if 3 < before.length ∨ before.any (255 < ·) ∨ Nat.pow 256 (4 - before.length) ≤ last then none
    else some (before.reverse.foldl (fun v n => v * 256 + n) 0 * Nat.pow 256 (4 - before.length) + last)

/-- An address in its usual form. -/
def writtenAddress (value : Nat) : List Char :=
  let byte (i : Nat) := (toString (value >>> (8 * i) % 256)).toList
  byte 3 ++ '.' :: byte 2 ++ '.' :: byte 1 ++ '.' :: byte 0

/-- The address that labels denote. -/
def address? (labels : List (List Char)) : Option (List Char) :=
  let labels := if labels.getLast? = some [] then labels.dropLast else labels
  (labels.mapM addressNumber?).bind fun numbers => (addressValue? numbers).map writtenAddress

/-! ### Addresses of eight groups -/

/-- A group of one to four hexadecimal digits. -/
def group? (s : List Char) : Option Nat :=
  if s.isEmpty || 4 < s.length then none else Text.valueFrom? 16 0 s

/-- A decimal number of one byte without zeros before it. -/
def byte? (s : List Char) : Option Nat :=
  match s with
  | [] => none
  | '0' :: _ :: _ => none
  | s => (Text.valueFrom? 10 0 s).filter (· < 256)

/-- The two groups that four decimal numbers at the end of an address stand for. -/
def embedded? (s : List Char) : Option (List Nat) :=
  match (Text.pieces (· = '.') s).mapM byte? with
  | some [a, b, c, d] => some [a * 256 + b, c * 256 + d]
  | _ => none

/-- Groups between colons. The last of them may be four decimal numbers. -/
def groups? : List (List Char) → Option (List Nat)
  | [] => some []
  | [s] => if s.contains '.' then embedded? s else (group? s).map ([·])
  | s :: rest => (group? s).bind fun g => (groups? rest).map (g :: ·)

/-- The groups of a part of an address, which may be empty. -/
def partGroups? (s : List Char) : Option (List Nat) :=
  if s.isEmpty then some [] else groups? (Text.pieces (· = ':') s)

/-- What stands before and after the first double colon, if there is one. -/
def splitDoubleColon : List Char → Option (List Char × List Char)
  | ':' :: ':' :: s => some ([], s)
  | c :: s => (splitDoubleColon s).map fun (before, after) => (c :: before, after)
  | [] => none

/-- The eight groups of an address. A double colon stands for one group of zeros or more, and
four decimal numbers stand only at the end. -/
def eightGroups? (s : List Char) : Option (List Nat) :=
  match splitDoubleColon s with
  | none => (partGroups? s).filter (·.length = 8)
  | some (before, after) =>
    if before.contains '.' then none
    else
      (partGroups? before).bind fun before =>
        (partGroups? after).bind fun after =>
          let present := before.length + after.length
          if 7 < present then none
          else some (before ++ List.replicate (8 - present) 0 ++ after)

/-- The length of the run of zeros that groups begin with. -/
def zerosAtStart (groups : List Nat) : Nat := (groups.takeWhile (· = 0)).length

/-- Where the longest run of zeros begins, and its length; of equally long ones the first. -/
def longestZeros : List Nat → Nat × Nat
  | [] => (0, 0)
  | g :: groups =>
    let (start, length) := longestZeros groups
    if length ≤ zerosAtStart (g :: groups) then (0, zerosAtStart (g :: groups))
    else (start + 1, length)

/-- Groups with colons between them. -/
def writtenGroups (groups : List Nat) : List Char :=
  [':'].intercalate (groups.map fun g => Nat.toDigits 16 g)

/-- Eight groups in their usual form: the longest run of at least two zeros is left out. -/
def writtenEight (groups : List Nat) : List Char :=
  let (start, length) := longestZeros groups
  if length < 2 then writtenGroups groups
  else
    writtenGroups (groups.take start) ++ [':', ':'] ++ writtenGroups (groups.drop (start + length))

/-! ### Hosts -/

/-- The address between brackets, or nothing where a text is no such address. -/
def bracketed? (s : List Char) : Option (List Char) :=
  match s.getLast? with
  | some ']' => (eightGroups? s.dropLast).map fun groups => '[' :: (writtenEight groups ++ [']'])
  | _ => none

/-- **The form of a host** of a scheme that has hosts. A name is a sequence of bytes that are
read as a text before anything else. -/
def host? (s : List Char) : Option (List Char) :=
  match s with
  | '[' :: s => bracketed? s
  | s =>
    (Text.Utf8.strict? (percentDecode s)).bind fun text =>
      match Domain.toAscii? text.toList with
      | none | some [] => none
      | some name =>
        let labels := Domain.labelsOf name
        if endsInNumber labels then address? labels else some name

/-- The form of a host of another scheme, which is taken as it is. -/
def opaqueHost? (s : List Char) : Option (List Char) :=
  match s with
  | '[' :: s => bracketed? s
  | s => if s.any Domain.isDelimiter then none else some (percentEncode inControlSet s)

end Http

end RemountCheck
