import RemountCheck.Http.Break
import RemountCheck.Http.Percent
import RemountCheck.Text.Affix

/-!
# Paths

A path is a sequence of segments with a slash before each. Segments are resolved from the first
to the last: one of one dot is passed over, and one of two dots takes away the segment before
it, unless that is the letter of a drive.

* `RemountCheck.Http.resolve` – the segments of a path, resolved and encoded;
* `RemountCheck.Http.segmentPath` – the path that a text is, resolved;
* `RemountCheck.Http.pathOfFile` – the path of a file, and whether it begins with a drive.
-/

namespace RemountCheck

namespace Http

/-- A segment with its encoded dots written as dots. -/
def plainDots : List Char → List Char
  | '%' :: '2' :: 'e' :: s | '%' :: '2' :: 'E' :: s => '.' :: plainDots s
  | c :: s => c :: plainDots s
  | [] => []

/-! ### Drives -/

/-- Whether a text is a drive: a letter and a colon, or a bar in its place. -/
def isDrive : List Char → Bool
  | [letter, mark] => letter.isAlpha && (mark = ':' || mark = '|')
  | _ => false

/-- Whether a segment is a drive, or one with a path after a backslash. -/
def keepsPlace (segment : List Char) : Bool := isDrive (segment.takeWhile (· ≠ '\\'))

/-! ### Resolving -/

/-- The segments, last first, without the last one, unless that keeps its place. -/
def shortened (before : List (List Char)) : List (List Char) :=
  match before with
  | [] => []
  | segment :: rest => if keepsPlace segment then before else rest

/-- The segments, last first, with one more after them. One of dots leaves an empty one where it
is the last. -/
def placed (before : List (List Char)) (segment : List Char) (isLast : Bool) :
    List (List Char) :=
  let dots := plainDots segment
  if dots = ['.', '.'] then if isLast then [] :: shortened before else shortened before
  else if dots = ['.'] then if isLast then [] :: before else before
  else percentEncode inPathSet segment :: before

/-- **Resolves the segments of a path**, with those before it, last first. -/
def resolve (before : List (List Char)) : List (List Char) → List (List Char)
  | [] => before.reverse
  | segment :: rest => resolve (placed before segment rest.isEmpty) rest

/-- Segments as a path. -/
def joined (segments : List (List Char)) : List Char := segments.flatMap ('/' :: ·)

/-- A text without the slash that it may begin with. -/
def afterSlash (isSlash : Char → Bool) : List Char → List Char
  | [] => []
  | c :: s => if isSlash c then s else c :: s

/-- **The path that a text is**, resolved. -/
def segmentPath (isSlash : Char → Bool) (s : List Char) : String :=
  String.ofList (joined (resolve [] (Text.pieces isSlash (afterSlash isSlash s))))

/-! ### Paths of files -/

/-- The drive that a segment begins with and what follows it, where nothing but breaks stands
between the two. -/
def brokenDrive? (segment : List Char) : Option (List Char × List Char) :=
  match withoutBreaks segment with
  | letter :: ':' :: c :: following =>
    if letter.isAlpha && (afterPlain 2 segment).head?.any isBreak then
      some ([letter, ':'], c :: following)
    else none
  | _ => none

/-- The first segment of a file's path, last first, and whether it is a drive. A drive gets its
usual form. One with breaks after it is a segment of its own, and what follows it is another one,
even if that is dots. -/
def placedFirst (segment : List Char) (isLast : Bool) : List (List Char) × Bool :=
  match brokenDrive? segment, withoutBreaks segment with
  | some (drive, following), _ => ([percentEncode inPathSet following, drive], false)
  | none, [letter, mark] =>
    if isDrive [letter, mark] then ([[letter, ':']], true)
    else (placed [] [letter, mark] isLast, false)
  | none, segment => (placed [] segment isLast, false)

/-- **Resolves the segments of a file's path**, which may hold breaks, and tells whether the path
begins with a drive. -/
def resolveFile (before : List (List Char)) (hasDrive : Bool) :
    List (List Char) → List (List Char) × Bool
  | [] => (before.reverse, hasDrive)
  | segment :: rest =>
    if before.isEmpty then
      let (before, startsWithDrive) := placedFirst segment rest.isEmpty
      resolveFile before (hasDrive || startsWithDrive) rest
    else resolveFile (placed before (withoutBreaks segment) rest.isEmpty) hasDrive rest

/-- **The path of a file** with the segments, resolved, and whether it begins with a drive. It
has one slash at its start. -/
def pathOfFile (segments : List (List Char)) : String × Bool :=
  let (segments, hasDrive) := resolveFile [] false segments
  (String.ofList ('/' :: Text.dropLeading '/' (joined segments)), hasDrive)

end Http

end RemountCheck
