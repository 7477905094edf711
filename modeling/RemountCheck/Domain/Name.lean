import RemountCheck.Domain.Direction
import RemountCheck.Domain.Joining
import RemountCheck.Domain.Mapping
import RemountCheck.Domain.Punycode

/-!
# Domain names

A domain name is written with labels and dots between them. Each name has one form in ASCII,
in which it is looked up: its characters are mapped and composed, and each label that then
holds characters outside of ASCII is encoded, after a mark that tells that it is.

* `RemountCheck.Domain.Label` – a label as it is meant and in ASCII;
* `RemountCheck.Domain.Label.read?` – the label that a mapped text is, if it is one;
* `RemountCheck.Domain.toAscii?` – **the form of a name in ASCII**, if it is a name.

A name in ASCII without encoded labels is put in lower case and nothing else, unless it holds a
character that no name may hold.
-/

namespace RemountCheck

namespace Domain

/-! ### Characters -/

/-- The characters that mark the parts of a URL, with the blanks between texts. -/
def isDelimiter (c : Char) : Bool :=
  ['\x00', '\t', '\n', '\r', ' ', '#', '/', ':', '<', '>', '?', '@', '[', '\\', ']', '^',
    '|'].contains c

/-- The characters of ASCII that no name may hold: the delimiters, the controls and the percent
sign. -/
def isBarred (c : Char) : Bool :=
  isDelimiter c || c.toNat < 0x20 || c = '%' || c.toNat = 0x7F

/-- **A text mapped and composed**, or nothing where it holds a character that no name may
hold. -/
def normalized? (s : List Char) : Option (List Char) :=
  (s.mapM replacement?).map fun replacements => composed replacements.flatten

/-! ### Labels -/

/-- **A label**: the text that it means, and how it is written in ASCII. -/
structure Label where
  meant : List Char
  written : List Char
  deriving DecidableEq, Repr

namespace Label

/-- The mark of encoded labels. -/
def encodedMark : List Char := ['x', 'n', '-', '-']

/-- The length of the longest text of a label that is encoded. -/
def longestMeant : Nat := 1000

/-- The length of the longest form that is decoded. -/
def longestEncoded : Nat := 2000

/-- A label that holds characters outside of ASCII. -/
def ofMeant? (meant : List Char) : Option Label :=
  if longestMeant < meant.length || encodedMark.isPrefixOf meant || !isWellFormed meant then none
  else some ⟨meant, encodedMark ++ Punycode.encode meant⟩

/-- An encoded label, of which `encoded` follows the mark. What it means has to be a text that
is mapped and composed already. -/
def ofEncoded? (encoded : List Char) : Option Label :=
  if longestEncoded < encoded.length || encoded.getLast? = none || encoded.getLast? = some '-' then
    none
  else
    (Punycode.decode? encoded).bind fun meant =>
      if meant.length ≤ longestMeant && normalized? meant = some meant && isWellFormed meant then
        some ⟨meant, encodedMark ++ encoded⟩
      else none

/-- **The label that a mapped text is**, if it is one. -/
def read? (s : List Char) : Option Label :=
  if s.all isAscii then
    match encodedMark.isPrefixOf? s with
    | some encoded => ofEncoded? encoded
    | none => some ⟨s, s⟩
  else ofMeant? s

end Label

/-! ### Names -/

/-- The labels of a text. -/
def labelsOf (s : List Char) : List (List Char) := Text.pieces (· = '.') s

/-- **The form of a name in ASCII**, if it is a name. -/
def toAscii? (s : List Char) : Option (List Char) :=
  (normalized? s).bind fun s =>
    if s.any isBarred then none
    else
      ((labelsOf s).mapM Label.read?).bind fun labels =>
        if directionsFit (labels.map Label.meant) then
          some (['.'].intercalate (labels.map Label.written))
        else none

end Domain

end RemountCheck
