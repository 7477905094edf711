import RemountCheck.Http.Authority
import RemountCheck.Http.Path

/-!
# URLs

A text is read as an absolute URL and brought to one form, in which it is sent and shown.

* `RemountCheck.Http.Url` – a URL by its parts, each in its form;
* `RemountCheck.Http.Url.parse?` – the URL that a text is, if it is absolute;
* `RemountCheck.Http.Url.print` – the URL as a text;
* `RemountCheck.Http.Url.withoutFragment`, `RemountCheck.Http.Url.withoutUser` – what of it is
  sent.

The form is that of the URL standard. Blanks and controls around the text are dropped, and
tabs and line ends within it. Scheme and host are in lower case, and a port that is the
scheme's own is left out. In the schemes that have hosts a backslash is a slash. The segments
`.` and `..` of a path are resolved, and what cannot stand in a part is percent-encoded.
-/

namespace RemountCheck

namespace Http

/-- **A URL** by its parts. A URL without an authority is one of a scheme that does without. -/
structure Url where
  scheme : String
  authority : Option Authority
  path : String
  query : Option String
  fragment : Option String
  deriving DecidableEq, Repr

namespace Url

/-! ### Reading -/

/-- What stands before the first of a character, and what after it, if it occurs. -/
def cutAt (c : Char) (s : List Char) : List Char × Option (List Char) :=
  match s.dropWhile (· ≠ c) with
  | [] => (s, none)
  | _ :: rest => (s.takeWhile (· ≠ c), some rest)

/-- The place and the path after the two slashes that a place follows. An at sign alone is no
place, unless the URL ends with it; `isWhole` tells that the text goes to the end of the URL. -/
def placeAndPath? (scheme : String) (isWhole : Bool) (s : List Char) :
    Option (Option Authority × String) :=
  let isSlash := Scheme.isSlash scheme
  let place := s.takeWhile (!isSlash ·)
  let path := s.dropWhile (!isSlash ·)
  if place = ['@'] && !(path.isEmpty && isWhole) then none
  else
    (Authority.read? scheme place).map fun (authority, rest) =>
      let path := rest ++ path
      (some authority,
        if path.isEmpty && !Scheme.isSpecial scheme then "" else segmentPath isSlash path)

/-- The segments after a place: one that is empty, where there are none. -/
def orEmpty (segments : List (List Char)) : List (List Char) :=
  if segments.isEmpty then [[]] else segments

/-- The place and the path of a file after two slashes. The name of a host may be missing, and
that of this machine is left out, as is one before a drive. -/
def fileAtHost? (name : List Char) (segments : List (List Char)) :
    Option (Option Authority × String) :=
  let plain := withoutBreaks name
  if isDrive plain then some (some (.ofHost ""), (pathOfFile (name :: segments)).1)
  else if plain.isEmpty then some (some (.ofHost ""), (pathOfFile ([] :: segments)).1)
  else
    (host? plain).map fun host =>
      if host = "localhost".toList then
        (some (.ofHost ""), (pathOfFile ([] :: segments)).1)
      else
        let (path, hasDrive) := pathOfFile (orEmpty segments)
        (some (.ofHost (if hasDrive then "" else String.ofList host)), path)

/-- Whether there is nothing in a segment but breaks. -/
def isBlank (segment : List Char) : Bool := segment.all isBreak

/-- The segments of a file's path from its root on: the slash that it may begin with starts no
segment of its own. -/
def fromRoot : List (List Char) → List (List Char)
  | a :: b :: rest => if isBlank a then b :: rest else a :: b :: rest
  | segments => segments

/-- The place and the path of a file, of which the text between slashes is given. Two of them
at the start are followed by a host. -/
def file? (segments : List (List Char)) : Option (Option Authority × String) :=
  let here := some (some (Authority.ofHost ""), (pathOfFile (fromRoot segments)).1)
  match segments with
  | a :: b :: name :: rest => if isBlank a && isBlank b then fileAtHost? name rest else here
  | _ => here

/-- The place and the path after the colon of the scheme, in a text without breaks. -/
def plainBody? (scheme : String) (isWhole : Bool) (s : List Char) :
    Option (Option Authority × String) :=
  if Scheme.isSpecial scheme then
    -- However many slashes there are, the place follows them.
    placeAndPath? scheme isWhole (s.dropWhile (Scheme.isSlash scheme))
  else
    match s with
    | '/' :: '/' :: s => placeAndPath? scheme isWhole s
    | '/' :: _ => some (none, segmentPath (· = '/') s)
    | _ => some (none, String.ofList (percentEncode inControlSet s))

/-- The place and the path after the colon of the scheme. Only in files does it matter where
breaks stand. -/
def body? (scheme : String) (isWhole : Bool) (s : List Char) :
    Option (Option Authority × String) :=
  if scheme = "file" then file? (Text.pieces (Scheme.isSlash scheme) s)
  else plainBody? scheme isWhole (withoutBreaks s)

/-- A part of a URL without breaks, encoded. -/
def encodedPart (inSet : Char → Bool) (s : List Char) : String :=
  String.ofList (percentEncode inSet (withoutBreaks s))

/-- **The URL that a text is**, if it is absolute. -/
def parse? (text : String) : Option Url :=
  (Scheme.split? (trimmed text.toList)).bind fun (scheme, s) =>
    let (s, fragment) := cutAt '#' s
    let (s, query) := cutAt '?' s
    let inSet := if Scheme.isSpecial scheme then inSpecialQuerySet else inQuerySet
    (body? scheme (query.isNone && fragment.isNone) s).map fun (authority, path) =>
      { scheme, authority, path
        query := query.map (encodedPart inSet)
        fragment := fragment.map (encodedPart inFragmentSet) }

/-! ### Writing -/

/-- **The URL as a text.** -/
def print (u : Url) : String :=
  let place :=
    match u.authority with
    | some authority => "//" ++ authority.print
    | none => if "//".toList.isPrefixOf u.path.toList then "/." else ""
  u.scheme ++ ":" ++ place ++ u.path ++ marked "?" u.query ++ marked "#" u.fragment

/-- What of a URL is sent: a fragment is not. -/
def withoutFragment (u : Url) : Url := { u with fragment := none }

/-- What of a URL is sent: a user that can be told apart from the place is not. -/
def withoutUser (u : Url) : Url := { u with authority := u.authority.map Authority.withoutUser }

/-- The host that a URL names; empty where it names none. -/
def host (u : Url) : String := (u.authority.map Authority.host).getD ""

end Url

end Http

end RemountCheck
