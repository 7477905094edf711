import RemountCheck.Http.Break

/-!
# Schemes

The scheme of a URL says how the rest is read.

* `RemountCheck.Http.Scheme.split?` – the scheme that a text begins with, and what follows it;
* `RemountCheck.Http.Scheme.usualPort?` – the port that need not be written;
* `RemountCheck.Http.Scheme.isSpecial` – whether a scheme is one of those whose URLs always
  have a host or are files, and in which a backslash is a slash.
-/

namespace RemountCheck

namespace Http

namespace Scheme

/-- The port of a scheme that has hosts. -/
def usualPort? : String → Option Nat
  | "http" | "ws" => some 80
  | "https" | "wss" => some 443
  | "ftp" => some 21
  | _ => none

/-- Whether a scheme is one of those in which a backslash is a slash. -/
def isSpecial (scheme : String) : Bool := (usualPort? scheme).isSome || scheme = "file"

/-- Whether a character is a slash in a scheme. -/
def isSlash (scheme : String) (c : Char) : Bool := c = '/' || (isSpecial scheme && c = '\\')

/-- Whether a character may stand in a scheme after its first letter. -/
def isSchemeChar (c : Char) : Bool := c.isAlphanum || c = '+' || c = '-' || c = '.'

/-- **The scheme that a text begins with**, in lower case, and what follows its colon. -/
def split? (s : List Char) : Option (String × List Char) :=
  match withoutBreaks (s.takeWhile (· ≠ ':')), s.dropWhile (· ≠ ':') with
  | c :: scheme, _ :: rest =>
    if c.isAlpha && scheme.all isSchemeChar then
      some (String.ofList ((c :: scheme).map Char.toLower), rest)
    else none
  | _, _ => none

end Scheme

end Http

end RemountCheck
