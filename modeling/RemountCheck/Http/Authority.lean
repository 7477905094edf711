import RemountCheck.Http.Host
import RemountCheck.Http.Scheme

/-!
# Authorities

The place that a URL leads to: a host, perhaps with a port, and a user's name and password
before an at sign.

* `RemountCheck.Http.Authority` – a place by its parts, each in its form;
* `RemountCheck.Http.Authority.read?` – the place that a text begins with;
* `RemountCheck.Http.Authority.print` – the place as a text;
* `RemountCheck.Http.Authority.withoutUser` – the place without a user that can be told apart
  from it.
-/

namespace RemountCheck

namespace Http

/-- A part that is written after a mark, if it is there. -/
def marked (mark : String) : Option String → String
  | none => ""
  | some part => mark ++ part

/-! ### Users -/

/-- **A user's name and password**, encoded. At least one of them is there and not empty. -/
structure User where
  name : String
  password : Option String
  deriving DecidableEq, Repr

namespace User

/-- A user as a text. -/
def print (u : User) : String := u.name ++ marked ":" u.password

/-- The user that a text is: a name, and a password after the first colon. -/
def read? (s : List Char) : Option User :=
  let encoded := fun part => String.ofList (percentEncode inUserSet part)
  let name := encoded (s.takeWhile (· ≠ ':'))
  let password := encoded ((s.dropWhile (· ≠ ':')).drop 1)
  if name = "" ∧ password = "" then none
  else some { name, password := if password = "" then none else some password }

/-- Whether an encoded part is a text. -/
def isText (part : String) : Bool := (Text.Utf8.strict? (percentDecode part.toList)).isSome

/-- **Whether a user can be told by what is meant**: the name has to be a text, and so has the
password where there is no name. -/
def isMeant (u : User) : Bool := isText u.name && (u.name ≠ "" || u.password.any isText)

end User

/-! ### Authorities -/

/-- **A place** by its parts. Only a file's host may be empty, and one of a scheme that has no
hosts of its own. -/
structure Authority where
  user : Option User
  host : String
  port : Option Nat
  deriving DecidableEq, Repr

namespace Authority

/-- A host and nothing else. -/
def ofHost (host : String) : Authority := ⟨none, host, none⟩

/-- **The place as a text.** -/
def print (a : Authority) : String :=
  let user := match a.user with | some user => user.print ++ "@" | none => ""
  user ++ a.host ++ marked ":" (a.port.map toString)

/-- The place without its user, where that can be told by what is meant. -/
def withoutUser (a : Authority) : Authority :=
  if a.user.any User.isMeant then { a with user := none } else a

/-! ### Reading -/

/-- The host, the port after its colon, and what follows the port from a backslash on. The
colon is not one between brackets. -/
def splitPort (s : List Char) : List Char × Option (List Char) × List Char :=
  let inBrackets := match s with
    | '[' :: _ => s.takeWhile (· ≠ ']')
    | _ => []
  let rest := s.drop inBrackets.length
  match rest.dropWhile (· ≠ ':') with
  | ':' :: port =>
    (inBrackets ++ rest.takeWhile (· ≠ ':'), some (port.takeWhile (· ≠ '\\')),
      port.dropWhile (· ≠ '\\'))
  | _ => (s, none, [])

/-- The port of a scheme that is written as `port`: nothing where there is none or it is the
scheme's own. -/
def port? (scheme : String) : Option (List Char) → Option (Option Nat)
  | none | some [] => some none
  | some digits =>
    (Text.valueFrom? 10 0 digits).bind fun n =>
      if 65535 < n then none else some (if Scheme.usualPort? scheme = some n then none else some n)

/-- The form of a host of a scheme. A scheme without hosts of its own has an empty one, which
stands alone. -/
def hostOf? (scheme : String) (host : List Char) (isAlone : Bool) : Option (List Char) :=
  if Scheme.isSpecial scheme then host? host
  else if host.isEmpty && !isAlone then none
  else opaqueHost? host

/-- The place of a user, or of none, from what follows the at sign. -/
def ofUser? (scheme : String) (user : Option User) (s : List Char) :
    Option (Authority × List Char) :=
  let (host, port, rest) := splitPort s
  (hostOf? scheme host (user.isNone && port.isNone)).bind fun host =>
    (port? scheme port).map fun port => ({ user, host := String.ofList host, port }, rest)

/-- **The place that a text begins with**, if it begins with one, and what is left of the text:
a backslash that ends a port, and what follows it. The user ends at the last at sign. -/
def read? (scheme : String) (s : List Char) : Option (Authority × List Char) :=
  match Text.splitLast? ['@'] s with
  | some (user, rest) => ofUser? scheme (User.read? user) rest
  | none => ofUser? scheme none s

end Authority

end Http

end RemountCheck
