/-!
# Why a platform call fails

* `RemountCheck.Failure` – the kinds of failure, each with a text of its own;
* `RemountCheck.Failure.message` – the wording: what kind of failure it is, then
  the text.

One kind matters beyond its wording: whoever deletes something takes *not found*
to mean that it is already gone (`RemountCheck.Failure.isNotFound`).
-/

namespace RemountCheck

/-- **A failure of a platform call**, or of its preparation. -/
inductive Failure where
  /-- What was asked for does not exist. -/
  | notFound (text : String)
  /-- A volume or a sandbox could not be created. -/
  | provision (text : String)
  /-- A command could not be run. -/
  | exec (text : String)
  /-- An answer arrived and could not be read. -/
  | unreadable (text : String)
  /-- Anything else that the platform did not do. -/
  | backend (text : String)
  /-- The settings do not allow the call. -/
  | config (text : String)
  deriving DecidableEq, Repr

namespace Failure

/-- **The wording** of a failure. -/
def message : Failure → String
  | .notFound text => "not found: " ++ text
  | .provision text => "provision failed: " ++ text
  | .exec text => "exec failed: " ++ text
  | .unreadable text => "serialization: " ++ text
  | .backend text => "backend error: " ++ text
  | .config text => "configuration error: " ++ text

/-- Whether the failure says that its object does not exist. -/
def isNotFound : Failure → Bool
  | .notFound _ => true
  | _ => false

end Failure

end RemountCheck
