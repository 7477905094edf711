import RemountCheck.Platform.ExecOutput
import RemountCheck.Platform.Failure
import RemountCheck.Platform.Sandbox
import RemountCheck.Platform.Volume

/-!
# The calls of a platform

A platform is used through six calls. Each has a kind of answer of its own: a lookup
never fails, and the other five may. Besides, any call may crash, which is no answer at
all.

* `RemountCheck.Call` – the calls, with what they are given;
* `RemountCheck.ExecRequest` – what a command is asked for by, and its written form;
* `RemountCheck.Call.Answer` – the kind of answer of a call;
* `RemountCheck.Crash`, `RemountCheck.Reply` – an answer, or a crash in its place.
-/

namespace RemountCheck

/-- **What a command is asked for by**, and whether its end is waited for. -/
structure ExecRequest where
  command : String
  waitForCompletion : Bool
  deriving DecidableEq, Repr

namespace ExecRequest

/-- The request for a command whose end is waited for. -/
def blocking (command : String) : ExecRequest where
  command := command
  waitForCompletion := true

/-- The request as a document. -/
def toJson (r : ExecRequest) : Json :=
  .object (Json.member "command" (.ofText r.command) ++
    Json.member "waitForCompletion" (.bool r.waitForCompletion))

end ExecRequest

/-- **A call of a platform.** A deletion that is accepted need not be complete: it is
observed by looking the resource up. -/
inductive Call where
  | createVolume (request : VolumeRequest)
  | deleteVolume (name : String)
  | createSandbox (request : SandboxRequest)
  | getSandbox (name : String)
  | deleteSandbox (name : String)
  /-- Runs a command in a sandbox and waits for its end. -/
  | exec (sandbox command : String)
  deriving DecidableEq, Repr

namespace Call

/-- **The kind of answer** of a call. -/
@[reducible] def Answer : Call → Type
  | createVolume _ => Except Failure Volume
  | deleteVolume _ => Except Failure Unit
  | createSandbox _ => Except Failure Sandbox
  | getSandbox _ => Lookup Sandbox
  | deleteSandbox _ => Except Failure Unit
  | exec _ _ => Except Failure ExecOutput

/-- The word for a call. -/
def word : Call → String
  | createVolume _ => "create_volume"
  | deleteVolume _ => "delete_volume"
  | createSandbox _ => "create_sandbox"
  | getSandbox _ => "get_sandbox"
  | deleteSandbox _ => "delete_sandbox"
  | exec _ _ => "exec"

/-- The resource that a call is about. -/
def subject : Call → String
  | createVolume request => request.name
  | deleteVolume name => name
  | createSandbox request => request.name
  | getSandbox name => name
  | deleteSandbox name => name
  | exec sandbox _ => sandbox

/-- What a call is given beyond a name, as a document: a request. -/
def body? : Call → Option Json
  | createVolume request => some request.toJson
  | createSandbox request => some request.toJson
  | exec _ command => some (ExecRequest.blocking command).toJson
  | _ => none

end Call

/-- **A crash** in the place of an answer, with its text if it has one. -/
structure Crash where
  text : Option String
  deriving DecidableEq, Repr

/-- The message of a crash. -/
def Crash.message : Crash → String
  | ⟨some text⟩ => "panic: " ++ text
  | ⟨none⟩ => "panic"

/-- An answer of a call, or a crash in its place. -/
abbrev Reply (c : Call) : Type := Except Crash c.Answer

end RemountCheck
