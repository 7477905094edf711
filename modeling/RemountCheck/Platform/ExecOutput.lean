import RemountCheck.Json.Fields
import RemountCheck.Json.Parser
import RemountCheck.Text.Blank

/-!
# The output of a command

A platform answers a command in one of two ways: with a JSON object that describes the
finished process, or with bare text. Which of the two a body is, is decided without
ever failing:

* `RemountCheck.ExecOutput.ofBody` – the output that a body stands for;
* `RemountCheck.ExecOutput.raw`, `RemountCheck.ExecOutput.trimmed` – what the command
  printed, as it is and without the blanks around it.

In the object only three members are looked at. Of several members of one name the last
counts, and one of an unexpected type counts as absent without touching the others.
-/

namespace RemountCheck

/-- What is known of a finished process: what it printed, its exit code and its
status. -/
structure ProcessResult where
  logs : Option String := none
  exitCode : Option Int32 := none
  status : Option String := none
  deriving DecidableEq, Repr

/-- **The output of a command.** -/
inductive ExecOutput where
  | structured (result : ProcessResult)
  | text (s : String)
  deriving DecidableEq, Repr

/-- The last member of a name. Names that are not readable are no name. -/
def Json.lastMember? (name : String) : List (Json.Literal × Json) → Option Json
  | [] => none
  | (key, value) :: members =>
    match lastMember? name members with
    | some value => some value
    | none => if Json.Literal.text? key = some name then some value else none

/-- An integer within 32 bits with a sign. -/
def Json.int32? : Json → Option Int32
  | .number n =>
    n.integer?.bind fun i => if -2147483648 ≤ i ∧ i ≤ 2147483647 then some (Int32.ofInt i) else none
  | _ => none

/-- **What the members of an object say of a process.** -/
def ProcessResult.ofMembers (members : List (Json.Literal × Json)) : ProcessResult where
  logs := (Json.lastMember? "logs" members).bind Json.text?
  exitCode := (Json.lastMember? "exitCode" members).bind Json.int32?
  status := (Json.lastMember? "status" members).bind Json.text?

namespace ExecOutput

/-- **The output that a body stands for**: an object describes a process, a string is
the text that it writes, and everything else, JSON or not, is text as it stands. -/
def ofBody (body : String) : ExecOutput :=
  match Json.parseReadable? body with
  | some (.object members) => .structured (.ofMembers members)
  | some (.string s) => .text (s.text?.getD body)
  | _ => .text body

/-- What the command printed. A process that does not say printed nothing. -/
def raw : ExecOutput → String
  | structured result => result.logs.getD ""
  | text s => s

/-- What the command printed, without the blanks around it. -/
def trimmed (output : ExecOutput) : String := String.ofList (Text.trim output.raw.toList)

/-- The exit code, where one is known. -/
def exitCode? : ExecOutput → Option Int32
  | structured result => result.exitCode
  | text _ => none

/-- The status of the process, where one is known. -/
def status? : ExecOutput → Option String
  | structured result => result.status
  | text _ => none

end ExecOutput

end RemountCheck
