import RemountCheck.Check.Stage
import RemountCheck.Script.Basic

/-!
# The steps of a check

A check is made of steps. A step announces the stage that it is to enter, does its work,
and either enters the stage or stops the check. A check that stops keeps the stage that the
step was to enter, and so the stage that was reached.

* `RemountCheck.Cause` – why a step stops: something failed, or a call crashed;
* `RemountCheck.Stop` – a check that stopped, with the stage that it reached;
* `RemountCheck.Work`, `RemountCheck.Steps` – scripts that may end with one or the other;
* `RemountCheck.step` – one numbered step.
-/

namespace RemountCheck

/-- **Why a step stops.** -/
inductive Cause where
  /-- Something failed, as this text says. -/
  | failed (text : String)
  /-- A call crashed. -/
  | crashed (crash : Crash)
  deriving DecidableEq, Repr

/-- The text of a cause. -/
def Cause.text : Cause → String
  | .failed text => text
  | .crashed crash => crash.message

/-- **A check that stopped** on its way to a stage. -/
structure Stop where
  entering : Stage
  cause : Cause
  deriving DecidableEq, Repr

/-- The last stage that was reached: the one that the step had to leave. -/
def Stop.reached (s : Stop) : Stage := s.entering.previous

/-- The work of a step, which may stop. -/
abbrev Work := ExceptT Cause Script

/-- A sequence of steps, each of which may stop the check. -/
abbrev Steps := ExceptT Stop Script

namespace Work

/-- A routine as work: a crash stops the step. -/
def ofRoutine (routine : Routine α) : Work α := ExceptT.adapt Cause.crashed routine

/-- Tells an event. -/
def tell (event : Log.Event) : Work Unit := ofRoutine (Routine.tell event)

/-- Makes a call and ends with its answer. -/
def ask (c : Call) : Work c.Answer := ofRoutine (Routine.ask c)

/-- **Requires success**: a failure stops the step, and its message follows what was
being done. -/
def require (doing : String) (work : Work (Except Failure α)) : Work α := do
  match ← work with
  | .ok value => return value
  | .error failure => throw (.failed (doing ++ ": " ++ failure.message))

end Work

/-- **One numbered step** into a stage: it is announced with its number, and where its work
stops, so does the check. -/
def step (stage : Stage) (announcement : String) (fields : List (String × Log.Value))
    (work : Work α) : Steps α :=
  ExceptT.adapt (Stop.mk stage) do
    Work.tell (.info announcement (("step", .number stage.step) :: fields))
    work

end RemountCheck
