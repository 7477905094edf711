/-!
# The stages of a check

A check moves through ten stages, each entered by one numbered step. They are
ordered as they are reached, so that the stage a check stopped at says which of
its steps were done.

* `RemountCheck.Stage` – the stages;
* `RemountCheck.Stage.step` – the number of the step that enters a stage;
* `RemountCheck.Stage.previous` – the stage that this step leaves;
* `RemountCheck.Stage.name` – a stage as it is written in a report.
-/

namespace RemountCheck

/-- **The last state that a check reached.** -/
inductive Stage where
  | start
  | volumeCreated
  | firstSandboxCreated
  | firstWriteDone
  | firstReadVerified
  | firstSandboxDeleted
  | firstDeletionConfirmed
  | secondSandboxCreated
  | secondReadVerified
  | compared
  deriving DecidableEq, Repr

namespace Stage

/-- The stages in the order in which they are reached. -/
def all : List Stage :=
  [start, volumeCreated, firstSandboxCreated, firstWriteDone, firstReadVerified,
    firstSandboxDeleted, firstDeletionConfirmed, secondSandboxCreated, secondReadVerified, compared]

/-- **The number of the step** that enters a stage; none enters the start. -/
def step : Stage → Nat
  | start => 0
  | volumeCreated => 1
  | firstSandboxCreated => 2
  | firstWriteDone => 3
  | firstReadVerified => 4
  | firstSandboxDeleted => 5
  | firstDeletionConfirmed => 6
  | secondSandboxCreated => 7
  | secondReadVerified => 8
  | compared => 9

/-- The stage that the step into a stage leaves; the start is its own. -/
def previous : Stage → Stage
  | start => start
  | volumeCreated => start
  | firstSandboxCreated => volumeCreated
  | firstWriteDone => firstSandboxCreated
  | firstReadVerified => firstWriteDone
  | firstSandboxDeleted => firstReadVerified
  | firstDeletionConfirmed => firstSandboxDeleted
  | secondSandboxCreated => firstDeletionConfirmed
  | secondReadVerified => secondSandboxCreated
  | compared => secondReadVerified

/-- A stage as it is written in a report. -/
def name : Stage → String
  | start => "init"
  | volumeCreated => "volume-created"
  | firstSandboxCreated => "first-sandbox-created"
  | firstWriteDone => "first-write-done"
  | firstReadVerified => "first-read-verified"
  | firstSandboxDeleted => "first-sandbox-deleted"
  | firstDeletionConfirmed => "first-deletion-confirmed"
  | secondSandboxCreated => "second-sandbox-created"
  | secondReadVerified => "second-read-verified"
  | compared => "compared"

/-- Stages are ordered as they are reached. -/
instance : LT Stage := ⟨fun a b => a.step < b.step⟩

/-- Stages are ordered as they are reached. -/
instance : LE Stage := ⟨fun a b => a.step ≤ b.step⟩

instance (a b : Stage) : Decidable (a < b) := inferInstanceAs (Decidable (a.step < b.step))

instance (a b : Stage) : Decidable (a ≤ b) := inferInstanceAs (Decidable (a.step ≤ b.step))

/-- A step leaves the stage just below the one it enters. -/
theorem step_previous (s : Stage) : s.previous.step = s.step - 1 := by cases s <;> rfl

end Stage

end RemountCheck
