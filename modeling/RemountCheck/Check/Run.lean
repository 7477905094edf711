import RemountCheck.Check.Command
import RemountCheck.Check.Plan
import RemountCheck.Check.Step
import RemountCheck.Check.Teardown

/-!
# Running a check

A check writes a line to a volume through one sandbox, deletes that sandbox, waits until
it is gone, mounts the same volume in a second sandbox at another path, and reads the line
back. The second sandbox is asked for only after the first is confirmed to be gone, so that
the two never hold the volume together.

* `RemountCheck.Plan.steps` – the eight steps up to the second reading;
* `RemountCheck.Plan.judge` – the steps and the comparison, ending with a verdict;
* `RemountCheck.Plan.teardown` – what is torn down afterwards;
* `RemountCheck.Plan.check` – the whole check, ending with a report.

Whatever happens in the steps, a crash included, the teardown follows, and nothing that
happens in it changes the verdict.
-/

namespace RemountCheck

/-! ### Verdicts and reports -/

/-- **The outcome of a check.** -/
inductive Outcome where
  /-- The second sandbox read back exactly what the first had written. -/
  | success
  /-- It read back something else. -/
  | mismatch (expected actual : String)
  /-- A step stopped the check at a stage. -/
  | aborted (stage : Stage) (error : String)
  deriving DecidableEq, Repr

/-- The outcome of the steps of a check, and the last stage that they reached. -/
structure Verdict where
  outcome : Outcome
  reached : Stage
  deriving DecidableEq, Repr

/-- **The report of a check.** -/
structure Report where
  verdict : Verdict
  teardown : Teardown.Report
  deriving DecidableEq, Repr

namespace Report

/-- Whether the check passed. -/
def passed (r : Report) : Bool := r.verdict.outcome = .success

/-- The exit status of a program that ran the check. -/
def exitStatus (r : Report) : UInt8 := if r.passed then 0 else 1

end Report

/-! ### Commands -/

/-- **Runs a command** in a sandbox and ends with its output. A failure of the call stops
the step; an exit code other than zero is only told. -/
def runCommand (sandbox : String) (command : Command) : Work ExecOutput := do
  let output ←
    Work.require ("command failed in " ++ sandbox ++ ": " ++ command.text)
      (Work.ask (.exec sandbox command.text))
  match output.exitCode? with
  | some code =>
    if code ≠ 0 then
      Work.tell (.debug "non-zero exit"
        [("sandbox", .text sandbox), ("command", .text command.text),
          ("exit_code", .number code.toInt), ("status", .shown output.status?)])
  | none => pure ()
  return output

/-- Runs a command and ends with its trimmed output. -/
def runTrimmed (sandbox : String) (command : Command) : Work String := do
  return (← runCommand sandbox command).trimmed

namespace Plan

/-! ### The parts of the steps -/

/-- The request for one of the sandboxes, with the volume mounted in it. -/
def sandboxRequest (plan : Plan) (name mount : String) : SandboxRequest :=
  .ofImage name plan.image plan.memory plan.region
    [{ volume := plan.names.volume, mountPath := mount }]

/-- The request for the volume. -/
def volumeRequest (plan : Plan) : VolumeRequest :=
  .ofSize plan.names.volume plan.volumeDisplayName plan.volumeSize plan.region

/-- **Looks up where a sandbox was put**, if a region was asked for. Whatever is found is
only told. -/
def checkRegion (plan : Plan) (sandbox : String) : Work Unit :=
  match plan.region with
  | none => pure ()
  | some expected => do
    match ← Work.ask (.getSandbox sandbox) with
    | .found found =>
      if found.spec.region = some expected then
        Work.tell (.info "region verified"
          [("sandbox", .text sandbox), ("region", .text expected)])
      else
        Work.tell (.warn "region mismatch"
          [("sandbox", .text sandbox), ("expected", .text expected),
            ("actual", .shown found.spec.region)])
    | .notFound =>
      Work.tell (.warn "sandbox not visible right after creation" [("sandbox", .text sandbox)])
    | .transient error =>
      Work.tell (.warn "region check skipped"
        [("sandbox", .text sandbox), ("error", .text error)])

/-- Creates a sandbox with the volume mounted in it. -/
def createSandbox (plan : Plan) (name mount : String) : Work Unit := do
  let sandbox ←
    Work.require ("failed to create sandbox " ++ name)
      (Work.ask (.createSandbox (plan.sandboxRequest name mount)))
  Work.tell (.info "sandbox created" [("sandbox", .text sandbox.name)])
  plan.checkRegion name

/-- **Inspects a mount and reads the file**: diagnostic commands, whose output is only
told, and then the content of the file as it was written. Who runs the commands is asked
only where permissions are in question. -/
def inspect (plan : Plan) (sandbox mount : String) (identity : Bool) : Work String := do
  let path := filePath mount plan.fileName
  let mounts ← runTrimmed sandbox (.mounts mount)
  if mounts = "" then
    Work.tell (.warn "no mount found" [("sandbox", .text sandbox), ("mount", .text mount)])
  else
    Work.tell (.debug "mount info" [("sandbox", .text sandbox), ("mount_info", .text mounts)])
  let listing ← runTrimmed sandbox (.listing mount)
  Work.tell (.debug "directory listing"
    [("sandbox", .text sandbox), ("mount", .text mount), ("listing", .text listing)])
  let existence ← runTrimmed sandbox (.existence path)
  Work.tell (.info "file existence check"
    [("sandbox", .text sandbox), ("path", .text path), ("check", .text existence)])
  let details ← runTrimmed sandbox (.details path)
  Work.tell (.debug "file details" [("sandbox", .text sandbox), ("details", .text details)])
  if identity then
    let user ← runTrimmed sandbox .identity
    Work.tell (.debug "current user and groups"
      [("sandbox", .text sandbox), ("user", .text user)])
  return writtenContent (← runCommand sandbox (.read path)).raw

/-! ### The steps -/

/-- The step that creates the volume. -/
def createVolume (plan : Plan) : Steps Unit :=
  step .volumeCreated "creating volume"
    [("volume", .text plan.names.volume), ("size_mb", .number plan.volumeSize.toNat)] do
    let volume ←
      Work.require "failed to create volume" (Work.ask (.createVolume plan.volumeRequest))
    Work.tell (.info "volume created" [("volume", .text volume.metadata.name)])

/-- The step that creates the first sandbox. -/
def createFirst (plan : Plan) : Steps Unit :=
  step .firstSandboxCreated "creating sandbox with volume"
    [("sandbox", .text plan.names.firstSandbox), ("mount", .text plan.firstMount)]
    (plan.createSandbox plan.names.firstSandbox plan.firstMount)

/-- The step that writes the file. -/
def writeFirst (plan : Plan) : Steps Unit :=
  let path := filePath plan.firstMount plan.fileName
  step .firstWriteDone "writing file to volume" [("path", .text path)] do
    let _ ← runTrimmed plan.names.firstSandbox (.write plan.content path)

/-- The step that reads the file in the first sandbox. -/
def readFirst (plan : Plan) : Steps Unit :=
  step .firstReadVerified "reading file from volume in first sandbox" [] do
    let content ← plan.inspect plan.names.firstSandbox plan.firstMount false
    Work.tell (.info "file content" [("content", .text content)])

/-- The step that has the first sandbox deleted. -/
def deleteFirst (plan : Plan) : Steps Unit :=
  step .firstSandboxDeleted "deleting first sandbox"
    [("sandbox", .text plan.names.firstSandbox)]
    (Work.require ("failed to delete sandbox " ++ plan.names.firstSandbox)
      (Work.ask (.deleteSandbox plan.names.firstSandbox)))

/-- **The step that waits until the first sandbox is gone.** Without that, no second
sandbox. -/
def awaitFirstGone (plan : Plan) : Steps Unit :=
  step .firstDeletionConfirmed "waiting for deletion to complete"
    [("sandbox", .text plan.names.firstSandbox)] do
    let gone ← Work.ofRoutine (plan.policy.await plan.names.firstSandbox)
    if !gone then
      throw (.failed ("timeout waiting for sandbox " ++ plan.names.firstSandbox ++
        " deletion to complete"))

/-- The step that creates the second sandbox. -/
def createSecond (plan : Plan) : Steps Unit :=
  step .secondSandboxCreated "creating new sandbox with same volume"
    [("sandbox", .text plan.names.secondSandbox), ("mount", .text plan.secondMount)]
    (plan.createSandbox plan.names.secondSandbox plan.secondMount)

/-- The step that reads the file in the second sandbox. -/
def readSecond (plan : Plan) : Steps String :=
  step .secondReadVerified "reading file from volume in second sandbox" [] do
    let content ← plan.inspect plan.names.secondSandbox plan.secondMount true
    Work.tell (.info "file content from new sandbox" [("content", .text content)])
    return content

/-- **The steps up to the second reading**, ending with what was read. -/
def steps (plan : Plan) : Steps String := do
  plan.createVolume
  plan.createFirst
  plan.writeFirst
  plan.readFirst
  plan.deleteFirst
  plan.awaitFirstGone
  plan.createSecond
  plan.readSecond

/-! ### The verdict -/

/-- The outcome of the comparison of what was read with what was to be written. -/
def compare (plan : Plan) (read : String) : Outcome :=
  if read = plan.content then .success else .mismatch plan.content read

/-- The event that tells the comparison, the last numbered step. -/
def comparisonEvent (plan : Plan) (read : String) : Log.Event :=
  let number : String × Log.Value := ("step", .number Stage.compared.step)
  if read = plan.content then
    .info "volume data persisted across sandbox recreations"
      [number, ("original", .text plan.content), ("persisted", .text read)]
  else
    .error "volume data did not persist correctly"
      [number, ("expected", .text plan.content), ("got", .text read)]

/-- The event that tells why a check stopped. -/
def stopEvent (stop : Stop) : Log.Event :=
  .error (match stop.cause with | .failed _ => "scenario failed" | .crashed _ => "scenario panicked")
    [("stage", .text stop.reached.name), ("error", .text stop.cause.text)]

/-- **The steps and the comparison.** A crash in a step is a cause like any other, so that
this always ends with a verdict. -/
def judge (plan : Plan) : Script Verdict := do
  match ← plan.steps.run with
  | .ok read =>
    .log (plan.comparisonEvent read) (.done ⟨plan.compare read, .compared⟩)
  | .error stop =>
    .log (stopEvent stop) (.done ⟨.aborted stop.reached stop.cause.text, stop.reached⟩)

/-! ### The whole check -/

/-- **What is torn down** after a check: both sandboxes, then the volume. Only the second
deletion is waited for; the first was, unless the check stopped before. -/
def teardown (plan : Plan) : Teardown :=
  [ Resource.sandbox plan.names.firstSandbox false, Resource.sandbox plan.names.secondSandbox true,
    Resource.volume plan.names.volume ].foldl Teardown.register { policy := plan.policy }

/-- **The whole check**: the verdict, then the teardown, whatever the verdict is. -/
def check (plan : Plan) : Routine Report := do
  let verdict ← ExceptT.lift plan.judge
  Routine.tell (.info "cleaning up" [])
  let teardown ← plan.teardown.run
  if !teardown.isClean then
    Routine.tell (.warn "cleanup incomplete"
      [("failed", .number teardown.failed.length),
        ("unconfirmed", .number teardown.unconfirmed.length)])
  return { verdict, teardown }

end Plan

end RemountCheck
