import RemountCheck.Memory.Shell
import RemountCheck.Script.Run

/-!
# A platform in memory

The six calls on a platform that lives in memory. A call that fails changes nothing; a
command that crashes does not even reach the record.

* `RemountCheck.Memory.reply` – the reply to a call in a state, and the state after it;
* `RemountCheck.Memory.platform` – the platform, for given faults.
-/

namespace RemountCheck

namespace Memory

/-- Creates a volume without files, unless there is one of its name. -/
def createVolume (faults : Faults) (request : VolumeRequest) (s : State) :
    Except Failure Volume × State :=
  if faults.failingVolumeCreate then (.error (.provision "volume quota exceeded"), s)
  else if request.name ∈ s.volumes then
    (.error (.provision ("volume " ++ request.name ++ " already exists")), s)
  else
    (.ok { metadata := request.metadata, spec := request.spec, status := some "READY" },
      { s with volumes := s.volumes.insert request.name ∅ })

/-- Deletes a volume with its files. -/
def deleteVolume (faults : Faults) (name : String) (s : State) : Except Failure Unit × State :=
  if name ∈ faults.failingDelete then
    (.error (.backend ("volume delete returned 500: " ++ name)), s)
  else if name ∈ s.volumes then (.ok (), { s with volumes := s.volumes.erase name })
  else (.error (.notFound ("volume " ++ name)), s)

/-- Creates a sandbox, unless there is one of its name or a volume to be mounted is missing. -/
def createSandbox (request : SandboxRequest) (s : State) : Except Failure Sandbox × State :=
  if request.name ∈ s.sandboxes then
    (.error (.provision ("sandbox " ++ request.name ++ " already exists")), s)
  else
    match request.spec.volumes.find? fun b => b.volume ∉ s.volumes with
    | some b => (.error (.provision ("volume " ++ b.volume ++ " not found")), s)
    | none =>
      let sandbox : Sandbox :=
        { metadata := request.metadata, spec := request.spec, status := some "DEPLOYED" }
      (.ok sandbox, { s with sandboxes := s.sandboxes.insert request.name { sandbox } })

/-- **Looks a sandbox up.** A sandbox whose deletion was accepted is found as often as it
lingers, or for ever if it is stuck, and is gone with the lookup after that. -/
def getSandbox (faults : Faults) (name : String) (s : State) : Lookup Sandbox × State :=
  match s.transientLookups with
  | pending + 1 =>
    (.transient "sandbox get returned 503 Service Unavailable", { s with transientLookups := pending })
  | 0 =>
    match s.sandboxes[name]? with
    | none => (.notFound, s)
    | some resident =>
      match resident.deleting with
      | none => (.found resident.sandbox, s)
      | some left =>
        if name ∈ faults.stuck then (.found resident.sandbox, s)
        else
          match left with
          | 0 => (.notFound, { s with sandboxes := s.sandboxes.erase name })
          | left + 1 =>
            (.found resident.sandbox,
              { s with sandboxes := s.sandboxes.insert name { resident with deleting := some left } })

/-- Takes the files of a volume away, if the volume exists. -/
def wipe (volumes : Volumes) (name : String) : Volumes := volumes.modify name fun _ => ∅

/-- **Accepts the deletion of a sandbox.** The first time it begins to linger, and volatile
volumes that it mounts lose their files; after that nothing more happens. -/
def deleteSandbox (faults : Faults) (name : String) (s : State) : Except Failure Unit × State :=
  if name ∈ faults.failingDelete then
    (.error (.backend ("sandbox delete returned 500: " ++ name)), s)
  else
    match s.sandboxes[name]? with
    | none => (.error (.notFound ("sandbox " ++ name)), s)
    | some resident =>
      match resident.deleting with
      | some _ => (.ok (), s)
      | none =>
        let mounted := resident.sandbox.spec.volumes.map (·.volume)
        (.ok (),
          { s with
            sandboxes :=
              s.sandboxes.insert name { resident with deleting := some faults.deletionLag }
            volumes := if faults.volatile then mounted.foldl wipe s.volumes else s.volumes })

/-- Whether a command contains a text that is looked for, if one is. -/
def concerns (needle : Option String) (command : String) : Bool :=
  needle.any fun needle => Text.contains needle.toList command.toList

/-- Runs a command in a sandbox that is in use. -/
def exec (faults : Faults) (name command : String) (s : State) :
    Except Failure ExecOutput × State :=
  if concerns faults.failingExec command then
    (.error (.exec ("process exec returned 502: " ++ faults.failingExec.getD "")), s)
  else
    match s.sandboxes[name]? with
    | some ⟨sandbox, none⟩ =>
      let (logs, volumes) := (Line.ofText command.toList).run s.volumes sandbox.spec.volumes
      (.ok (.structured { logs := some logs, exitCode := some 0, status := some "completed" }),
        { s with volumes })
    | _ => (.error (.notFound ("sandbox " ++ name)), s)

/-- The answer to a call that does not crash, and the state after it. -/
def answer (faults : Faults) : (c : Call) → State → c.Answer × State
  | .createVolume request => createVolume faults request
  | .deleteVolume name => deleteVolume faults name
  | .createSandbox request => createSandbox request
  | .getSandbox name => getSandbox faults name
  | .deleteSandbox name => deleteSandbox faults name
  | .exec name command => exec faults name command

/-- The crash of a call, if it is one that crashes. -/
def crash? (faults : Faults) : Call → Option Crash
  | .exec _ command =>
    if concerns faults.crashingExec command then
      some ⟨some ("exec transport crashed on " ++ faults.crashingExec.getD "")⟩
    else none
  | _ => none

/-- **The reply to a call** in a state, and the state after it. -/
def reply (faults : Faults) (c : Call) (s : State) : Reply c × State :=
  match crash? faults c with
  | some crash => (.error crash, s)
  | none =>
    let (answer, s) := answer faults c (s.recording c)
    (.ok answer, s)

/-- **The platform in memory**, which tells no events of its own. -/
def platform (faults : Faults) : Platform State where
  reply c s :=
    let (reply, s) := reply faults c s
    (reply, [], s)

end Memory

end RemountCheck
