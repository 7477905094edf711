import RemountCheck.Proofs.Leftovers
import RemountCheck.Proofs.Success

/-!
# What was written persists

A check that nothing disturbs passes: on a platform in memory, what it writes through its first
sandbox is what it reads back through its second, whatever the content is and wherever the volume
is mounted each time.

* `RemountCheck.Plan.Undisturbed` – what a platform in memory must not do for that;
* `RemountCheck.Plan.Stands`, `RemountCheck.Plan.IsStored` – where a check stands between two of
  its steps, and that the content is in the volume;
* `RemountCheck.Plan.check_passes` – the check ends with a report, and with success.

| after the step that | the first sandbox is | the content is stored |
|---|---|---|
| creates the volume | not there | no |
| creates the first sandbox | in use | no |
| writes, or reads back | in use | yes |
| deletes the first sandbox | lingering | yes |
| waits for that | not there | yes |

From there on only the second sandbox matters. The name of the second may be that of the first,
which is free again by then.
-/

namespace RemountCheck

namespace Plan

open Memory

/-- **Nothing disturbs a check** on a platform in memory: its volume can be created, its commands
run, what it wrote is kept, its names are free, the first sandbox can be deleted and vanishes
within the budget of the wait, and the path of the file does not look like a redirection. -/
structure Undisturbed (plan : Plan) (faults : Faults) (existing : List String)
    (transientLookups : Nat) : Prop where
  volumeCreated : faults.failingVolumeCreate = false
  /-- No command is told to fail. -/
  commandsSucceed : faults.failingExec = none
  /-- No command is told to crash. -/
  commandsReturn : faults.crashingExec = none
  volumesKept : faults.volatile = false
  firstFree : plan.names.firstSandbox ∉ existing
  secondFree : plan.names.secondSandbox ∉ existing
  firstDeletable : plan.names.firstSandbox ∉ faults.failingDelete
  firstVanishes : plan.names.firstSandbox ∉ faults.stuck
  /-- The path contains no redirection. -/
  pathInside : Text.contains " > ".toList (filePath plan.firstMount plan.fileName).toList = false
  /-- The path does not complete one with the space before it. -/
  pathStart : ¬"> ".toList <+: (filePath plan.firstMount plan.fileName).toList
  /-- No failed lookup is taken for an absence, and after all that find the deleted sandbox or fail
  the wait has one left. -/
  budget :
    plan.policy.onFailure = .treatAsAbsent ∧ transientLookups = 0 ∧
        faults.deletionLag < plan.policy.maxAttempts.toNat ∨
      plan.policy.onFailure = .countAsAttempt ∧
        transientLookups + faults.deletionLag < plan.policy.maxAttempts.toNat

/-- **Where a check stands** before it asks for its second sandbox: what is known of the first,
and how many lookups may still fail. The name of the second is free, unless it is that of the
first. -/
structure Stands (plan : Plan) (first : Option Resident) (transientLookups : Nat) (s : State) :
    Prop where
  first : s.sandboxes[plan.names.firstSandbox]? = first
  second : plan.names.secondSandbox ≠ plan.names.firstSandbox →
    s.sandboxes[plan.names.secondSandbox]? = none
  pending : s.transientLookups ≤ transientLookups

/-- **The content is stored** in the volume, with the newline that ends it. -/
def IsStored (plan : Plan) (s : State) : Prop :=
  ∃ files, s.volumes[plan.names.volume]? = some files ∧
    files[fileKey plan.fileName]? = some (String.ofList (plan.content.toList ++ ['\n']))

variable {plan : Plan} {faults : Faults} {existing : List String} {transientLookups : Nat}
  {s : State}

/-- A check starts with both of its names free. -/
theorem stands_start (hfirst : plan.names.firstSandbox ∉ existing)
    (hsecond : plan.names.secondSandbox ∉ existing) :
    plan.Stands none transientLookups (.start existing transientLookups) where
  first := by rw [sandboxes_start, if_neg hfirst]
  second _ := by rw [sandboxes_start, if_neg hsecond]
  pending := Nat.le_of_eq (transientLookups_withSandboxes existing _)

theorem IsStored.mem_volumes (h : plan.IsStored s) : plan.names.volume ∈ s.volumes := by
  obtain ⟨files, hfiles, -⟩ := h
  exact Std.ExtTreeMap.mem_iff_isSome_getElem?.mpr (by simp [hfiles])

/-! ### The steps

Each step asks for no more of the platform than what it needs to succeed. -/

section Steps

theorem succeeds_createVolume (hquota : faults.failingVolumeCreate = false)
    (hvolumes : s.volumes = ∅) (hs : plan.Stands none transientLookups s) :
    Succeeds (platform faults) plan.createVolume s fun _ s' =>
      plan.Stands none transientLookups s' ∧ plan.names.volume ∈ s'.volumes := by
  obtain ⟨volume, hanswer⟩ : ∃ volume,
      Memory.createVolume faults plan.volumeRequest
          (s.recording (.createVolume plan.volumeRequest)) =
        (.ok volume, { s.recording (.createVolume plan.volumeRequest) with
          volumes := s.volumes.insert plan.names.volume ∅ }) :=
    ⟨_, by simp [Memory.createVolume, hquota, State.recording, hvolumes]; exact ⟨rfl, rfl⟩⟩
  refine succeeds_step ((Work.succeeds_require (Work.succeeds_ofRoutine (succeeds_ask
    (c := .createVolume plan.volumeRequest) rfl hanswer))).bind ?_)
  rintro _ s' ⟨rfl, rfl⟩
  exact Work.succeeds_tell ⟨⟨hs.first, hs.second, hs.pending⟩, by simp⟩

theorem succeeds_createFirst (hs : plan.Stands none transientLookups s)
    (hvolume : plan.names.volume ∈ s.volumes) :
    Succeeds (platform faults) plan.createFirst s fun _ s' =>
      plan.Stands (some (deployed plan.firstRequest)) transientLookups s' ∧
        plan.names.volume ∈ s'.volumes := by
  refine succeeds_step ((succeeds_createSandbox plan hs.first hvolume).mono ?_)
  rintro _ s' ⟨record, pending, hpending, rfl⟩
  have hpending := Nat.le_trans hpending hs.pending
  refine ⟨⟨Std.ExtTreeMap.getElem?_insert_self, fun hne => ?_, hpending⟩, hvolume⟩
  simpa [Std.ExtTreeMap.getElem?_insert, hne.symm] using hs.second hne

section Commands

variable (hcommands : faults.failingExec = none) (hreturn : faults.crashingExec = none)
include hcommands hreturn

/-- The write leaves the volumes as the shell does. -/
theorem succeeds_writeFirst
    (hs : plan.Stands (some (deployed plan.firstRequest)) transientLookups s) :
    Succeeds (platform faults) plan.writeFirst s fun _ s' =>
      plan.Stands (some (deployed plan.firstRequest)) transientLookups s' ∧
        s'.volumes = ((Line.ofText (Command.write plan.content
          (filePath plan.firstMount plan.fileName)).text.toList).run s.volumes
            [⟨plan.names.volume, plan.firstMount, false⟩]).2 := by
  refine succeeds_step ((succeeds_runTrimmed _ hcommands hreturn hs.first rfl).bind ?_)
  rintro output s' ⟨record, rfl⟩
  exact succeeds_pure ⟨⟨hs.first, hs.second, hs.pending⟩, rfl⟩

theorem succeeds_readFirst
    (hs : plan.Stands (some (deployed plan.firstRequest)) transientLookups s) :
    Succeeds (platform faults) plan.readFirst s fun _ s' =>
      plan.Stands (some (deployed plan.firstRequest)) transientLookups s' ∧
        s'.volumes = s.volumes := by
  refine succeeds_step ((succeeds_inspect plan _ _ hcommands hreturn hs.first rfl).bind ?_)
  rintro content s' ⟨⟨record, rfl⟩, -⟩
  exact Work.succeeds_tell ⟨⟨hs.first, hs.second, hs.pending⟩, rfl⟩

/-- The last reading ends with what the file was written with, as far as the second sandbox can read
it. -/
theorem succeeds_readSecond
    (hs : s.sandboxes[plan.names.secondSandbox]? = some (deployed plan.secondRequest)) :
    Succeeds (platform faults) plan.readSecond s fun content _ =>
      content = writtenContent ((Line.read (filePath plan.secondMount plan.fileName).toList).output
        s.volumes [⟨plan.names.volume, plan.secondMount, false⟩]) := by
  refine succeeds_step ((succeeds_inspect plan _ _ hcommands hreturn hs rfl).bind ?_)
  rintro content s' ⟨-, rfl⟩
  exact Work.succeeds_tell_bind (succeeds_pure rfl)

end Commands

/-- The deletion wipes what the first sandbox mounts, if volumes are volatile. -/
theorem succeeds_deleteFirst {resident : Resident}
    (hdelete : plan.names.firstSandbox ∉ faults.failingDelete)
    (hs : plan.Stands (some resident) transientLookups s) (hlive : resident.deleting = none) :
    Succeeds (platform faults) plan.deleteFirst s fun _ s' =>
      plan.Stands (some { resident with deleting := some faults.deletionLag }) transientLookups s' ∧
        s'.volumes =
          if faults.volatile then
            (resident.sandbox.spec.volumes.map (·.volume)).foldl wipe s.volumes
          else s.volumes := by
  have hanswer : Memory.deleteSandbox faults plan.names.firstSandbox
      (s.recording (.deleteSandbox plan.names.firstSandbox)) =
        (.ok (), { s.recording (.deleteSandbox plan.names.firstSandbox) with
          sandboxes := s.sandboxes.insert plan.names.firstSandbox
            { resident with deleting := some faults.deletionLag }
          volumes :=
            if faults.volatile then
              (resident.sandbox.spec.volumes.map (·.volume)).foldl wipe s.volumes
            else s.volumes }) := by
    simp [Memory.deleteSandbox, hdelete, State.recording, hs.first, hlive]
  refine succeeds_step ((Work.succeeds_require (Work.succeeds_ofRoutine (succeeds_ask
    (c := .deleteSandbox plan.names.firstSandbox) rfl hanswer))).mono ?_)
  rintro _ s' ⟨-, rfl⟩
  refine ⟨⟨Std.ExtTreeMap.getElem?_insert_self, fun hne => ?_, hs.pending⟩, rfl⟩
  simpa [Std.ExtTreeMap.getElem?_insert, hne.symm] using hs.second hne

/-- The wait leaves no lookup that is to fail. -/
theorem succeeds_awaitFirstGone {resident : Resident} {lag : Nat}
    (hstuck : plan.names.firstSandbox ∉ faults.stuck)
    (hs : plan.Stands (some { resident with deleting := some lag }) transientLookups s)
    (hpolicy : s.transientLookups = 0 ∨ plan.policy.onFailure = .countAsAttempt)
    (hbudget : s.transientLookups + lag < plan.policy.maxAttempts.toNat) :
    Succeeds (platform faults) plan.awaitFirstGone s fun _ s' =>
      plan.Stands none 0 s' ∧ s'.volumes = s.volumes := by
  refine succeeds_step ((Work.succeeds_ofRoutine
    (succeeds_await hstuck hs.first hpolicy hbudget)).bind ?_)
  rintro gone s' ⟨rfl, hfirst, hothers, hvolumes, hnone⟩
  refine succeeds_pure ⟨⟨hfirst, fun hne => ?_, Nat.le_of_eq hnone⟩, hvolumes⟩
  rw [hothers _ hne]
  exact hs.second hne

theorem succeeds_createSecond (hs : plan.Stands none transientLookups s)
    (hvolume : plan.names.volume ∈ s.volumes) :
    Succeeds (platform faults) plan.createSecond s fun _ s' =>
      s'.sandboxes[plan.names.secondSandbox]? = some (deployed plan.secondRequest) ∧
        s'.volumes = s.volumes := by
  -- the name is free from the start on, or it is the one that the first sandbox gave back
  have hfree : s.sandboxes[plan.names.secondSandbox]? = none := by
    by_cases hne : plan.names.secondSandbox = plan.names.firstSandbox
    · rw [hne, hs.first]
    · exact hs.second hne
  refine succeeds_step ((succeeds_createSandbox plan hfree hvolume).mono ?_)
  rintro _ s' ⟨record, pending, -, rfl⟩
  exact ⟨Std.ExtTreeMap.getElem?_insert_self, rfl⟩

end Steps

/-! ### The steps together -/

section Undisturbed

variable (h : plan.Undisturbed faults existing transientLookups)
include h

theorem isStored_of_write {s' : State} (hvolume : plan.names.volume ∈ s.volumes)
    (hs' : s'.volumes = ((Line.ofText (Command.write plan.content
      (filePath plan.firstMount plan.fileName)).text.toList).run s.volumes
        [⟨plan.names.volume, plan.firstMount, false⟩]).2) : plan.IsStored s' := by
  obtain ⟨files, hfiles⟩ : ∃ files, s.volumes[plan.names.volume]? = some files :=
    ⟨_, Std.ExtTreeMap.getElem?_eq_some_getElem hvolume⟩
  rw [Line.ofText_write h.pathInside h.pathStart,
    Line.run_write (b := ⟨plan.names.volume, plan.firstMount, false⟩) hfiles] at hs'
  rw [IsStored, hs']
  exact ⟨_, Std.ExtTreeMap.getElem?_insert_self, Std.ExtTreeMap.getElem?_insert_self⟩

/-- The budget allows for the lookups that may still fail, also where those of the regions have used
up some of them. -/
theorem Undisturbed.budget_of_le (hpending : s.transientLookups ≤ transientLookups) :
    (s.transientLookups = 0 ∨ plan.policy.onFailure = .countAsAttempt) ∧
      s.transientLookups + faults.deletionLag < plan.policy.maxAttempts.toNat := by
  rcases h.budget with ⟨-, hnone, hlag⟩ | ⟨hcount, hlag⟩
  · exact ⟨.inl (by omega), by omega⟩
  · exact ⟨.inr hcount, by omega⟩

/-- **The steps succeed**, and read back what was to be written. -/
theorem succeeds_steps :
    Succeeds (platform faults) plan.steps (.start existing transientLookups) fun content _ =>
      content = plan.content := by
  refine (succeeds_createVolume h.volumeCreated (volumes_withSandboxes existing _)
    (stands_start h.firstFree h.secondFree)).bind ?_
  intro _ s₁ ⟨hs, hvolume⟩
  refine (succeeds_createFirst hs hvolume).bind ?_
  intro _ s₂ ⟨hs, hvolume⟩
  refine (succeeds_writeFirst h.commandsSucceed h.commandsReturn hs).bind ?_
  intro _ s₃ ⟨hs, hwritten⟩
  have hstored : plan.IsStored s₃ := isStored_of_write h hvolume hwritten
  refine (succeeds_readFirst h.commandsSucceed h.commandsReturn hs).bind ?_
  intro _ s₄ ⟨hs, hsame₄⟩
  refine (succeeds_deleteFirst h.firstDeletable hs rfl).bind ?_
  intro _ s₅ ⟨hs, hsame₅⟩
  rw [h.volumesKept, if_neg Bool.false_ne_true] at hsame₅
  obtain ⟨hpolicy, hbudget⟩ := h.budget_of_le hs.pending
  refine (succeeds_awaitFirstGone h.firstVanishes hs hpolicy hbudget).bind ?_
  intro _ s₆ ⟨hs, hsame₆⟩
  -- from the write on, the volumes stay as they are
  have hstored : plan.IsStored s₆ := by rwa [IsStored, hsame₆, hsame₅, hsame₄]
  refine (succeeds_createSecond hs hstored.mem_volumes).bind ?_
  intro _ s₇ ⟨hs, hsame₇⟩
  refine (succeeds_readSecond h.commandsSucceed h.commandsReturn hs).mono ?_
  rintro content - rfl
  obtain ⟨files, hfiles, hraw⟩ : plan.IsStored s₇ := by rwa [IsStored, hsame₇]
  rw [Line.output_read (b := ⟨plan.names.volume, plan.secondMount, false⟩) hfiles hraw,
    writtenContent_append_newline]

end Undisturbed

/-! ### The whole check -/

/-- **What was written persists**, and is read back whatever the volume was mounted at: a check
that nothing disturbs passes. -/
theorem check_passes (plan : Plan) (faults : Faults) (existing : List String)
    (transientLookups : Nat) (h : plan.Undisturbed faults existing transientLookups) :
    ∃ report,
      (plan.check.runOn (platform faults) (.start existing transientLookups)).value = .ok report ∧
        report.verdict = ⟨.success, .compared⟩ ∧ report.exitStatus = 0 := by
  obtain ⟨report, hreport⟩ := exists_report plan faults (.start existing transientLookups)
  have hverdict : report.verdict = ⟨.success, .compared⟩ := by
    rw [plan.verdict_of_check hreport]
    obtain ⟨-, hjudge, -⟩ := plan.run_judge (platform faults) (.start existing transientLookups)
    obtain ⟨_, hread, rfl⟩ := (succeeds_steps h).exists_value
    rw [hjudge, hread]
    simp [verdict, compare]
  exact ⟨report, hreport, hverdict, by simp [Report.exitStatus, Report.passed, hverdict]⟩

/-- The names of both sandboxes may be one, mounts and file may have any slashes, and the content
any quotes and redirections. -/
theorem check_passes_under_one_name :
    let plan : Plan :=
      { names := ⟨"volume", "sandbox", "sandbox"⟩
        image := "image"
        region := some "region"
        firstMount := "//first//"
        secondMount := ""
        fileName := "/file"
        content := "it's\n > '\\''"
        policy := { maxAttempts := 4, onFailure := .countAsAttempt } }
    let faults : Faults := { deletionLag := 2, stuck := ["other"] }
    plan.Undisturbed faults ["other"] 1 ∧
      ∃ report, (plan.check.runOn (platform faults) (.start ["other"] 1)).value = .ok report ∧
        report.verdict = ⟨.success, .compared⟩ ∧ report.exitStatus = 0 := by
  intro plan faults
  have h : plan.Undisturbed faults ["other"] 1 := by
    constructor <;> decide
  exact ⟨h, check_passes plan faults ["other"] 1 h⟩

end Plan

end RemountCheck
