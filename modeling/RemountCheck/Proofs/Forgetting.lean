import RemountCheck.Proofs.Persistence
import RemountCheck.Proofs.Verdict

/-!
# What was written is forgotten

On a platform in memory whose volumes are volatile, the deletion of the first sandbox takes the
file away that was written through it. The second sandbox then reads what the shell says of a file
that is not there, and the check compares that text with its content.

* `RemountCheck.Plan.Forgets` – a check that nothing but that disturbs;
* `RemountCheck.Plan.missingText` – what the second sandbox reads instead;
* `RemountCheck.Plan.succeeds_steps_of_forgets` – the steps succeed all the same;
* `RemountCheck.Plan.lost_data_is_reported` – the check reports a mismatch, unless its content is
  that very text.

| after the step that | the volume is there | its files are |
|---|---|---|
| creates the volume | yes | none |
| writes, or reads back | yes | whatever the shell made of the write |
| deletes the first sandbox, or any later one | yes | none |

Hence it does not matter where the write went, and nothing is asked of the path that it went to.
-/

namespace RemountCheck

/-- A text that does not end in a newline reads as it stands. -/
theorem writtenContent_append_of_getLast? (text : String) {rest : String} {c : Char}
    (h : rest.toList.getLast? = some c) (hc : c ≠ '\n') :
    writtenContent (text ++ rest) = text ++ rest := by
  have hend : (text ++ rest).toList.getLast? ≠ some '\n' := by
    rw [String.toList_append, List.getLast?_append, h, Option.some_or]
    simpa using hc
  rw [writtenContent, dropNewline_eq_self hend, String.ofList_toList]

namespace Memory

/-- A command takes no volume away. -/
theorem Line.mem_volumes_run {volumes : Volumes} {bindings : List Binding} {volume : String}
    (line : Line) (h : volume ∈ volumes) : volume ∈ (line.run volumes bindings).2 := by
  by_cases hline : ∃ word path, line = .write word path
  · obtain ⟨word, path, rfl⟩ := hline
    rw [run]
    cases Text.Quoted.decode? word with
    | none => exact h
    | some content =>
      cases hwritten : written? volumes bindings path content with
      | none => simpa [hwritten] using h
      | some volumes' =>
        obtain ⟨b, -, files, rfl⟩ := exists_of_written? hwritten
        simp [hwritten, Std.ExtTreeMap.mem_insert, h]
  · rw [run_eq_output fun word path hwrite => hline ⟨word, path, hwrite⟩]
    exact h

/-- A read of a file that the volume does not have says so. -/
theorem Line.output_read_of_missing {volumes : Volumes} {b : Binding} {files : Files}
    {file : String} (h : volumes[b.volume]? = some files) (hmissing : files[fileKey file]? = none) :
    (read (filePath b.mountPath file).toList).output volumes [b] =
      "cat: can't open '" ++ filePath b.mountPath file ++ "': No such file or directory" := by
  simp [output, contentAt?, resolve?_filePath, h, hmissing]

end Memory

namespace Plan

open Memory

/-- **A platform in memory forgets what a check writes**, and does nothing else to disturb it: its
volumes are volatile, but the volume of the check can be created, its commands run, its names are
free, and the first sandbox can be deleted and vanishes within the budget of the wait. -/
structure Forgets (plan : Plan) (faults : Faults) (existing : List String) : Prop where
  volumesWiped : faults.volatile = true
  volumeCreated : faults.failingVolumeCreate = false
  /-- No command is told to fail. -/
  commandsSucceed : faults.failingExec = none
  /-- No command is told to crash. -/
  commandsReturn : faults.crashingExec = none
  firstFree : plan.names.firstSandbox ∉ existing
  secondFree : plan.names.secondSandbox ∉ existing
  firstDeletable : plan.names.firstSandbox ∉ faults.failingDelete
  firstVanishes : plan.names.firstSandbox ∉ faults.stuck
  budget : faults.deletionLag < plan.policy.maxAttempts.toNat

/-- **What the second sandbox reads** where its file is not there. -/
def missingText (plan : Plan) : String :=
  "cat: can't open '" ++ filePath plan.secondMount plan.fileName ++ "': No such file or directory"

/-- That text ends in no newline. -/
theorem writtenContent_missingText (plan : Plan) :
    writtenContent plan.missingText = plan.missingText := by
  have hlast : "': No such file or directory".toList.getLast? = some 'y' := by decide
  exact writtenContent_append_of_getLast? _ hlast (by decide)

variable {plan : Plan} {faults : Faults} {existing : List String}

/-- **The steps succeed**, and read back that there is no file. -/
theorem succeeds_steps_of_forgets (h : plan.Forgets faults existing) :
    Succeeds (platform faults) plan.steps (.start existing 0) fun content _ =>
      content = plan.missingText := by
  refine (succeeds_createVolume h.volumeCreated (volumes_withSandboxes existing _)
    (stands_start h.firstFree h.secondFree)).bind ?_
  intro _ s₁ ⟨hs, hvolume⟩
  refine (succeeds_createFirst hs hvolume).bind ?_
  intro _ s₂ ⟨hs, hvolume⟩
  refine (succeeds_writeFirst h.commandsSucceed h.commandsReturn hs).bind ?_
  intro _ s₃ ⟨hs, hwritten⟩
  have hvolume : plan.names.volume ∈ s₃.volumes := hwritten ▸ Line.mem_volumes_run _ hvolume
  refine (succeeds_readFirst h.commandsSucceed h.commandsReturn hs).bind ?_
  intro _ s₄ ⟨hs, hsame₄⟩
  -- the deletion wipes the volume, which the first sandbox mounts
  refine (succeeds_deleteFirst h.firstDeletable hs rfl).bind ?_
  intro _ s₅ ⟨hs, hwiped⟩
  have hempty : s₅.volumes[plan.names.volume]? = some ∅ := by
    obtain ⟨files, hfiles⟩ : ∃ files, s₃.volumes[plan.names.volume]? = some files :=
      ⟨_, Std.ExtTreeMap.getElem?_eq_some_getElem hvolume⟩
    have hmounted : plan.names.volume ∈
        (deployed plan.firstRequest).sandbox.spec.volumes.map (·.volume) := List.mem_cons_self
    rw [hwiped, h.volumesWiped, if_pos rfl, getElem?_foldl_wipe, if_pos hmounted, hsame₄, hfiles]
    rfl
  have hpending : s₅.transientLookups = 0 := Nat.eq_zero_of_le_zero hs.pending
  have hbudget : s₅.transientLookups + faults.deletionLag < plan.policy.maxAttempts.toNat := by
    rw [hpending, Nat.zero_add]
    exact h.budget
  refine (succeeds_awaitFirstGone h.firstVanishes hs (.inl hpending) hbudget).bind ?_
  intro _ s₆ ⟨hs, hsame₆⟩
  have hvolume : plan.names.volume ∈ s₆.volumes := by
    rw [hsame₆, Std.ExtTreeMap.mem_iff_isSome_getElem?, hempty]
    rfl
  refine (succeeds_createSecond hs hvolume).bind ?_
  intro _ s₇ ⟨hs, hsame₇⟩
  refine (succeeds_readSecond h.commandsSucceed h.commandsReturn hs).mono ?_
  rintro content - rfl
  have hempty : s₇.volumes[plan.names.volume]? = some ∅ := by rw [hsame₇, hsame₆, hempty]
  have hread := Line.output_read_of_missing (b := ⟨plan.names.volume, plan.secondMount, false⟩)
    hempty (Std.ExtTreeMap.getElem?_empty (a := fileKey plan.fileName))
  rw [hread]
  exact plan.writtenContent_missingText

/-- The verdict on a check whose data is lost rests on its content alone. -/
theorem exists_report_of_forgets (h : plan.Forgets faults existing) :
    ∃ report, (plan.check.runOn (platform faults) (.start existing 0)).value = .ok report ∧
      report.verdict = ⟨plan.compare plan.missingText, .compared⟩ := by
  obtain ⟨report, hreport⟩ := exists_report plan faults (.start existing 0)
  obtain ⟨-, hjudge, -⟩ := plan.run_judge (platform faults) (.start existing 0)
  obtain ⟨_, hread, rfl⟩ := (succeeds_steps_of_forgets h).exists_value
  refine ⟨report, hreport, ?_⟩
  rw [plan.verdict_of_check hreport, hjudge, hread]
  rfl

/-- **Lost data is reported.** A check on a platform in memory that forgets what it writes, and
disturbs it in no other way, ends with a report. It reaches the comparison, and finds the text of
the shell about the missing file in place of its content: it reports a mismatch, with both, unless
the content is that text, and exactly then it succeeds. Where the first sandbox mounted the volume
is all the same. -/
theorem lost_data_is_reported (plan : Plan) (faults : Faults) (existing : List String)
    (h : plan.Forgets faults existing) :
    ∃ report, (plan.check.runOn (platform faults) (.start existing 0)).value = .ok report ∧
      report.verdict.reached = .compared ∧
      (plan.content ≠ plan.missingText →
        report.verdict.outcome = .mismatch plan.content plan.missingText) ∧
      (report.verdict.outcome = .success ↔ plan.content = plan.missingText) ∧
      ∀ firstMount, ∃ other,
        (({ plan with firstMount } : Plan).check.runOn (platform faults)
          (.start existing 0)).value = .ok other ∧ other.verdict = report.verdict := by
  obtain ⟨report, hreport, hverdict⟩ := exists_report_of_forgets h
  refine ⟨report, hreport, ?_, fun hne => ?_, ?_, fun firstMount => ?_⟩
  · rw [hverdict]
  · rw [hverdict]
    exact plan.compare_eq_mismatch.mpr ⟨hne.symm, rfl, rfl⟩
  · rw [hverdict]
    exact plan.compare_eq_success.trans eq_comm
  · -- no condition is about the first mount, and neither is the text
    have h : ({ plan with firstMount } : Plan).Forgets faults existing := { h with }
    obtain ⟨other, hother, heq⟩ := exists_report_of_forgets h
    exact ⟨other, hother, heq.trans hverdict.symm⟩

/-- The path that is written to may be cut by the shell, and the content may be the very text that
stands for the loss. -/
theorem lost_data_is_reported_but_for_one_content :
    let plan : Plan :=
      { names := .fixed
        image := "image"
        firstMount := "/a > "
        secondMount := "/b/"
        fileName := "file"
        content := "cat: can't open '/b/file': No such file or directory"
        policy := { maxAttempts := 3 } }
    let faults : Faults :=
      { deletionLag := 2, stuck := ["second-sandbox"], volatile := true }
    plan.Forgets faults ["other"] ∧
      ∃ report, (plan.check.runOn (platform faults) (.start ["other"] 0)).value = .ok report ∧
        report.verdict.outcome = .success := by
  intro plan faults
  have h : plan.Forgets faults ["other"] := by
    constructor <;> decide
  obtain ⟨report, hreport, -, -, hsuccess, -⟩ := lost_data_is_reported plan faults ["other"] h
  exact ⟨h, report, hreport, hsuccess.mpr (by decide)⟩

end Plan

end RemountCheck
