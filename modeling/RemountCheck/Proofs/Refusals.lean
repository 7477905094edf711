import RemountCheck.Proofs.Territory

/-!
# Calls that are refused

A platform in memory refuses a call, or it crashes in it, or it does all of what the call asks for.
There is nothing in between: a call that is refused leaves an entry in the record and nothing else,
and one that crashes not even that. So the calls that fail can be taken out of any sequence of
calls, and the platform comes to the same volumes, sandboxes and lookups that are to fail.

| a call that | is refused if |
|---|---|
| creates a volume | no volume can be created, or the name is taken |
| deletes a volume | deletions of the name fail, or there is no such volume |
| creates a sandbox | the name is taken, or one of its volumes is missing |
| looks a sandbox up | never |
| deletes a sandbox | deletions of the name fail, or there is no such sandbox |
| runs a command | commands like it fail, or the sandbox is not in use |

Only the last can crash, if the command is one that is told to.

* `RemountCheck.Memory.State.Refuses`, `RemountCheck.Memory.Crashes` – what is refused, and what
  crashes;
* `RemountCheck.Memory.AllOrNothing` – an answer that is a failure exactly if the call is refused,
  and then has no effect, with one lemma for each call;
* `RemountCheck.Memory.State.Like` – two states that differ at most in their records: all calls are
  answered alike in them;
* `RemountCheck.Memory.failed_calls_are_atomic` – what calls that fail leave, one at a time and in
  any sequence of calls.
-/

namespace RemountCheck

namespace Memory

/-! ### What is refused -/

/-- **A call crashes**: it runs a command that contains what commands crash on. -/
def Crashes (faults : Faults) (c : Call) : Prop :=
  ∃ name command, c = .exec name command ∧ concerns faults.crashingExec command = true

/-- **A call is refused** in a state. -/
def State.Refuses (s : State) (faults : Faults) : Call → Prop
  | .createVolume request => faults.failingVolumeCreate = true ∨ request.name ∈ s.volumes
  | .deleteVolume name => name ∈ faults.failingDelete ∨ name ∉ s.volumes
  | .createSandbox request =>
    request.name ∈ s.sandboxes ∨ ∃ b ∈ request.spec.volumes, b.volume ∉ s.volumes
  | .getSandbox _ => False
  | .deleteSandbox name => name ∈ faults.failingDelete ∨ name ∉ s.sandboxes
  | .exec name command =>
    concerns faults.failingExec command = true ∨
      ∀ sandbox, s.sandboxes[name]? ≠ some ⟨sandbox, none⟩

/-- **All or nothing**: there is no success exactly if something is refused, and then nothing
changes. -/
structure AllOrNothing (refused : Prop) (success : Bool) (before after : State) : Prop where
  failure_iff : success = false ↔ refused
  unchanged : refused → after = before

section Answers

variable {faults : Faults} {s : State}

theorem AllOrNothing.of_refused {refused : Prop} (h : refused) (s : State) :
    AllOrNothing refused false s s :=
  ⟨iff_of_true rfl h, fun _ => rfl⟩

theorem AllOrNothing.of_accepted {refused : Prop} (h : ¬refused) (before after : State) :
    AllOrNothing refused true before after :=
  ⟨iff_of_false nofun h, fun hrefused => absurd hrefused h⟩

theorem allOrNothing_createVolume (faults : Faults) (request : VolumeRequest) (s : State) :
    AllOrNothing (s.Refuses faults (.createVolume request)) (createVolume faults request s).1.isOk s
      (createVolume faults request s).2 := by
  unfold createVolume
  by_cases hfailing : faults.failingVolumeCreate = true
  · rw [if_pos hfailing]
    exact .of_refused (.inl hfailing) s
  · by_cases hname : request.name ∈ s.volumes
    · rw [if_neg hfailing, if_pos hname]
      exact .of_refused (.inr hname) s
    · rw [if_neg hfailing, if_neg hname]
      exact .of_accepted (not_or.mpr ⟨hfailing, hname⟩) ..

theorem allOrNothing_deleteVolume (faults : Faults) (name : String) (s : State) :
    AllOrNothing (s.Refuses faults (.deleteVolume name)) (deleteVolume faults name s).1.isOk s
      (deleteVolume faults name s).2 := by
  unfold deleteVolume
  by_cases hfailing : name ∈ faults.failingDelete
  · rw [if_pos hfailing]
    exact .of_refused (.inl hfailing) s
  · by_cases hname : name ∈ s.volumes
    · rw [if_neg hfailing, if_pos hname]
      exact .of_accepted (not_or.mpr ⟨hfailing, not_not_intro hname⟩) ..
    · rw [if_neg hfailing, if_neg hname]
      exact .of_refused (.inr hname) s

/-- All volumes of a sandbox are looked for before it is created. -/
theorem allOrNothing_createSandbox (faults : Faults) (request : SandboxRequest) (s : State) :
    AllOrNothing (s.Refuses faults (.createSandbox request)) (createSandbox request s).1.isOk s
      (createSandbox request s).2 := by
  by_cases hname : request.name ∈ s.sandboxes
  · rw [createSandbox, if_pos hname]
    exact .of_refused (.inl hname) s
  · by_cases hmissing : ∃ b ∈ request.spec.volumes, b.volume ∉ s.volumes
    · have hsome : (request.spec.volumes.find? fun b => b.volume ∉ s.volumes).isSome := by
        simpa using hmissing
      obtain ⟨b, hb⟩ := Option.isSome_iff_exists.mp hsome
      rw [createSandbox, if_neg hname, hb]
      exact .of_refused (.inr hmissing) s
    · have hvolumes : ∀ b ∈ request.spec.volumes, b.volume ∈ s.volumes := by
        simpa using hmissing
      rw [createSandbox_eq request (Std.ExtTreeMap.getElem?_eq_none hname) hvolumes]
      exact .of_accepted (not_or.mpr ⟨hname, hmissing⟩) ..

theorem allOrNothing_deleteSandbox (faults : Faults) (name : String) (s : State) :
    AllOrNothing (s.Refuses faults (.deleteSandbox name)) (deleteSandbox faults name s).1.isOk s
      (deleteSandbox faults name s).2 := by
  by_cases hfailing : name ∈ faults.failingDelete
  · rw [deleteSandbox, if_pos hfailing]
    exact .of_refused (.inl hfailing) s
  · rcases hr : s.sandboxes[name]? with _ | r
    · have hname : name ∉ s.sandboxes := by simpa using hr
      rw [deleteSandbox_of_absent hfailing hr]
      exact .of_refused (.inr hname) s
    · have hname : name ∈ s.sandboxes := by simp [Std.ExtTreeMap.mem_iff_isSome_getElem?, hr]
      obtain ⟨volumes, heq⟩ := deleteSandbox_eq hfailing hr
      rw [heq]
      exact .of_accepted (not_or.mpr ⟨hfailing, not_not_intro hname⟩) ..

theorem allOrNothing_exec (faults : Faults) (name command : String) (s : State) :
    AllOrNothing (s.Refuses faults (.exec name command)) (exec faults name command s).1.isOk s
      (exec faults name command s).2 := by
  unfold exec
  by_cases hfailing : concerns faults.failingExec command = true
  · rw [if_pos hfailing]
    exact .of_refused (.inl hfailing) s
  · rw [if_neg hfailing]
    rcases hr : s.sandboxes[name]? with _ | ⟨sandbox, _ | left⟩
    · exact .of_refused (.inr fun sandbox hlive => by cases hr.symm.trans hlive) s
    · exact .of_accepted (not_or.mpr ⟨hfailing, fun hdead => hdead sandbox hr⟩) ..
    · exact .of_refused (.inr fun other hlive => by cases hr.symm.trans hlive) s

/-- **Every call is answered with all or nothing.** -/
theorem allOrNothing_answer (faults : Faults) (c : Call) (s : State) :
    AllOrNothing (s.Refuses faults c) (c.isSuccess (answer faults c s).1) s
      (answer faults c s).2 := by
  cases c with
  | createVolume request => exact allOrNothing_createVolume faults request s
  | deleteVolume name => exact allOrNothing_deleteVolume faults name s
  | createSandbox request => exact allOrNothing_createSandbox faults request s
  | getSandbox name => exact .of_accepted not_false ..
  | deleteSandbox name => exact allOrNothing_deleteSandbox faults name s
  | exec name command => exact allOrNothing_exec faults name command s

/-- What is refused does not depend on what was recorded. -/
theorem refuses_recording_iff {d c : Call} :
    (s.recording d).Refuses faults c ↔ s.Refuses faults c := by
  cases c <;> exact Iff.rfl

theorem isSome_crash?_iff {c : Call} : (crash? faults c).isSome ↔ Crashes faults c := by
  cases c with
  | exec name command => simp [crash?, Crashes]
  | _ => simp [crash?, Crashes]

/-! ### One call that fails -/

/-- **A crash leaves the platform as it was**, and so it is for every call that crashes. -/
theorem next_of_crashes {c : Call} (h : Crashes faults c) : (platform faults).next c s = s := by
  rw [next_eq, if_pos (isSome_crash?_iff.mpr h)]

/-- **A call that does not crash** is answered in the state in which it is recorded. -/
theorem reply_of_not_crashes {c : Call} (h : ¬Crashes faults c) :
    ((platform faults).reply c s).1 = .ok (answer faults c (s.recording c)).1 ∧
      (platform faults).next c s = (answer faults c (s.recording c)).2 := by
  have hnone : crash? faults c = none := by
    rw [← Option.not_isSome_iff_eq_none, isSome_crash?_iff]
    exact h
  change (reply faults c s).1 = _ ∧ (reply faults c s).2 = _
  rw [reply, hnone]
  exact ⟨rfl, rfl⟩

/-- A call crashes where it is told to. -/
theorem isSome_crash?_reply_iff {c : Call} :
    (Exchange.crash? ⟨c, ((platform faults).reply c s).1⟩).isSome ↔ Crashes faults c := by
  rw [← isSome_crash?_iff]
  change (Exchange.crash? ⟨c, (reply faults c s).1⟩).isSome ↔ _
  unfold reply
  cases crash? faults c <;> rfl

/-- **A call fails if it crashes or is refused**, and not otherwise. -/
theorem succeeded_eq_false_iff {c : Call} :
    Exchange.succeeded ⟨c, ((platform faults).reply c s).1⟩ = false ↔
      Crashes faults c ∨ s.Refuses faults c := by
  by_cases hcrash : Crashes faults c
  · refine iff_of_true ?_ (.inl hcrash)
    obtain ⟨crash, hsome⟩ := Option.isSome_iff_exists.mp (isSome_crash?_iff.mpr hcrash)
    change Exchange.succeeded ⟨c, (reply faults c s).1⟩ = false
    rw [reply, hsome]
    rfl
  · rw [(reply_of_not_crashes hcrash).1, or_iff_right hcrash, ← refuses_recording_iff (d := c)]
    exact (allOrNothing_answer faults c (s.recording c)).failure_iff

/-- **A call that is refused leaves an entry in the record**, and nothing else. -/
theorem next_of_refuses {c : Call} (hcrash : ¬Crashes faults c) (h : s.Refuses faults c) :
    (platform faults).next c s = s.recording c := by
  rw [(reply_of_not_crashes hcrash).2]
  exact (allOrNothing_answer faults c (s.recording c)).unchanged (refuses_recording_iff.mpr h)

end Answers

/-! ### The record is never looked at -/

/-- **Two states are alike** if they differ at most in their records. -/
structure State.Like (s s' : State) : Prop where
  volumes : s.volumes = s'.volumes
  sandboxes : s.sandboxes = s'.sandboxes
  transientLookups : s.transientLookups = s'.transientLookups

section Like

variable {faults : Faults} {s s' s'' : State}

theorem State.Like.refl (s : State) : s.Like s := ⟨rfl, rfl, rfl⟩

theorem State.Like.trans (h : s.Like s') (h' : s'.Like s'') : s.Like s'' :=
  ⟨h.volumes.trans h'.volumes, h.sandboxes.trans h'.sandboxes,
    h.transientLookups.trans h'.transientLookups⟩

/-- **States that are alike reply alike, and stay alike.** -/
theorem State.Like.next (h : s.Like s') (faults : Faults) (c : Call) :
    ((platform faults).reply c s).1 = ((platform faults).reply c s').1 ∧
      ((platform faults).next c s).Like ((platform faults).next c s') := by
  -- the territory of all names: what agrees there is equal
  let everything : Territory := ⟨fun _ => True, fun _ => True⟩
  have hagree : s.AgreeOn everything s' :=
    ⟨fun name _ => by rw [h.sandboxes], fun name _ => by rw [h.volumes]⟩
  have hwithin : c.Within everything := by
    cases c with
    | createSandbox request => exact ⟨trivial, fun _ _ => trivial⟩
    | _ => trivial
  obtain ⟨hreply, hafter⟩ :=
    reply_local faults hagree h.transientLookups (fun _ _ _ _ _ _ => trivial) hwithin
  refine ⟨hreply, ⟨?_, ?_, ?_⟩⟩
  · exact Std.ExtTreeMap.ext_getElem? fun name => hafter.volumes name trivial
  · exact Std.ExtTreeMap.ext_getElem? fun name => hafter.sandboxes name trivial
  · have hadd := transientLookups_next_add faults c s
    have hadd' := transientLookups_next_add faults c s'
    rw [hreply, h.transientLookups] at hadd
    omega

/-! ### Many calls, of which some fail -/

/-- **A call that fails leaves the platform as it was**, but for the record. -/
theorem like_next_of_failed {c : Call}
    (h : Exchange.succeeded ⟨c, ((platform faults).reply c s).1⟩ = false) :
    ((platform faults).next c s).Like s := by
  by_cases hcrash : Crashes faults c
  · rw [next_of_crashes hcrash]
    exact .refl s
  · rcases succeeded_eq_false_iff.mp h with hcrash' | hrefused
    · exact absurd hcrash' hcrash
    · rw [next_of_refuses hcrash hrefused]
      exact ⟨rfl, rfl, rfl⟩

/-- The calls that succeed among some calls that are made. -/
def successes (faults : Faults) (cs : List Call) (s : State) : List Call :=
  (((platform faults).exchanges cs s).filter (·.succeeded)).map (·.call)

/-- **Calls that fail can be left out**: the calls that succeed bring all states that are alike to
states that are alike the one that all calls come to. -/
theorem like_after_successes (h : s.Like s') (cs : List Call) :
    ((platform faults).after cs s).Like ((platform faults).after (successes faults cs s) s') := by
  induction cs generalizing s s' with
  | nil => exact h
  | cons c cs ih =>
    rw [Platform.after_cons, successes, Platform.exchanges_cons]
    rcases hc : Exchange.succeeded ⟨c, ((platform faults).reply c s).1⟩ with _ | _
    · rw [List.filter_cons_of_neg (by simp [hc])]
      exact ih ((like_next_of_failed hc).trans h)
    · rw [List.filter_cons_of_pos hc, List.map_cons, Platform.after_cons]
      exact ih (h.next faults c).2

/-- **The record holds the calls that were made**, without those that crashed. -/
theorem record_after (faults : Faults) (cs : List Call) (s : State) :
    ((platform faults).after cs s).record =
      s.record ++ cs.filter fun c => (crash? faults c).isNone := by
  induction cs generalizing s with
  | nil => simp
  | cons c cs ih =>
    rw [Platform.after_cons, ih, record_next]
    cases hcrash : crash? faults c <;> simp [hcrash]

/-- **Calls that fail are atomic**, on a platform in memory with any faults and in any state. A call
crashes exactly if it runs a command that contains what commands crash on, and then leaves the
platform as it was, its record included. A call that does not crash fails exactly if the state
refuses it, and then leaves the platform with the call at the end of its record and as it was in
all else. Of any calls that are made, those that fail can be left out. -/
theorem failed_calls_are_atomic (faults : Faults) (s : State) (c : Call) :
    let p := platform faults
    let x : Exchange := ⟨c, (p.reply c s).1⟩
    (x.crash?.isSome ↔ Crashes faults c) ∧
      (x.succeeded = false ↔ Crashes faults c ∨ s.Refuses faults c) ∧
      (x.crash?.isSome → p.next c s = s) ∧
      (x.crash? = none → x.succeeded = false → p.next c s = s.recording c) ∧
      ∀ cs, (p.after cs s).Like (p.after (successes faults cs s) s) ∧
        (p.after cs s).record = s.record ++ cs.filter fun c => (crash? faults c).isNone := by
  intro p x
  refine ⟨isSome_crash?_reply_iff, succeeded_eq_false_iff, fun hcrash => ?_,
    fun hnone hfailed => ?_,
    fun cs => ⟨like_after_successes (.refl s) cs, record_after faults cs s⟩⟩
  · exact next_of_crashes (isSome_crash?_reply_iff.mp hcrash)
  · have hcrash : ¬Crashes faults c := fun hcrash => by
      have hsome : x.crash?.isSome := isSome_crash?_reply_iff.mpr hcrash
      simp [hnone] at hsome
    exact next_of_refuses hcrash ((succeeded_eq_false_iff.mp hfailed).resolve_left hcrash)

end Like

end Memory

end RemountCheck
