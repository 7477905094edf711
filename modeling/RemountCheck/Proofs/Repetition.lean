import RemountCheck.Proofs.Departures

/-!
# A cleanup that is repeated

A cleanup may be asked for once more, by someone who does not know that it was done. On a platform
in memory that lets it be done, the second time changes nothing: what was waited for is not there,
and what was not waited for is still on its way out.

* `RemountCheck.Memory.Reachable` – the states that a platform can come to, and
  `RemountCheck.Memory.le_lag_of_reachable`, that in none of them a sandbox lingers longer than one
  whose deletion has just been accepted;
* `RemountCheck.Memory.State.Lacks` – a resource that is not there, and
  `RemountCheck.Memory.disposal_of_lacks`, that disposing of it changes nothing;
* `RemountCheck.Memory.disposal_of_lingering` – the same of a sandbox that lingers and is not
  waited for;
* `RemountCheck.Plan.teardown_twice` – what a second teardown leaves and reports.

| the first sandbox, before the first teardown | is reported by the second as |
|---|---|
| there, under a name of its own | deleted, once more |
| not there, or the second under the same name | already gone |

The second sandbox and the volume are always reported as already gone.
-/

namespace RemountCheck

namespace Memory

/-! ### States that a platform can come to -/

/-- **A state that a platform can come to** from where it is set up, by calls. -/
def Reachable (faults : Faults) (s : State) : Prop :=
  ∃ existing transientLookups cs,
    s = (platform faults).after cs (State.start existing transientLookups)

/-- No sandbox lingers longer than one whose deletion has just been accepted. -/
def State.WithinLag (s : State) (faults : Faults) : Prop :=
  ∀ (name : String) (r : Resident), s.sandboxes[name]? = some r →
    r.deleting.getD faults.deletionLag ≤ faults.deletionLag

variable {faults : Faults} {s : State} {name : String} {sandbox : Sandbox} {left : Nat}

theorem withinLag_start (existing : List String) (transientLookups : Nat) :
    (State.start existing transientLookups).WithinLag faults := by
  intro name r hr
  rw [sandboxes_start] at hr
  split at hr
  · cases hr
    exact Nat.le_refl _
  · cases hr

theorem withinLag_next (h : s.WithinLag faults) (c : Call) :
    ((platform faults).next c s).WithinLag faults := by
  intro name r hr
  rcases passage_next faults name s c with hkept | ⟨request, -, -, -, hafter⟩ |
    ⟨sandbox, -, -, hafter⟩ | ⟨sandbox, left, -, hbefore, hafter⟩ | ⟨sandbox, -, -, hafter⟩
  · exact h name r (hkept ▸ hr)
  · obtain rfl := Option.some.inj (hr.symm.trans hafter)
    exact Nat.le_refl _
  · obtain rfl := Option.some.inj (hr.symm.trans hafter)
    exact Nat.le_refl _
  · -- one less than it was
    obtain rfl := Option.some.inj (hr.symm.trans hafter)
    exact Nat.le_of_succ_le (h name _ hbefore)
  · cases hr.symm.trans hafter

theorem withinLag_after (h : s.WithinLag faults) (cs : List Call) :
    ((platform faults).after cs s).WithinLag faults := by
  induction cs generalizing s with
  | nil => exact h
  | cons c cs ih => exact ih (withinLag_next h c)

/-- **How long a sandbox may linger** in a state that a platform can come to. -/
theorem le_lag_of_reachable (h : Reachable faults s) : s.WithinLag faults := by
  obtain ⟨existing, transientLookups, cs, rfl⟩ := h
  exact withinLag_after (withinLag_start existing transientLookups) cs

/-! ### Disposing of what is gone or going -/

/-- **A resource is not there.** -/
def State.Lacks (s : State) : Resource → Prop
  | .sandbox name _ => s.sandboxes[name]? = none
  | .volume name => s.volumes[name]? = none

/-- A disposal that ends with a fate and leaves nothing but a call in the record. -/
def Disposes (faults : Faults) (policy : Policy) (r : Resource) (fate : Teardown.Fate)
    (s : State) : Prop :=
  Succeeds (platform faults) (Teardown.dispose policy r) s fun fate' s' =>
    fate' = fate ∧ s' = s.recording r.deletion

variable {policy : Policy} {r : Resource}

/-- **What is not there** is reported as already gone. -/
theorem disposal_of_lacks (hdelete : r.name ∉ faults.failingDelete) (h : s.Lacks r) :
    Disposes faults policy r .alreadyGone s := by
  cases r with
  | sandbox name confirm =>
    have hanswer := deleteSandbox_of_absent (s := s.recording (.deleteSandbox name)) hdelete h
    refine (succeeds_ask (c := .deleteSandbox name) rfl hanswer).bind ?_
    rintro _ s' ⟨rfl, rfl⟩
    exact Routine.succeeds_tell_bind (succeeds_pure ⟨rfl, rfl⟩)
  | volume name =>
    have hanswer := deleteVolume_of_absent (s := s.recording (.deleteVolume name)) hdelete h
    refine (succeeds_ask (c := .deleteVolume name) rfl hanswer).bind ?_
    rintro _ s' ⟨rfl, rfl⟩
    exact Routine.succeeds_tell_bind (succeeds_pure ⟨rfl, rfl⟩)

/-- **What lingers and is not waited for** is reported as deleted, once more. -/
theorem disposal_of_lingering (hdelete : name ∉ faults.failingDelete)
    (h : s.sandboxes[name]? = some ⟨sandbox, some left⟩) :
    Disposes faults policy (.sandbox name false) (.deleted none) s := by
  have hanswer :=
    deleteSandbox_of_lingering (s := s.recording (.deleteSandbox name)) hdelete h rfl
  refine (succeeds_ask (c := .deleteSandbox name) rfl hanswer).bind ?_
  rintro _ s' ⟨rfl, rfl⟩
  exact Routine.succeeds_tell_bind (succeeds_pure ⟨rfl, rfl⟩)

/-- Disposing of several resources, one of which comes first. -/
theorem Disposes.cons {rest : List Resource} {fate : Teardown.Fate}
    {Q : List (Resource × Teardown.Fate) → State → Prop} (h : Disposes faults policy r fate s)
    (hrest : Succeeds (platform faults) (Teardown.disposeAll policy rest)
      (s.recording r.deletion) fun fates s' => Q ((r, fate) :: fates) s') :
    Succeeds (platform faults) (Teardown.disposeAll policy (r :: rest)) s Q := by
  refine Succeeds.bind h ?_
  rintro _ _ ⟨rfl, rfl⟩
  exact Succeeds.bind hrest fun fates s' hs' => succeeds_pure hs'

end Memory

namespace Plan

open Memory

variable {plan : Plan} {faults : Faults} {s : State}

/-! ### A teardown after a teardown -/

/-- **A teardown that finds neither the second sandbox nor the volume** changes nothing, if its
first disposal does not. -/
theorem succeeds_teardown_of_lacks {fate : Teardown.Fate}
    (hsecond : plan.names.secondSandbox ∉ faults.failingDelete)
    (hvolume : plan.names.volume ∉ faults.failingDelete)
    (hfirst : Disposes faults plan.policy (.sandbox plan.names.firstSandbox false) fate s)
    (hnoSecond : s.Lacks (.sandbox plan.names.secondSandbox true))
    (hnoVolume : s.Lacks (.volume plan.names.volume)) :
    Succeeds (platform faults) plan.teardown.run s fun report s' =>
      report = .ofFates [(.sandbox plan.names.firstSandbox false, fate),
        (.sandbox plan.names.secondSandbox true, .alreadyGone),
        (.volume plan.names.volume, .alreadyGone)] ∧
      s'.volumes = s.volumes ∧ s'.sandboxes = s.sandboxes := by
  -- a call in the record brings nothing back
  let s₁ := s.recording (.deleteSandbox plan.names.firstSandbox)
  let s₂ := s₁.recording (.deleteSandbox plan.names.secondSandbox)
  have hsecond : Disposes faults plan.policy (.sandbox plan.names.secondSandbox true)
      .alreadyGone s₁ := disposal_of_lacks hsecond hnoSecond
  have hvolume : Disposes faults plan.policy (.volume plan.names.volume) .alreadyGone s₂ :=
    disposal_of_lacks hvolume hnoVolume
  rw [teardown_eq]
  refine Succeeds.bind ?_ fun fates s' hs' => succeeds_pure hs'
  exact hfirst.cons (hsecond.cons (hvolume.cons (succeeds_pure ⟨rfl, rfl, rfl⟩)))

/-- **What the first sandbox is to a second teardown**: it lingers, if it was there under a name of
its own. -/
theorem Cleared.disposal_first {s' : State} (h : plan.Cleared faults s s')
    (hdelete : plan.names.firstSandbox ∉ faults.failingDelete) :
    Disposes faults plan.policy (.sandbox plan.names.firstSandbox false)
      (if plan.names.firstSandbox ≠ plan.names.secondSandbox ∧
          plan.names.firstSandbox ∈ s.sandboxes then .deleted none else .alreadyGone) s' := by
  by_cases hne : plan.names.firstSandbox = plan.names.secondSandbox
  · rw [if_neg fun hthere => hthere.1 hne]
    exact disposal_of_lacks hdelete (show s'.sandboxes[_]? = none from hne ▸ h.second)
  · have hfirst := h.first hne
    cases hr : s.sandboxes[plan.names.firstSandbox]? with
    | none =>
      rw [hr] at hfirst
      rw [if_neg fun hthere => by simp [Std.ExtTreeMap.mem_iff_isSome_getElem?, hr] at hthere]
      exact disposal_of_lacks hdelete hfirst
    | some r =>
      rw [hr] at hfirst
      rw [if_pos ⟨hne, Std.ExtTreeMap.mem_iff_isSome_getElem?.mpr (by rw [hr]; rfl)⟩]
      exact disposal_of_lingering hdelete hfirst

/-- **A teardown that is repeated changes nothing.** In every state that a platform in memory can
come to where no lookup is to fail, if no deletion of the check's resources is refused and the
second sandbox vanishes within the budget of its wait: two teardowns in a row both end with a
report. The second leaves all volumes and sandboxes as the first did, and its report is clean: the
second sandbox and the volume are already gone, and the first sandbox is deleted once more if it
was there at the start under a name of its own, and already gone if not. -/
theorem teardown_twice (plan : Plan) (faults : Faults) (s : State) (hs : Reachable faults s)
    (hpending : s.transientLookups = 0)
    (hdelete : ∀ name ∈ [plan.names.firstSandbox, plan.names.secondSandbox, plan.names.volume],
      name ∉ faults.failingDelete)
    (hstuck : plan.names.secondSandbox ∉ faults.stuck)
    (hlag : faults.deletionLag < plan.policy.maxAttempts.toNat) :
    let once := plan.teardown.run.runOn (platform faults) s
    let twice := plan.teardown.run.runOn (platform faults) once.state
    (∃ report, once.value = .ok report) ∧
      twice.state.volumes = once.state.volumes ∧ twice.state.sandboxes = once.state.sandboxes ∧
      ∃ report, twice.value = .ok report ∧ report.isClean = true ∧
        report.failed = [] ∧ report.unconfirmed = [] ∧
        if plan.names.firstSandbox ≠ plan.names.secondSandbox ∧
            plan.names.firstSandbox ∈ s.sandboxes then
          report.deleted = [plan.names.firstSandbox] ∧
            report.alreadyGone = [plan.names.secondSandbox, plan.names.volume]
        else
          report.deleted = [] ∧ report.alreadyGone =
            [plan.names.firstSandbox, plan.names.secondSandbox, plan.names.volume] := by
  intro once twice
  simp only [List.forall_mem_cons] at hdelete
  obtain ⟨hfirst, hsecond, hvolume, -⟩ := hdelete
  have hwait (r : Resident) (hr : s.sandboxes[plan.names.secondSandbox]? = some r) :
      r.deleting.getD faults.deletionLag < plan.policy.maxAttempts.toNat :=
    Nat.lt_of_le_of_lt (le_lag_of_reachable hs _ r hr) hlag
  obtain ⟨report₁, hreport₁, hcleared, hgone⟩ :=
    (succeeds_teardown hfirst hsecond hstuck hpending hwait).exists_value
  obtain ⟨report₂, hreport₂, rfl, hvolumes, hsandboxes⟩ :=
    (succeeds_teardown_of_lacks hsecond hvolume (hcleared.disposal_first hfirst) hcleared.second
      (hgone hvolume)).exists_value
  refine ⟨⟨report₁, hreport₁⟩, hvolumes, hsandboxes, _, hreport₂, ?_⟩
  split
  · exact ⟨rfl, rfl, rfl, rfl, rfl⟩
  · exact ⟨rfl, rfl, rfl, rfl, rfl⟩

/-- The first sandbox may linger before and after, and another may be stuck. -/
theorem teardown_twice_with_first_lingering :
    let plan : Plan := { names := .fixed, image := "image", policy := { maxAttempts := 3 } }
    let faults : Faults :=
      { deletionLag := 2, stuck := ["first-sandbox"], failingDelete := ["other"], volatile := true }
    let s := (platform faults).after
      [.createVolume plan.volumeRequest, .createSandbox plan.firstRequest,
        .createSandbox plan.secondRequest, .getSandbox "other", .deleteSandbox "second-sandbox"]
      (State.start ["other"] 1)
    Reachable faults s ∧ s.transientLookups = 0 ∧
      (∀ name ∈ [plan.names.firstSandbox, plan.names.secondSandbox, plan.names.volume],
        name ∉ faults.failingDelete) ∧
      plan.names.secondSandbox ∉ faults.stuck ∧
      faults.deletionLag < plan.policy.maxAttempts.toNat ∧
      let once := plan.teardown.run.runOn (platform faults) s
      let twice := plan.teardown.run.runOn (platform faults) once.state
      twice.state.sandboxes = once.state.sandboxes ∧
        ∃ report, twice.value = .ok report ∧ report.deleted = [plan.names.firstSandbox] := by
  intro plan faults s
  have hs : Reachable faults s := ⟨_, _, _, rfl⟩
  have hpending : s.transientLookups = 0 := by decide +kernel
  have hdelete : ∀ name ∈ [plan.names.firstSandbox, plan.names.secondSandbox, plan.names.volume],
      name ∉ faults.failingDelete := by decide
  have hstuck : plan.names.secondSandbox ∉ faults.stuck := by decide
  have hlag : faults.deletionLag < plan.policy.maxAttempts.toNat := by decide
  have hthere : plan.names.firstSandbox ≠ plan.names.secondSandbox ∧
      plan.names.firstSandbox ∈ s.sandboxes := by decide +kernel
  obtain ⟨-, -, hsandboxes, report, hreport, -, -, -, hrest⟩ :=
    teardown_twice plan faults s hs hpending hdelete hstuck hlag
  rw [if_pos hthere] at hrest
  exact ⟨hs, hpending, hdelete, hstuck, hlag, hsandboxes, report, hreport, hrest.1⟩

end Plan

end RemountCheck
