import RemountCheck.Proofs.Persistence

/-!
# When the volume goes

A cleanup deletes both sandboxes and then the volume, and a deletion takes time. Of the two
sandboxes only the second is waited for, so that the volume may be deleted while the first still
lingers. This module says exactly when it does, on a platform in memory that deletes what it is
told to within the budget of a wait.

* `RemountCheck.Plan.Leaves` – the sandboxes that the steps of a check leave when they end at a
  stage;
* `RemountCheck.Plan.Proceeds` – a step goes on, or leaves that;
* `RemountCheck.Plan.leaves_judge` – the steps of every check do;
* `RemountCheck.Memory.succeeds_dispose`, `RemountCheck.Memory.succeeds_dispose_confirmed` – what a
  cleanup makes of a sandbox, without and with a wait;
* `RemountCheck.Plan.sandboxes_gone_before_volume` – which sandboxes there are when the volume goes;
* `RemountCheck.Plan.first_sandbox_outlives_volume` – a check whose first command crashes.

| the steps end at | first sandbox | second sandbox | when the volume goes |
|---|---|---|---|
| the start, or with the volume | not there | not there | both are gone |
| the first sandbox, or the write | in use | not there | **the first lingers** |
| the wait | gone | not there | both are gone |
| the second sandbox, or later | gone | in use | both are gone |

Commands may fail and crash as they like, and so may the creation of the volume. If both sandboxes
have one name, the wait for the second is a wait for the first.
-/

namespace RemountCheck

namespace Memory

variable {faults : Faults} {s : State}

/-! ### Calls that are not about sandboxes -/

/-- A call that leaves the sandboxes alone. -/
def SparesSandboxes : Call → Prop
  | .createVolume _ | .deleteVolume _ | .exec _ _ => True
  | _ => False

theorem sandboxes_next {c : Call} (hc : SparesSandboxes c) :
    ((platform faults).next c s).sandboxes = s.sandboxes := by
  rw [next_eq]
  split
  · rfl
  · cases c with
    | createVolume request => rw [answer, sandboxes_createVolume]; rfl
    | deleteVolume name => rw [answer, sandboxes_deleteVolume]; rfl
    | exec name command => rw [answer, sandboxes_exec]; rfl
    | createSandbox request => exact hc.elim
    | getSandbox name => exact hc.elim
    | deleteSandbox name => exact hc.elim

theorem sandboxes_after {cs : List Call} (hcs : ∀ c ∈ cs, SparesSandboxes c) :
    ((platform faults).after cs s).sandboxes = s.sandboxes := by
  induction cs generalizing s with
  | nil => rfl
  | cons c cs ih =>
    obtain ⟨hc, hcs⟩ := List.forall_mem_cons.mp hcs
    rw [Platform.after_cons, ih hcs, sandboxes_next hc]

theorem transientLookups_after {cs : List Call} (h : s.transientLookups = 0) :
    ((platform faults).after cs s).transientLookups = 0 := by
  induction cs generalizing s with
  | nil => exact h
  | cons c cs ih => exact ih (transientLookups_next h c)

/-- **A step that makes no call about a sandbox** leaves the sandboxes as they are. If it stops, it
stops on the way to its stage. -/
theorem leads_sparing {α : Type} {x : Steps α} {stage : Stage} {cs : List Call}
    (h : Follows Stop.entering x (.ofStep stage cs)) (hcs : ∀ c ∈ cs, SparesSandboxes c) :
    Leads (platform faults) x s fun _ v s' =>
      s'.sandboxes = s.sandboxes ∧ ∀ stop, v = .error stop → stop.entering = stage := by
  refine ⟨?_, ?_⟩
  · have hmade := h.calls_isPrefix (platform faults) s
    rw [Course.calls_ofStep] at hmade
    rw [Script.run_state, Trace.calls_eq_map]
    exact sandboxes_after fun c hc => hcs c (hmade.subset hc)
  · intro stop hstop
    have hcut := h State (platform faults) s
    simp only [Leads, hstop] at hcut
    obtain ⟨made, left, ys, y, hcourse, -⟩ := hcut
    have hmem : (stop.entering, y.call) ∈ Course.ofStep stage cs := by simp [hcourse]
    obtain ⟨c, -, heq⟩ := List.mem_map.mp hmem
    exact (congrArg Prod.fst heq).symm

end Memory

namespace Plan

open Memory

/-! ### What the steps leave -/

/-- **What the steps of a check leave** of its sandboxes when they end at a stage: those that are
there are in use, and if the first has a name of its own, it is there exactly if it was created
and its file was not read. -/
structure Leaves (plan : Plan) (reached : Stage) (s : State) : Prop where
  pending : s.transientLookups = 0
  inUse : ∀ name ∈ [plan.names.firstSandbox, plan.names.secondSandbox], ∀ r : Resident,
    s.sandboxes[name]? = some r → r.deleting = none
  first : plan.names.firstSandbox ≠ plan.names.secondSandbox →
    (plan.names.firstSandbox ∈ s.sandboxes ↔ reached ∈ [.firstSandboxCreated, .firstWriteDone])

/-- **A step proceeds** to states of a kind, or it stops the check and leaves what belongs to the
stage that was reached. -/
def Proceeds (plan : Plan) (faults : Faults) {α : Type} (x : Steps α) (s : State)
    (Q : State → Prop) : Prop :=
  Leads (platform faults) x s fun _ v s' =>
    match v with
    | .ok _ => Q s'
    | .error stop => plan.Leaves stop.reached s'

variable {plan : Plan} {faults : Faults} {s : State} {reached : Stage} {α β : Type}

theorem Proceeds.mono {x : Steps α} {Q R : State → Prop} (h : plan.Proceeds faults x s Q)
    (hQR : ∀ s', Q s' → R s') : plan.Proceeds faults x s R := by
  refine Leads.mono h fun _ v s' hv => ?_
  cases v with
  | ok a => exact hQR s' hv
  | error stop => exact hv

theorem Proceeds.bind {x : Steps α} {f : α → Steps β} {Q R : State → Prop}
    (hx : plan.Proceeds faults x s Q)
    (hf : ∀ a s', Q s' → plan.Proceeds faults (f a) s' R) :
    plan.Proceeds faults (x >>= f) s R := by
  refine leads_bind.mpr (Leads.mono hx fun _ v s' hv => ?_)
  cases v with
  | ok a => exact hf a s' hv
  | error stop => exact hv

/-- A step that succeeds proceeds. -/
theorem Proceeds.of_succeeds {x : Steps α} {Q : State → Prop}
    (h : Succeeds (platform faults) x s fun _ s' => Q s') : plan.Proceeds faults x s Q := by
  refine Leads.mono h fun _ v s' hv => ?_
  cases v with
  | ok a => exact hv
  | error stop => exact hv.elim

/-! ### Where a check stands -/

section Standing

variable {first : Option Resident} {resident : Resident}

/-- Only the sandboxes and the lookups that are to fail count for where a check stands. -/
theorem Stands.of_sandboxes_eq {s' : State} (h : plan.Stands first 0 s)
    (hsandboxes : s'.sandboxes = s.sandboxes) (hpending : s'.transientLookups = 0) :
    plan.Stands first 0 s' where
  first := by rw [hsandboxes, h.first]
  second hne := by rw [hsandboxes, h.second hne]
  pending := Nat.le_of_eq hpending

/-- Without the first sandbox there is none. -/
theorem Stands.leaves_none (h : plan.Stands none 0 s)
    (hreached : reached ∉ [.firstSandboxCreated, .firstWriteDone]) : plan.Leaves reached s where
  pending := Nat.eq_zero_of_le_zero h.pending
  inUse name hname r hr := by
    have hnone : s.sandboxes[name]? = none := by
      by_cases hfirst : name = plan.names.firstSandbox
      · rw [hfirst, h.first]
      · obtain rfl : name = plan.names.secondSandbox := by simpa [hfirst] using hname
        exact h.second hfirst
    cases hnone.symm.trans hr
  first _ := by
    have hfree : plan.names.firstSandbox ∉ s.sandboxes := by simpa using h.first
    exact iff_of_false hfree hreached

/-- Up to the second reading there is no other sandbox than the first. -/
theorem Stands.leaves_first (h : plan.Stands (some resident) 0 s) (hlive : resident.deleting = none)
    (hreached : reached ∈ [.firstSandboxCreated, .firstWriteDone]) : plan.Leaves reached s where
  pending := Nat.eq_zero_of_le_zero h.pending
  inUse name hname r hr := by
    by_cases hfirst : name = plan.names.firstSandbox
    · rw [hfirst, h.first] at hr
      cases hr
      exact hlive
    · obtain rfl : name = plan.names.secondSandbox := by simpa [hfirst] using hname
      cases (h.second hfirst).symm.trans hr
  first _ := by
    have hthere : plan.names.firstSandbox ∈ s.sandboxes := by
      rw [Std.ExtTreeMap.mem_iff_isSome_getElem?, h.first]
      rfl
    exact iff_of_true hthere hreached

/-- From the creation of the second sandbox on there is no other. -/
theorem leaves_second (hpending : s.transientLookups = 0)
    (hsecond : s.sandboxes[plan.names.secondSandbox]? = some resident)
    (hlive : resident.deleting = none)
    (hfirst : plan.names.firstSandbox ≠ plan.names.secondSandbox →
      s.sandboxes[plan.names.firstSandbox]? = none)
    (hreached : reached ∉ [.firstSandboxCreated, .firstWriteDone]) : plan.Leaves reached s where
  pending := hpending
  inUse name hname r hr := by
    by_cases hname' : name = plan.names.secondSandbox
    · rw [hname', hsecond] at hr
      cases hr
      exact hlive
    · obtain rfl : name = plan.names.firstSandbox := by simpa [hname'] using hname
      cases (hfirst hname').symm.trans hr
  first hne := by
    have hfree : plan.names.firstSandbox ∉ s.sandboxes := by simpa using hfirst hne
    exact iff_of_false hfree hreached

end Standing

/-! ### The steps -/

section Steps

variable {stage : Stage}

theorem proceeds_sparing {x : Steps α} {cs : List Call}
    (h : Follows Stop.entering x (.ofStep stage cs)) (hcs : ∀ c ∈ cs, SparesSandboxes c)
    (hpending : s.transientLookups = 0)
    (hleaves : ∀ s' : State, s'.sandboxes = s.sandboxes → s'.transientLookups = 0 →
      plan.Leaves stage.previous s') :
    plan.Proceeds faults x s fun s' =>
      s'.sandboxes = s.sandboxes ∧ s'.transientLookups = 0 := by
  have hnone : Leads (platform faults) x s fun _ _ s' => s'.transientLookups = 0 := by
    rw [Leads, Script.run_state]
    exact transientLookups_after hpending
  refine ((leads_sparing h hcs).and hnone).mono ?_
  rintro _ v s' ⟨⟨hsandboxes, hstop⟩, hpending'⟩
  cases v with
  | ok a => exact ⟨hsandboxes, hpending'⟩
  | error stop =>
    have hreached : stop.reached = stage.previous := by rw [Stop.reached, hstop stop rfl]
    change plan.Leaves stop.reached s'
    rw [hreached]
    exact hleaves s' hsandboxes hpending'

theorem sparesSandboxes_inspection (sandbox mount : String) (identity : Bool) :
    ∀ c ∈ plan.inspection sandbox mount identity, SparesSandboxes c := by
  intro c hc
  obtain ⟨command, -, rfl⟩ := List.mem_map.mp hc
  trivial

/-- **A step that creates a sandbox** adds it, or changes nothing about sandboxes and stops. -/
theorem proceeds_createSandbox {announcement : String} {fields : List (String × Log.Value)}
    {name mount : String} (hpending : s.transientLookups = 0)
    (hleaves : ∀ s' : State, s'.sandboxes = s.sandboxes → s'.transientLookups = 0 →
      plan.Leaves stage.previous s') :
    plan.Proceeds faults (step stage announcement fields (plan.createSandbox name mount)) s
      fun s' =>
        s'.sandboxes = s.sandboxes.insert name (deployed (plan.sandboxRequest name mount)) ∧
          s'.transientLookups = 0 := by
  let call : Call := .createSandbox (plan.sandboxRequest name mount)
  rcases createSandbox_cases (plan.sandboxRequest name mount) (s.recording call) with
    ⟨failure, heq⟩ | ⟨-, heq⟩
  · -- the failure stops the step, and all that it leaves is a call in the record
    have hanswer : (Memory.createSandbox (plan.sandboxRequest name mount) (s.recording call)).1 =
        .error failure := congrArg Prod.fst heq
    have hreply : ((platform faults).reply call s).1 = .ok (.error failure) :=
      congrArg Except.ok hanswer
    have hnext : (platform faults).next call s = s.recording call := congrArg Prod.snd heq
    refine leads_step.mpr (leads_bind.mpr (leads_bind.mpr (Work.leads_ask.mpr ?_)))
    rw [hreply, hnext]
    exact hleaves (s.recording call) rfl hpending
  · refine .of_succeeds (succeeds_step ((succeeds_createSandbox_of_eq plan heq).mono ?_))
    rintro _ s' ⟨record, pending, hle, rfl⟩
    rw [hpending] at hle
    exact ⟨rfl, Nat.eq_zero_of_le_zero hle⟩

/-- **The steps before the wait** leave what belongs to their stages, or the first sandbox
lingering. -/
theorem proceeds_outward (hdelete : plan.names.firstSandbox ∉ faults.failingDelete)
    (hs : plan.Stands none 0 s) :
    plan.Proceeds faults
      (do plan.createVolume; plan.createFirst; plan.writeFirst; plan.readFirst; plan.deleteFirst) s
      (plan.Stands
        (some { deployed plan.firstRequest with deleting := some faults.deletionLag }) 0) := by
  have hlive : (deployed plan.firstRequest).deleting = none := rfl
  -- there is no sandbox
  refine (proceeds_sparing plan.follows_createVolume (by simp [SparesSandboxes])
    (Nat.eq_zero_of_le_zero hs.pending) fun s' hsandboxes hpending =>
      (hs.of_sandboxes_eq hsandboxes hpending).leaves_none (by decide)).bind ?_
  rintro _ s₁ ⟨hsandboxes, hpending⟩
  have hs₁ := hs.of_sandboxes_eq hsandboxes hpending
  refine (proceeds_createSandbox hpending fun s' hsandboxes hpending =>
    (hs₁.of_sandboxes_eq hsandboxes hpending).leaves_none (by decide)).bind ?_
  rintro _ s₂ ⟨hsandboxes, hpending⟩
  -- the first sandbox is in use
  have hs₂ : plan.Stands (some (deployed plan.firstRequest)) 0 s₂ := by
    refine ⟨by rw [hsandboxes]; exact Std.ExtTreeMap.getElem?_insert_self, fun hne => ?_,
      Nat.le_of_eq hpending⟩
    rw [hsandboxes, Std.ExtTreeMap.getElem?_insert, if_neg (by simpa using hne.symm)]
    exact hs₁.second hne
  refine (proceeds_sparing plan.follows_writeFirst (by simp [SparesSandboxes, writeCall]) hpending
    fun s' hsandboxes hpending =>
      (hs₂.of_sandboxes_eq hsandboxes hpending).leaves_first hlive (by decide)).bind ?_
  rintro _ s₃ ⟨hsandboxes, hpending⟩
  have hs₃ := hs₂.of_sandboxes_eq hsandboxes hpending
  refine (proceeds_sparing plan.follows_readFirst (sparesSandboxes_inspection _ _ _) hpending
    fun s' hsandboxes hpending =>
      (hs₃.of_sandboxes_eq hsandboxes hpending).leaves_first hlive (by decide)).bind ?_
  rintro _ s₄ ⟨hsandboxes, hpending⟩
  have hs₄ := hs₃.of_sandboxes_eq hsandboxes hpending
  exact .of_succeeds ((succeeds_deleteFirst hdelete hs₄ hlive).mono fun _ _ hs' => hs'.1)

/-- **The steps after the wait** leave the second sandbox, if it was created. -/
theorem proceeds_homeward (hs : plan.Stands none 0 s) :
    plan.Proceeds faults (do plan.createSecond; plan.readSecond) s (plan.Leaves .compared) := by
  refine (proceeds_createSandbox (Nat.eq_zero_of_le_zero hs.pending) fun s' hsandboxes hpending =>
    (hs.of_sandboxes_eq hsandboxes hpending).leaves_none (by decide)).bind ?_
  rintro _ s₁ ⟨hsandboxes, hpending⟩
  have hsecond : s₁.sandboxes[plan.names.secondSandbox]? = some (deployed plan.secondRequest) := by
    rw [hsandboxes]
    exact Std.ExtTreeMap.getElem?_insert_self
  have hfirst (hne : plan.names.firstSandbox ≠ plan.names.secondSandbox) :
      s₁.sandboxes[plan.names.firstSandbox]? = none := by
    rw [hsandboxes, Std.ExtTreeMap.getElem?_insert, if_neg (by simpa using hne.symm)]
    exact hs.first
  -- no command changes that, wherever the reading stops
  have hleaves {reached : Stage} (hreached : reached ∉ [.firstSandboxCreated, .firstWriteDone])
      (s' : State) (hsame : s'.sandboxes = s₁.sandboxes) (hpending : s'.transientLookups = 0) :
      plan.Leaves reached s' :=
    leaves_second hpending (hsame ▸ hsecond) rfl (fun hne => hsame ▸ hfirst hne) hreached
  refine (proceeds_sparing plan.follows_readSecond (sparesSandboxes_inspection _ _ _) hpending
    (hleaves (by decide))).mono ?_
  rintro s' ⟨hsame, hpending⟩
  exact hleaves (by decide) s' hsame hpending

/-- **The steps of a check** leave what belongs to the stage that they end at. -/
theorem leaves_judge (hstuck : plan.names.firstSandbox ∉ faults.stuck)
    (hdelete : plan.names.firstSandbox ∉ faults.failingDelete)
    (hlag : faults.deletionLag < plan.policy.maxAttempts.toNat) (hs : plan.Stands none 0 s) :
    let r := plan.judge.run (platform faults) s
    plan.Leaves r.value.reached r.state := by
  intro r
  have hproceeds : plan.Proceeds faults plan.steps s (plan.Leaves .compared) := by
    rw [steps_eq]
    refine (proceeds_outward hdelete hs).bind fun _ s₁ hs₁ => ?_
    have hpending : s₁.transientLookups = 0 := Nat.eq_zero_of_le_zero hs₁.pending
    have hgone := succeeds_awaitFirstGone hstuck hs₁ (.inl hpending) (by omega)
    exact (Proceeds.of_succeeds hgone).bind fun _ s₂ hs₂ => proceeds_homeward hs₂.1
  obtain ⟨-, hvalue, hstate⟩ := plan.run_judge (platform faults) s
  have hleaves : Leads (platform faults) plan.steps s fun _ v s' =>
      plan.Leaves (plan.verdict v).reached s' := by
    refine Leads.mono hproceeds fun _ v s' hv => ?_
    cases v with
    | ok read => exact hv
    | error stop => exact hv
  rw [hvalue, hstate]
  exact hleaves

end Steps

end Plan

/-! ### What the cleanup makes of it -/

namespace Memory

variable {faults : Faults} {s : State} {policy : Policy} {name : String}

/-- Deleting a resource is answered, since no call but a command crashes. -/
theorem succeeds_delete (r : Resource) :
    Succeeds (platform faults) r.delete s fun _ s' =>
      s' = (platform faults).next r.deletion s := by
  cases r with
  | sandbox name confirm => exact Routine.leads_ask.mpr rfl
  | volume name => exact Routine.leads_ask.mpr rfl

/-- **A resource that is not waited for** is deleted, and that is all. -/
theorem succeeds_dispose {r : Resource} (h : r.confirmed = false) :
    Succeeds (platform faults) (Teardown.dispose policy r) s fun _ s' =>
      s' = (platform faults).next r.deletion s := by
  refine (succeeds_delete r).bind fun answer s' hs' => ?_
  cases answer with
  | ok _ =>
    refine Routine.succeeds_tell_bind ?_
    rw [h, if_neg Bool.false_ne_true]
    exact succeeds_pure hs'
  | error failure =>
    exact .ite (Routine.succeeds_tell_bind (succeeds_pure hs'))
      (Routine.succeeds_tell_bind (succeeds_pure hs'))

/-- **A sandbox that is waited for** is gone, if it vanishes within the budget of the wait, and no
other is touched. -/
theorem succeeds_dispose_confirmed (hdelete : name ∉ faults.failingDelete)
    (hstuck : name ∉ faults.stuck) (hpending : s.transientLookups = 0)
    (hlag : ∀ r : Resident, s.sandboxes[name]? = some r →
      r.deleting.getD faults.deletionLag < policy.maxAttempts.toNat) :
    Succeeds (platform faults) (Teardown.dispose policy (.sandbox name true)) s fun _ s' =>
      s'.sandboxes[name]? = none ∧
        ∀ other ≠ name, s'.sandboxes[other]? = s.sandboxes[other]? := by
  cases hr : s.sandboxes[name]? with
  | none =>
    have hanswer := deleteSandbox_of_absent (s := s.recording (.deleteSandbox name)) hdelete hr
    refine (succeeds_ask (c := .deleteSandbox name) rfl hanswer).bind ?_
    rintro _ s' ⟨rfl, rfl⟩
    exact Routine.succeeds_tell_bind (succeeds_pure ⟨hr, fun _ _ => rfl⟩)
  | some r =>
    obtain ⟨volumes, hanswer⟩ :=
      deleteSandbox_eq (s := s.recording (.deleteSandbox name)) hdelete hr
    refine (succeeds_ask (c := .deleteSandbox name) rfl hanswer).bind ?_
    rintro _ s₁ ⟨rfl, rfl⟩
    refine Routine.succeeds_tell_bind ?_
    rw [if_pos (show (Resource.sandbox name true).confirmed = true from rfl)]
    have hbudget : s.transientLookups + r.deleting.getD faults.deletionLag <
        policy.maxAttempts.toNat := by
      have hle := hlag r hr
      omega
    have hlinger : (s.sandboxes.insert name (r.lingering faults.deletionLag))[name]? =
        some (r.lingering faults.deletionLag) := Std.ExtTreeMap.getElem?_insert_self
    have hwait := succeeds_await (s := { s.recording (.deleteSandbox name) with
      sandboxes := s.sandboxes.insert name (r.lingering faults.deletionLag)
      volumes }) hstuck hlinger (.inl hpending) hbudget
    refine hwait.bind ?_
    rintro gone s' ⟨rfl, habsent, hothers, -⟩
    refine succeeds_pure ⟨habsent, fun other hother => ?_⟩
    rw [hothers other hother, Std.ExtTreeMap.getElem?_insert, if_neg (by simpa using hother.symm)]

end Memory

namespace Plan

open Memory

variable {plan : Plan} {faults : Faults} {s : State}

/-- **The sandboxes are cleared** from one state to another: there is no second one, and a first one
with a name of its own lingers if it was there. -/
structure Cleared (plan : Plan) (faults : Faults) (s s' : State) : Prop where
  second : s'.sandboxes[plan.names.secondSandbox]? = none
  first : plan.names.firstSandbox ≠ plan.names.secondSandbox →
    s'.sandboxes[plan.names.firstSandbox]? =
      s.sandboxes[plan.names.firstSandbox]?.map (·.lingering faults.deletionLag)

/-- **The teardown of a check** clears the sandboxes, and takes the volume away. The budget of the
wait has to allow for the second sandbox. -/
theorem succeeds_teardown (hfirst : plan.names.firstSandbox ∉ faults.failingDelete)
    (hsecond : plan.names.secondSandbox ∉ faults.failingDelete)
    (hstuck : plan.names.secondSandbox ∉ faults.stuck) (hpending : s.transientLookups = 0)
    (hlag : ∀ r : Resident, s.sandboxes[plan.names.secondSandbox]? = some r →
      r.deleting.getD faults.deletionLag < plan.policy.maxAttempts.toNat) :
    Succeeds (platform faults) plan.teardown.run s fun _ s' =>
      plan.Cleared faults s s' ∧
        (plan.names.volume ∉ faults.failingDelete → s'.volumes[plan.names.volume]? = none) := by
  rw [teardown_eq]
  refine Succeeds.bind ?_ fun fates s' hs' => succeeds_pure hs'
  -- the first sandbox
  refine (succeeds_dispose rfl).bind fun _ s₁ hs₁ => ?_
  change s₁ = (platform faults).next (.deleteSandbox plan.names.firstSandbox) s at hs₁
  have hafter := sandboxes_next_deleteSandbox (s := s) hfirst
  rw [← hs₁] at hafter
  have hpending : s₁.transientLookups = 0 := hs₁ ▸ transientLookups_next hpending _
  refine Succeeds.bind ?_ fun fates s' hs' => succeeds_pure hs'
  -- the second, which may be the first, and lingers then already
  have hlag₁ : ∀ r : Resident, s₁.sandboxes[plan.names.secondSandbox]? = some r →
      r.deleting.getD faults.deletionLag < plan.policy.maxAttempts.toNat := by
    intro r hr
    rw [hafter] at hr
    split at hr
    · obtain ⟨r₀, hr₀, rfl⟩ := Option.map_eq_some_iff.mp hr
      simpa [Resident.lingering] using hlag r₀ hr₀
    · exact hlag r hr
  refine (succeeds_dispose_confirmed hsecond hstuck hpending hlag₁).bind ?_
  rintro _ s₂ ⟨hgone, hothers⟩
  refine Succeeds.bind ?_ fun fates s' hs' => succeeds_pure hs'
  -- the volume
  refine (succeeds_dispose rfl).bind fun _ s₃ hs₃ => ?_
  change s₃ = (platform faults).next (.deleteVolume plan.names.volume) s₂ at hs₃
  refine Succeeds.bind (succeeds_pure (a := []) ?_) fun fates s' hs' => succeeds_pure hs'
  have hsame : s₃.sandboxes = s₂.sandboxes := by
    rw [hs₃]
    exact sandboxes_next trivial
  refine ⟨⟨by rw [hsame, hgone], fun hne => ?_⟩, fun hvolume => ?_⟩
  · rw [hsame, hothers _ hne, hafter, if_pos rfl]
  · rw [hs₃]
    exact absent_of_deleteVolume hvolume

section Cleanup

variable
  (hnames : ∀ name ∈ [plan.names.firstSandbox, plan.names.secondSandbox],
    name ∉ faults.stuck ∧ name ∉ faults.failingDelete)
  (hlag : faults.deletionLag < plan.policy.maxAttempts.toNat)
include hnames hlag

/-- **A check** ends with a report, and its cleanup clears the sandboxes that its steps left. -/
theorem succeeds_check (hs : plan.Stands none 0 s) :
    let steps := plan.judge.run (platform faults) s
    Succeeds (platform faults) plan.check s fun report s' =>
      report.verdict = steps.value ∧ plan.Cleared faults steps.state s' := by
  intro steps
  obtain ⟨hstuck₁, hdelete₁⟩ := hnames plan.names.firstSandbox (by simp)
  obtain ⟨hstuck₂, hdelete₂⟩ := hnames plan.names.secondSandbox (by simp)
  have hleaves : plan.Leaves steps.value.reached steps.state :=
    leaves_judge hstuck₁ hdelete₁ hlag hs
  have hteardown := succeeds_teardown hdelete₁ hdelete₂ hstuck₂ hleaves.pending fun r hr => by
    rwa [hleaves.inUse _ (by simp) r hr, Option.getD_none]
  refine leads_bind.mpr (leads_lift.mpr (leads_bind.mpr (Routine.leads_tell.mpr ?_)))
  refine Succeeds.bind hteardown fun teardown s' hs' => ?_
  dsimp only
  split
  · exact Routine.succeeds_tell_bind (succeeds_pure ⟨rfl, hs'.1⟩)
  · exact succeeds_pure ⟨rfl, hs'.1⟩

end Cleanup

/-- The steps of a check do not delete the volume. -/
theorem deleteVolume_notMem_judge {σ : Type} (p : Platform σ) (s : σ) :
    .deleteVolume plan.names.volume ∉ (plan.judge.run p s).trace.calls := by
  intro hmem
  obtain ⟨-, -, -, -, hmutations, -⟩ := plan.judge_keeps_to_course p s
  have hmutation := hmutations.subset (List.mem_filter.mpr ⟨hmem, rfl⟩)
  simp [mutations, writeCall] at hmutation

/-- **Which sandboxes there are when the volume goes.** On a platform in memory where the names of
both sandboxes are free and no lookup is to fail, and which deletes both within the budget of the
wait: a check ends with a report, and its last call and no other deletes the volume. At that
moment the second sandbox is gone. The first is gone too, unless it has a name of its own and the
check stopped between its creation and the reading of its file; then it lingers, and no lookup
has counted it down yet. -/
theorem sandboxes_gone_before_volume (plan : Plan) (faults : Faults) (existing : List String)
    (hnames : ∀ name ∈ [plan.names.firstSandbox, plan.names.secondSandbox],
      name ∉ existing ∧ name ∉ faults.stuck ∧ name ∉ faults.failingDelete)
    (hlag : faults.deletionLag < plan.policy.maxAttempts.toNat) :
    let start := State.start existing 0
    let r := plan.check.runOn (platform faults) start
    ∃ report before, r.value = .ok report ∧
      r.trace.calls = before ++ [.deleteVolume plan.names.volume] ∧
      .deleteVolume plan.names.volume ∉ before ∧
      let now := (platform faults).after before start
      plan.names.secondSandbox ∉ now.sandboxes ∧
        (plan.names.firstSandbox ∈ now.sandboxes ↔
          plan.names.firstSandbox ≠ plan.names.secondSandbox ∧
            report.verdict.reached ∈ [.firstSandboxCreated, .firstWriteDone]) ∧
        ∀ resident, now.sandboxes[plan.names.firstSandbox]? = some resident →
          resident.deleting = some faults.deletionLag := by
  intro start r
  have hfaults : ∀ name ∈ [plan.names.firstSandbox, plan.names.secondSandbox],
      name ∉ faults.stuck ∧ name ∉ faults.failingDelete := fun name hname => (hnames name hname).2
  have hs : plan.Stands none 0 start :=
    stands_start (hnames _ (by simp)).1 (hnames _ (by simp)).1
  have hleaves := leaves_judge (hfaults _ (by simp)).1 (hfaults _ (by simp)).2 hlag hs
  obtain ⟨report, hreport, hverdict, hcleared⟩ := (succeeds_check hfaults hlag hs).exists_value
  obtain ⟨ws, hws, hcalls⟩ := plan.exists_calls_cleanup faults start
  let before := (plan.judge.run (platform faults) start).trace.calls ++
    (.deleteSandbox plan.names.firstSandbox :: .deleteSandbox plan.names.secondSandbox :: ws)
  have hcalls : r.trace.calls = before ++ [.deleteVolume plan.names.volume] := by
    rw [hcalls]
    simp [before]
  have hbefore : .deleteVolume plan.names.volume ∉ before := by
    have hnot : .deleteVolume plan.names.volume ∉ ws := fun hmem => by cases hws _ hmem
    simp [before, deleteVolume_notMem_judge, hnot]
  -- the last call is not about sandboxes, so that what it leaves is what it finds
  have hnow : ((platform faults).after before start).sandboxes = r.state.sandboxes := by
    have hstate : r.state = (platform faults).after r.trace.calls start := Script.run_state ..
    rw [hstate, hcalls, Platform.after_append (platform faults) before]
    exact (sandboxes_next (c := .deleteVolume plan.names.volume) trivial).symm
  have hcleared : plan.Cleared faults (plan.judge.run (platform faults) start).state r.state :=
    hcleared
  refine ⟨report, before, hreport, hcalls, hbefore, ?_, ?_, ?_⟩
  · rw [hnow]
    simpa using hcleared.second
  · rw [hnow, hverdict, Std.ExtTreeMap.mem_iff_isSome_getElem?]
    by_cases hne : plan.names.firstSandbox = plan.names.secondSandbox
    · rw [hne, hcleared.second]
      simp
    · rw [hcleared.first hne, Option.isSome_map, ← Std.ExtTreeMap.mem_iff_isSome_getElem?,
        hleaves.first hne]
      exact ⟨fun h => ⟨hne, h⟩, fun h => h.2⟩
  · intro resident hresident
    rw [hnow] at hresident
    by_cases hne : plan.names.firstSandbox = plan.names.secondSandbox
    · rw [hne, hcleared.second] at hresident
      cases hresident
    · rw [hcleared.first hne] at hresident
      obtain ⟨r₀, hr₀, rfl⟩ := Option.map_eq_some_iff.mp hresident
      simp [Resident.lingering, hleaves.inUse _ (by simp) r₀ hr₀]

/-- A command that crashes in the first sandbox is enough for it to outlive the volume, even where
deletions take no time. -/
theorem first_sandbox_outlives_volume :
    let plan : Plan :=
      { names := ⟨"volume", "a", "b"⟩
        image := "img"
        firstMount := "/m"
        fileName := "f"
        content := "c"
        policy := { onFailure := .countAsAttempt } }
    let faults : Faults := { crashingExec := some "printf " }
    let start := State.start [] 0
    let r := plan.check.runOn (platform faults) start
    faults.deletionLag < plan.policy.maxAttempts.toNat ∧
      ¬∀ before, r.trace.calls = before ++ [.deleteVolume plan.names.volume] →
        let now := (platform faults).after before start
        plan.names.firstSandbox ∉ now.sandboxes ∧ plan.names.secondSandbox ∉ now.sandboxes := by
  intro plan faults start r
  refine ⟨by decide, fun hgone => ?_⟩
  have hcalls : r.trace.calls =
      [.createVolume plan.volumeRequest, .createSandbox plan.firstRequest,
        .exec plan.names.firstSandbox
          (Command.write plan.content (filePath plan.firstMount plan.fileName)).text,
        .deleteSandbox plan.names.firstSandbox, .deleteSandbox plan.names.secondSandbox] ++
      [.deleteVolume plan.names.volume] := by decide +kernel
  exact absurd (hgone _ hcalls).1 (by decide +kernel)

/-- Commands may fail, and other sandboxes may be stuck. -/
theorem sandboxes_gone_before_volume_when_failing :
    let plan : Plan := { names := .fixed, image := "image", region := some "region" }
    let faults : Faults := { deletionLag := 2, stuck := ["other"], failingExec := some "ls -la " }
    (∀ name ∈ [plan.names.firstSandbox, plan.names.secondSandbox],
        name ∉ ["other"] ∧ name ∉ faults.stuck ∧ name ∉ faults.failingDelete) ∧
      faults.deletionLag < plan.policy.maxAttempts.toNat ∧
      ∃ report before,
        (plan.check.runOn (platform faults) (State.start ["other"] 0)).value = .ok report ∧
        (plan.check.runOn (platform faults) (State.start ["other"] 0)).trace.calls =
          before ++ [.deleteVolume plan.names.volume] ∧
        .deleteVolume plan.names.volume ∉ before ∧
        let now := (platform faults).after before (State.start ["other"] 0)
        plan.names.secondSandbox ∉ now.sandboxes ∧
          (plan.names.firstSandbox ∈ now.sandboxes ↔
            plan.names.firstSandbox ≠ plan.names.secondSandbox ∧
              report.verdict.reached ∈ [.firstSandboxCreated, .firstWriteDone]) ∧
          ∀ resident, now.sandboxes[plan.names.firstSandbox]? = some resident →
            resident.deleting = some faults.deletionLag := by
  intro plan faults
  have hnames : ∀ name ∈ [plan.names.firstSandbox, plan.names.secondSandbox],
      name ∉ ["other"] ∧ name ∉ faults.stuck ∧ name ∉ faults.failingDelete := by decide
  have hlag : faults.deletionLag < plan.policy.maxAttempts.toNat := by decide
  exact ⟨hnames, hlag, sandboxes_gone_before_volume plan faults ["other"] hnames hlag⟩

end Plan

end RemountCheck
