import RemountCheck.Proofs.Course

/-!
# The cleanup after a check

Whatever a check comes to, it is followed by a cleanup, and nothing that happens in the cleanup
changes what it came to. This module says which exchanges a teardown makes on every platform,
and what they leave of the verdict.

* `RemountCheck.Resource.Disposal` – what becomes of one resource, with the exchanges of that;
* `RemountCheck.Resource.Removal` – the same without crashes: what the delete was answered, and
  the lookups and the end of the wait if one was due;
* `RemountCheck.Teardown.Disposals` – what becomes of several, one after the other, up to the
  first crash, and `RemountCheck.Teardown.Disposals.exists_removals`, without crashes;
* `RemountCheck.Plan.CleansUp` – the exchanges of a cleanup in which no call crashes;
* `RemountCheck.Plan.check_cleans_up` – every check ends with such a cleanup, and its report
  holds the verdict that its steps came to.

A crash in the cleanup is the one thing that is not dealt with. It ends the check without a
report, and it is the last that happens (`RemountCheck.CrashesOnlyAtEnd`).
-/

namespace RemountCheck

/-! ### Crashes -/

/-- Exchanges crash only at their end, and only if that is what they end with. -/
def CrashesOnlyAtEnd {α : Type} (xs : List Exchange) : Except Crash α → Prop
  | .ok _ => ∀ x ∈ xs, x.crash? = none
  | .error crash =>
    ∃ ys y, xs = ys ++ [y] ∧ (∀ x ∈ ys, x.crash? = none) ∧ y.crash? = some crash

namespace CrashesOnlyAtEnd

variable {α β : Type} {xs ys : List Exchange}

theorem map {v : Except Crash α} (f : α → β) (h : CrashesOnlyAtEnd xs v) :
    CrashesOnlyAtEnd xs (v.map f) := by
  cases v with
  | ok a => exact h
  | error crash => exact h

theorem append {v : Except Crash α} (hx : ∀ x ∈ xs, x.crash? = none)
    (hy : CrashesOnlyAtEnd ys v) : CrashesOnlyAtEnd (xs ++ ys) v := by
  cases v with
  | ok a =>
    intro x hxy
    rcases List.mem_append.mp hxy with h | h
    · exact hx x h
    · exact hy x h
  | error crash =>
    obtain ⟨zs, y, rfl, hzs, hy⟩ := hy
    refine ⟨xs ++ zs, y, by simp, fun x hxz => ?_, hy⟩
    rcases List.mem_append.mp hxz with h | h
    · exact hx x h
    · exact hzs x h

/-- What crashes ends the exchanges, and they end with that crash. -/
theorem eq_of_crash? {v : Except Crash α} {x : Exchange} {crash : Crash}
    (h : CrashesOnlyAtEnd (xs ++ x :: ys) v) (hx : x.crash? = some crash) :
    ys = [] ∧ v = .error crash := by
  cases v with
  | ok a =>
    have hnone : x.crash? = none := h x (by simp)
    simp [hx] at hnone
  | error crash' =>
    obtain ⟨zs, y, heq, hzs, hy⟩ := h
    rcases List.eq_nil_or_concat ys with rfl | ⟨ys, z, rfl⟩
    · obtain ⟨-, rfl⟩ : xs = zs ∧ x = y := by simpa using heq
      exact ⟨rfl, by simp_all⟩
    · -- something follows what crashed, so that it is not the last
      have hmem : x ∈ zs := by
        have hzs : xs ++ x :: ys = zs := by
          have heq : (xs ++ x :: ys) ++ [z] = zs ++ [y] := by simpa using heq
          exact (List.append_inj' heq rfl).1
        simp [← hzs]
      simp [hzs x hmem] at hx

end CrashesOnlyAtEnd

/-- A wait crashes only at its end. -/
theorem Policy.Waits.crashesOnlyAtEnd {policy : Policy} {name : String} {budget : Nat}
    {xs : List Exchange} {v : Except Crash Bool} (h : policy.Waits name budget xs v) :
    CrashesOnlyAtEnd xs v := by
  cases v with
  | ok gone => exact fun x hx => Exchange.crash?_of_succeeded (h.succeeded x hx)
  | error crash =>
    obtain ⟨vs, rfl, hvs, -⟩ := h
    exact ⟨vs, _, rfl, fun x hx => Exchange.crash?_of_succeeded (hvs x hx).succeeded, rfl⟩

/-! ### One resource -/

namespace Resource

/-- The exchange in which a resource is deleted. -/
def exchange : Resource → Except Crash (Except Failure Unit) → Exchange
  | sandbox name _, reply => ⟨.deleteSandbox name, reply⟩
  | volume name, reply => ⟨.deleteVolume name, reply⟩

theorem call_exchange (r : Resource) (reply : Except Crash (Except Failure Unit)) :
    (r.exchange reply).call = r.deletion := by
  cases r <;> rfl

/-- **What becomes of a resource**, with the exchanges of that: its delete, and the lookups of
its wait if the delete is accepted and a wait is due. -/
inductive Disposal (policy : Policy) (r : Resource) :
    List Exchange → Except Crash Teardown.Fate → Prop where
  /-- The delete crashes. -/
  | crashed (crash : Crash) : Disposal policy r [r.exchange (.error crash)] (.error crash)
  /-- There is nothing to delete. -/
  | alreadyGone {failure : Failure} (h : failure.isNotFound = true) :
    Disposal policy r [r.exchange (.ok (.error failure))] (.ok .alreadyGone)
  /-- The delete fails. -/
  | failed {failure : Failure} (h : failure.isNotFound = false) :
    Disposal policy r [r.exchange (.ok (.error failure))] (.ok (.failed failure))
  /-- The delete is accepted, and that is all. -/
  | accepted (h : r.confirmed = false) :
    Disposal policy r [r.exchange (.ok (.ok ()))] (.ok (.deleted none))
  /-- The delete is accepted and waited for. -/
  | waited {ws : List Exchange} {v : Except Crash Bool} (h : r.confirmed = true)
    (wait : policy.Waits r.name policy.maxAttempts.toNat ws v) :
    Disposal policy r (r.exchange (.ok (.ok ())) :: ws) (v.map fun gone => .deleted (some gone))

variable {σ : Type} {p : Platform σ} {s : σ} {policy : Policy} {r : Resource}

theorem leads_delete (r : Resource) :
    Leads p r.delete s fun xs v _ => xs = [r.exchange v] := by
  cases r <;> exact rfl

theorem leads_dispose (policy : Policy) (r : Resource) :
    Leads p (Teardown.dispose policy r) s fun xs v _ => Disposal policy r xs v := by
  refine leads_bind.mpr ((leads_delete r).mono fun xs v s' hxs => ?_)
  subst hxs
  cases v with
  | error crash => exact .crashed crash
  | ok answer =>
    cases answer with
    | error failure =>
      cases hnotFound : failure.isNotFound with
      | true => simpa [hnotFound, Except.map] using Disposal.alreadyGone hnotFound
      | false => simpa [hnotFound, Except.map] using Disposal.failed hnotFound
    | ok _ =>
      cases hconfirmed : r.confirmed with
      | false => simpa [hconfirmed, Except.map] using Disposal.accepted hconfirmed
      | true =>
        simp only [leads_bind, Routine.leads_tell, ↓reduceIte]
        refine (policy.leads_await r.name).mono fun ws v _ hws => ?_
        have hwaited := Disposal.waited hconfirmed hws
        cases v with
        | error crash => exact hwaited
        | ok gone => cases gone <;> simpa [Except.map] using hwaited

theorem Disposal.crashesOnlyAtEnd {xs : List Exchange} {v : Except Crash Teardown.Fate}
    (h : Disposal policy r xs v) : CrashesOnlyAtEnd xs v := by
  have hanswered (answer : Except Failure Unit) : ∀ x ∈ [r.exchange (.ok answer)],
      x.crash? = none := by
    cases r <;> simp [exchange, Exchange.crash?]
  cases h with
  | crashed crash => exact ⟨[], _, rfl, by simp, by cases r <;> rfl⟩
  | alreadyGone _ => exact hanswered _
  | failed _ => exact hanswered _
  | accepted _ => exact hanswered _
  | waited _ wait => exact .append (hanswered _) (wait.crashesOnlyAtEnd.map _)

/-- A disposal is the deletion of its resource and, if a wait is due, lookups of it. -/
theorem Disposal.call_cases {xs : List Exchange} {v : Except Crash Teardown.Fate}
    (h : Disposal policy r xs v) :
    ∀ x ∈ xs, x.call = r.deletion ∨ r.confirmed = true ∧ x.call = .getSandbox r.name := by
  intro x hx
  cases h with
  | @waited ws w hconfirmed wait =>
    rcases List.mem_cons.mp hx with rfl | hx
    · exact .inl (r.call_exchange _)
    · have hmem : x.call ∈ ws.map (·.call) := List.mem_map_of_mem hx
      rw [wait.calls_eq.2] at hmem
      exact .inr ⟨hconfirmed, List.eq_of_mem_replicate hmem⟩
  | _ =>
    obtain rfl := List.mem_singleton.mp hx
    exact .inl (r.call_exchange _)

variable (policy) in
/-- **The removal of a resource** in which nothing crashes: what its delete was answered and, if
that was accepted and a wait was due, the lookups and the end of the wait. -/
structure Removal where
  resource : Resource
  answer : Except Failure Unit
  lookups : List Exchange
  /-- What the wait ended with, if there was one. -/
  gone : Option Bool
  /-- There was a wait exactly if one was due. -/
  waited :
    if answer.isOk && resource.confirmed then
      ∃ b, gone = some b ∧ policy.Waits resource.name policy.maxAttempts.toNat lookups (.ok b)
    else lookups = [] ∧ gone = none

namespace Removal

/-- The exchanges of a removal: the delete and, directly after it, the lookups. -/
def exchanges (d : Removal policy) : List Exchange :=
  d.resource.exchange (.ok d.answer) :: d.lookups

/-- What became of the resource. -/
def fate (d : Removal policy) : Teardown.Fate :=
  match d.answer with
  | .ok () => .deleted d.gone
  | .error failure => if failure.isNotFound then .alreadyGone else .failed failure

/-- Where no wait is due, nothing is looked up. -/
theorem lookups_of_not_due (d : Removal policy)
    (h : (d.answer.isOk && d.resource.confirmed) = false) : d.lookups = [] ∧ d.gone = none := by
  have hwaited := d.waited
  rwa [h, if_neg Bool.false_ne_true] at hwaited

/-- Where a wait is due, it is made and ends. -/
theorem waits_of_due (d : Removal policy) (h : (d.answer.isOk && d.resource.confirmed) = true) :
    ∃ b, d.gone = some b ∧
      policy.Waits d.resource.name policy.maxAttempts.toNat d.lookups (.ok b) := by
  have hwaited := d.waited
  rwa [if_pos h] at hwaited

end Removal

/-- **A disposal that ends with a fate is a removal.** -/
theorem Disposal.exists_removal {xs : List Exchange} {fate : Teardown.Fate}
    (h : Disposal policy r xs (.ok fate)) :
    ∃ d : Removal policy, d.resource = r ∧ d.exchanges = xs ∧ d.fate = fate := by
  generalize hv : Except.ok fate = v at h
  cases h with
  | crashed crash => cases hv
  | @alreadyGone failure h =>
    cases hv
    exact ⟨⟨r, .error failure, [], none, by simp [Except.isOk, Except.toBool]⟩, rfl, rfl,
      by simp [Removal.fate, h]⟩
  | @failed failure h =>
    cases hv
    exact ⟨⟨r, .error failure, [], none, by simp [Except.isOk, Except.toBool]⟩, rfl, rfl,
      by simp [Removal.fate, h]⟩
  | accepted h =>
    cases hv
    exact ⟨⟨r, .ok (), [], none, by simp [h]⟩, rfl, rfl, rfl⟩
  | @waited ws w h wait =>
    cases w with
    | error crash => simp [Except.map] at hv
    | ok gone =>
      cases hv
      have hdue : (Except.isOk (Except.ok () : Except Failure Unit) && r.confirmed) = true := by
        simpa [Except.isOk, Except.toBool] using h
      exact ⟨⟨r, .ok (), ws, some gone, by rw [if_pos hdue]; exact ⟨gone, rfl, wait⟩⟩, rfl, rfl, rfl⟩

end Resource

/-! ### Several resources -/

namespace Teardown

open Resource

/-- **What becomes of several resources**, one after the other, up to the first crash. -/
inductive Disposals (policy : Policy) :
    List Resource → List Exchange → Except Crash (List (Resource × Fate)) → Prop where
  /-- Nothing is left. -/
  | nil : Disposals policy [] [] (.ok [])
  /-- A crash, after which the others are left as they are. -/
  | crashed {r : Resource} {rs : List Resource} {xs : List Exchange} {crash : Crash}
    (here : Disposal policy r xs (.error crash)) : Disposals policy (r :: rs) xs (.error crash)
  /-- One, and then the others. -/
  | cons {r : Resource} {rs : List Resource} {xs ys : List Exchange} {fate : Fate}
    {v : Except Crash (List (Resource × Fate))} (here : Disposal policy r xs (.ok fate))
    (rest : Disposals policy rs ys v) :
    Disposals policy (r :: rs) (xs ++ ys) (v.map fun fates => (r, fate) :: fates)

variable {policy : Policy} {rs : List Resource} {σ : Type} {p : Platform σ} {s : σ}

theorem leads_disposeAll (policy : Policy) (rs : List Resource) :
    Leads p (disposeAll policy rs) s fun xs v _ => Disposals policy rs xs v := by
  induction rs generalizing s with
  | nil => exact .nil
  | cons r rs ih =>
    refine leads_bind.mpr ((leads_dispose policy r).mono fun xs v s' hxs => ?_)
    cases v with
    | error crash => exact .crashed hxs
    | ok fate =>
      refine leads_bind.mpr (ih.mono fun ys v _ hys => ?_)
      have hcons := Disposals.cons hxs hys
      cases v with
      | error crash => exact hcons
      | ok fates => simpa [Except.map] using hcons

theorem Disposals.crashesOnlyAtEnd {xs : List Exchange}
    {v : Except Crash (List (Resource × Fate))} (h : Disposals policy rs xs v) :
    CrashesOnlyAtEnd xs v := by
  induction h with
  | nil => exact fun x hx => absurd hx List.not_mem_nil
  | crashed here => exact here.crashesOnlyAtEnd
  | cons here _ ih => exact .append here.crashesOnlyAtEnd (ih.map _)

theorem Disposals.call_cases {xs : List Exchange} {v : Except Crash (List (Resource × Fate))}
    (h : Disposals policy rs xs v) :
    ∀ x ∈ xs, ∃ r ∈ rs,
      x.call = r.deletion ∨ r.confirmed = true ∧ x.call = .getSandbox r.name := by
  induction h with
  | nil => exact fun x hx => absurd hx List.not_mem_nil
  | @crashed r _ _ _ here => exact fun x hx => ⟨r, List.mem_cons_self, here.call_cases x hx⟩
  | @cons r _ _ _ _ _ here _ ih =>
    intro x hx
    rcases List.mem_append.mp hx with hx | hx
    · exact ⟨r, List.mem_cons_self, here.call_cases x hx⟩
    · obtain ⟨r', hr', hcall⟩ := ih x hx
      exact ⟨r', List.mem_cons_of_mem r hr', hcall⟩

/-- **Where nothing crashes, each resource is removed**, one after the other. -/
theorem Disposals.exists_removals {xs : List Exchange} {fates : List (Resource × Fate)}
    (h : Disposals policy rs xs (.ok fates)) :
    ∃ ds : List (Removal policy), ds.map (·.resource) = rs ∧ ds.flatMap (·.exchanges) = xs ∧
      ds.map (fun d => (d.resource, d.fate)) = fates := by
  generalize hv : Except.ok fates = v at h
  induction h generalizing fates with
  | nil =>
    cases hv
    exact ⟨[], rfl, rfl, rfl⟩
  | crashed here => cases hv
  | @cons r rs ys zs fate w here rest ih =>
    cases w with
    | error crash => simp [Except.map] at hv
    | ok fates' =>
      cases hv
      obtain ⟨d, rfl, rfl, rfl⟩ := here.exists_removal
      obtain ⟨ds, rfl, rfl, rfl⟩ := ih rfl
      exact ⟨d :: ds, rfl, rfl, rfl⟩

end Teardown

/-! ### The whole check -/

namespace Plan

open Resource

variable (plan : Plan)

/-- The teardown of a check holds the three resources, also where both sandboxes have one
name: they differ in whether their deletion is waited for. -/
theorem teardown_eq :
    plan.teardown =
      { resources :=
          [.sandbox plan.names.firstSandbox false, .sandbox plan.names.secondSandbox true,
            .volume plan.names.volume]
        policy := plan.policy } := by
  simp [teardown, Teardown.register]

/-- **The exchanges of a cleanup in which no call crashes**: the delete of each sandbox and of
the volume, in this order and whatever any of them is answered, and after the second, if it is
accepted, a wait. -/
def CleansUp (xs : List Exchange) : Prop :=
  ∃ (first second volume : Except Failure Unit) (ws : List Exchange),
    xs = ⟨.deleteSandbox plan.names.firstSandbox, .ok first⟩ ::
      ⟨.deleteSandbox plan.names.secondSandbox, .ok second⟩ ::
      (ws ++ [⟨.deleteVolume plan.names.volume, .ok volume⟩]) ∧
    if second.isOk then
      ws.length ≤ plan.policy.maxAttempts.toNat ∧
      (∀ w ∈ ws, w.call = .getSandbox plan.names.secondSandbox) ∧
      ∃ gone, plan.policy.Waits plan.names.secondSandbox plan.policy.maxAttempts.toNat ws (.ok gone)
    else ws = []

variable {σ : Type} {p : Platform σ} {s : σ}

/-- **A check is its steps and then its teardown**, whose report stands beside the verdict. -/
theorem leads_check :
    Leads p plan.check s fun xs v _ =>
      let r := plan.judge.run p s
      ∃ ys w, xs = r.trace.exchanges ++ ys ∧
        Teardown.Disposals plan.policy plan.teardown.resources ys w ∧
        v = w.map fun fates => ⟨r.value, .ofFates fates⟩ := by
  refine leads_bind.mpr (leads_lift.mpr (leads_bind.mpr (Routine.leads_tell.mpr ?_)))
  refine leads_bind.mpr (leads_bind.mpr ((Teardown.leads_disposeAll _ _).mono ?_))
  intro ys v s' hys
  rw [show plan.teardown.policy = plan.policy by rw [teardown_eq]] at hys
  cases v with
  | error crash => exact ⟨ys, _, by simp, hys, rfl⟩
  | ok fates =>
    refine leads_pure.mpr ?_
    dsimp only
    split
    · refine leads_bind.mpr (Routine.leads_tell.mpr (leads_pure.mpr ?_))
      exact ⟨ys, .ok fates, by simp, hys, rfl⟩
    · refine leads_pure.mpr ?_
      exact ⟨ys, .ok fates, by simp, hys, rfl⟩

/-- The report of a check holds the verdict that its steps came to. -/
theorem verdict_of_check {report : Report}
    (h : (plan.check.runOn p s).value = .ok report) :
    report.verdict = (plan.judge.run p s).value := by
  obtain ⟨ys, w, -, -, hw⟩ := plan.leads_check (p := p) (s := s)
  have hw : Except.ok report = w.map _ := h.symm.trans hw
  cases w with
  | error crash => simp [Except.map] at hw
  | ok fates => cases hw; rfl

/-- A teardown in which no call crashes is a cleanup. -/
theorem cleansUp_of_disposals {xs : List Exchange} {fates : List (Resource × Teardown.Fate)}
    (h : Teardown.Disposals plan.policy plan.teardown.resources xs (.ok fates)) :
    plan.CleansUp xs := by
  rw [teardown_eq] at h
  obtain ⟨ds, hds, rfl, -⟩ := h.exists_removals
  obtain ⟨first, ds, rfl, hfirst, hds⟩ := List.map_eq_cons_iff.mp hds
  obtain ⟨second, ds, rfl, hsecond, hds⟩ := List.map_eq_cons_iff.mp hds
  obtain ⟨volume, ds, rfl, hvolume, hds⟩ := List.map_eq_cons_iff.mp hds
  obtain rfl := List.map_eq_nil_iff.mp hds
  -- only the deletion of the second sandbox is to be confirmed
  have hnone₁ : first.lookups = [] := (first.lookups_of_not_due (by simp [hfirst, confirmed])).1
  have hnone₃ : volume.lookups = [] := (volume.lookups_of_not_due (by simp [hvolume, confirmed])).1
  refine ⟨first.answer, second.answer, volume.answer, second.lookups, ?_, ?_⟩
  · simp [Removal.exchanges, hfirst, hsecond, hvolume, hnone₁, hnone₃, exchange]
  · cases hok : second.answer.isOk with
    | false =>
      rw [if_neg Bool.false_ne_true]
      exact (second.lookups_of_not_due (by simp [hok])).1
    | true =>
      obtain ⟨gone, -, hwait⟩ := second.waits_of_due (by simp [hok, hsecond, confirmed])
      rw [hsecond] at hwait
      obtain ⟨hlen, hcalls⟩ := hwait.calls_eq
      refine ⟨hlen, fun w hw => ?_, gone, hwait⟩
      exact List.eq_of_mem_replicate (hcalls ▸ List.mem_map_of_mem hw)

/-- **Every check ends with a cleanup**, on every platform and whatever its steps came to. If
no call of the cleanup crashes, there is a report, which holds the verdict of the steps; a
crash of one leaves the check at once. What the cleanup is answered counts for nothing: the
replies to the steps alone determine the verdict and the exit status. -/
theorem check_cleans_up (plan : Plan) (p : Platform σ) (s : σ) :
    let steps := plan.judge.run p s
    let whole := plan.check.runOn p s
    ∃ xs, whole.trace.exchanges = steps.trace.exchanges ++ xs ∧
      ((∀ x ∈ xs, x.crash? = none) →
        plan.CleansUp xs ∧ ∃ report, whole.value = .ok report ∧ report.verdict = steps.value) ∧
      (∀ pre x post crash, xs = pre ++ x :: post → x.crash? = some crash →
        post = [] ∧ whole.value = .error crash) ∧
      ∀ {σ' : Type} (p' : Platform σ') (s' : σ'), p'.RepliesWith steps.trace.exchanges s' →
        ∀ report report', whole.value = .ok report → (plan.check.runOn p' s').value = .ok report' →
          report'.verdict = report.verdict ∧ report'.exitStatus = report.exitStatus := by
  intro steps whole
  obtain ⟨xs, w, hxs, hdisposals, hw⟩ := plan.leads_check (p := p) (s := s)
  refine ⟨xs, hxs, fun hnone => ?_, fun pre x post crash heq hx => ?_, ?_⟩
  · cases w with
    | ok fates => exact ⟨plan.cleansUp_of_disposals hdisposals, _, hw, rfl⟩
    | error crash =>
      obtain ⟨ys, y, rfl, -, hy⟩ := hdisposals.crashesOnlyAtEnd
      simp [hnone y (by simp)] at hy
  · subst heq
    obtain ⟨hpost, rfl⟩ := hdisposals.crashesOnlyAtEnd.eq_of_crash? hx
    exact ⟨hpost, hw⟩
  · intro σ' p' s' hreplies report report' hreport hreport'
    have hsame := (Script.run_congr p p' plan.judge s s' hreplies).2
    have hverdicts : report'.verdict = report.verdict := by
      rw [plan.verdict_of_check hreport, plan.verdict_of_check hreport', hsame]
    exact ⟨hverdicts, by simp [Report.exitStatus, Report.passed, hverdicts]⟩

end Plan

end RemountCheck
