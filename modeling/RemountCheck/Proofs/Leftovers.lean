import RemountCheck.Proofs.Account
import RemountCheck.Proofs.Territory

/-!
# What a check leaves behind

On a platform in memory a check may stop anywhere, its commands may crash, and its deletions may
take long or never be complete. Whatever happens, it comes to a report, and what it created is
deleted as far as that can be done: the volume is gone, and a sandbox that is still known under
one of its two names lingers. Nothing else on the platform is touched.

* `RemountCheck.Memory.State.Retired` – a name under which no sandbox is in use;
* `RemountCheck.Memory.retired_next` – it stays so unless a sandbox is created;
* `RemountCheck.Plan.exists_report` – every check ends with a report, since what may crash are
  commands, and a cleanup runs none;
* `RemountCheck.Plan.retired_check` – what the cleanup does;
* `RemountCheck.Plan.agreeOn_outside_check` – what no call of a check does;
* `RemountCheck.Plan.check_leaves_nothing_behind` – the state after a check.

The deletions have to be accepted: a platform that refuses to delete a resource of the check
leaves it there, and the report says so.
-/

namespace RemountCheck

namespace Memory

/-! ### Names that are not in use -/

/-- **A name is retired**: if a sandbox is known under it, then one that lingers. -/
def State.Retired (s : State) (name : String) : Prop :=
  ∀ r : Resident, s.sandboxes[name]? = some r → r.isLive = false

section Retired

variable {faults : Faults} {s : State} {name : String}

/-- **A name stays retired** unless a sandbox is created. -/
theorem retired_next (h : s.Retired name) {c : Call} (hc : c.sandboxRequest? = none) :
    ((platform faults).next c s).Retired name := by
  intro r hr
  rcases passage_next faults name s c with hkept | ⟨request, rfl, -, -, -⟩ |
    ⟨sandbox, -, -, hafter⟩ | ⟨sandbox, left, -, -, hafter⟩ | ⟨sandbox, -, -, hafter⟩
  · exact h r (hkept ▸ hr)
  · cases hc
  · obtain rfl := Option.some.inj (hr.symm.trans hafter)
    rfl
  · obtain rfl := Option.some.inj (hr.symm.trans hafter)
    rfl
  · cases hr.symm.trans hafter

theorem retired_after (h : s.Retired name) {cs : List Call}
    (hcs : ∀ c ∈ cs, c.sandboxRequest? = none) :
    ((platform faults).after cs s).Retired name := by
  induction cs generalizing s with
  | nil => exact h
  | cons c cs ih =>
    obtain ⟨hc, hcs⟩ := List.forall_mem_cons.mp hcs
    exact ih (retired_next h hc) hcs

/-- **A deletion that is not refused retires the name.** -/
theorem retired_of_deleteSandbox (hname : name ∉ faults.failingDelete) :
    ((platform faults).next (.deleteSandbox name) s).Retired name := by
  intro r hr
  rw [sandboxes_next_deleteSandbox hname, if_pos rfl] at hr
  obtain ⟨r₀, -, rfl⟩ := Option.map_eq_some_iff.mp hr
  rfl

/-- A deletion that is not refused takes the volume away. -/
theorem absent_of_deleteVolume (hname : name ∉ faults.failingDelete) :
    ((platform faults).next (.deleteVolume name) s).volumes[name]? = none := by
  change (deleteVolume faults name (s.recording (.deleteVolume name))).2.volumes[name]? = none
  rw [deleteVolume, if_neg hname]
  split
  · simp
  · rename_i habsent
    exact Std.ExtTreeMap.getElem?_eq_none habsent

end Retired

end Memory

/-! ### The end of a check -/

namespace Plan

open Memory

variable (plan : Plan) (faults : Faults) (s : State)

/-- **Every check ends with a report.** Only commands may crash; a crash of one in the steps is a
cause to stop like any other, and a cleanup runs none. -/
theorem exists_report : ∃ report, (plan.check.runOn (platform faults) s).value = .ok report := by
  obtain ⟨ys, w, hxs, hdisposals, hw⟩ := plan.leads_check (p := platform faults) (s := s)
  have hcrashes := crash?_of_repliesWith
    (Script.repliesWith_run (platform faults) (ExceptT.run plan.check) s)
  cases w with
  | ok fates => exact ⟨_, hw⟩
  | error crash =>
    obtain ⟨zs, y, rfl, -, hy⟩ := hdisposals.crashesOnlyAtEnd
    have hnone : y.crash? = none :=
      hdisposals.crash?_eq_none (fun x hx => hcrashes x (by simp [hxs, hx])) y (by simp)
    cases hnone.symm.trans hy

/-- **A check ends with a cleanup**, whose last call deletes the volume. -/
theorem exists_calls_cleanup :
    ∃ ws : List Call, (∀ w ∈ ws, w = .getSandbox plan.names.secondSandbox) ∧
      (plan.check.runOn (platform faults) s).trace.calls =
        (plan.judge.run (platform faults) s).trace.calls ++
          (.deleteSandbox plan.names.firstSandbox :: .deleteSandbox plan.names.secondSandbox ::
            (ws ++ [.deleteVolume plan.names.volume])) := by
  obtain ⟨ys, w, hxs, hdisposals, hw⟩ := plan.leads_check (p := platform faults) (s := s)
  obtain ⟨report, hreport⟩ := plan.exists_report faults s
  have hw : Except.ok report = w.map _ := hreport.symm.trans hw
  cases w with
  | error crash => simp [Except.map] at hw
  | ok fates =>
    obtain ⟨_, second, _, ws, rfl, hws⟩ := plan.cleansUp_of_disposals hdisposals
    refine ⟨ws.map (·.call), fun c hc => ?_, ?_⟩
    · obtain ⟨x, hx, rfl⟩ := List.mem_map.mp hc
      split at hws
      · exact hws.2.1 x hx
      · simp [hws] at hx
    · change (Script.run _ (ExceptT.run plan.check) s).trace.calls = _
      rw [Trace.calls_eq_map, hxs, Trace.calls_eq_map, List.map_append]
      simp

/-- What a check leaves is what its cleanup makes of the state that its steps leave. -/
theorem exists_cleanup : ∃ ws : List Call, (∀ w ∈ ws, w = .getSandbox plan.names.secondSandbox) ∧
    (plan.check.runOn (platform faults) s).state =
      (platform faults).after
        (.deleteSandbox plan.names.firstSandbox :: .deleteSandbox plan.names.secondSandbox ::
          (ws ++ [.deleteVolume plan.names.volume]))
        (plan.judge.run (platform faults) s).state := by
  obtain ⟨ws, hws, hcalls⟩ := plan.exists_calls_cleanup faults s
  refine ⟨ws, hws, ?_⟩
  have hstate : (plan.check.runOn (platform faults) s).state =
      (platform faults).after (plan.check.runOn (platform faults) s).trace.calls s :=
    Script.run_state ..
  rw [hstate, hcalls, Platform.after_append, ← Script.run_state]

variable {plan faults s}

/-- **After a check its resources are gone or linger**, if no deletion of them is refused. -/
theorem retired_check
    (hdelete : ∀ name ∈ [plan.names.firstSandbox, plan.names.secondSandbox, plan.names.volume],
      name ∉ faults.failingDelete) :
    let after := (plan.check.runOn (platform faults) s).state
    after.Retired plan.names.firstSandbox ∧ after.Retired plan.names.secondSandbox ∧
      after.volumes[plan.names.volume]? = none := by
  simp only [List.forall_mem_cons] at hdelete
  obtain ⟨hfirst, hsecond, hvolume, -⟩ := hdelete
  obtain ⟨ws, hws, hstate⟩ := plan.exists_cleanup faults s
  -- what follows the deletion of a sandbox creates none
  have hrest : ∀ c ∈ ws ++ [.deleteVolume plan.names.volume], c.sandboxRequest? = none := by
    intro c hc
    rcases List.mem_append.mp hc with hc | hc
    · rw [hws c hc]
      rfl
    · rw [List.mem_singleton.mp hc]
      rfl
  refine ⟨?_, ?_, ?_⟩
  · rw [hstate, Platform.after_cons]
    exact retired_after (retired_of_deleteSandbox hfirst) (List.forall_mem_cons.mpr ⟨rfl, hrest⟩)
  · rw [hstate, Platform.after_cons, Platform.after_cons]
    exact retired_after (retired_of_deleteSandbox hsecond) hrest
  · rw [hstate, ← List.cons_append, ← List.cons_append, Platform.after_append]
    exact absent_of_deleteVolume hvolume

/-- **A check changes nothing outside of its territory**, if the names of both sandboxes are
free. -/
theorem agreeOn_outside_check (hfirst : plan.names.firstSandbox ∉ s.sandboxes)
    (hsecond : plan.names.secondSandbox ∉ s.sandboxes) :
    s.AgreeOn plan.territory.outside (plan.check.runOn (platform faults) s).state := by
  have hconfined : s.Confined plan.territory := by
    rintro name resident (rfl | rfl) hr
    · exact absurd (Std.ExtTreeMap.mem_iff_isSome_getElem?.mpr (by simp [hr])) hfirst
    · exact absurd (Std.ExtTreeMap.mem_iff_isSome_getElem?.mpr (by simp [hr])) hsecond
  have hwithin : ∀ c ∈ (plan.check.runOn (platform faults) s).trace.calls,
      c.Within plan.territory := by
    intro c hc
    rw [Trace.calls_eq_map] at hc
    obtain ⟨x, hx, rfl⟩ := List.mem_map.mp hc
    exact plan.within_check (platform faults) s x hx
  have hend : (plan.check.runOn (platform faults) s).state = _ := Script.run_state ..
  rw [hend]
  exact (agreeOn_outside_after hconfined hwithin).1

variable (plan faults s) in
/-- **A check leaves nothing behind and touches nothing else.** On a platform in memory, with any
faults and in any state, if the names of both sandboxes are free and no deletion of the check's
resources is refused: the check ends with a report; the volume is gone; a sandbox that is
still known under one of the names is not in use; and all other volumes and sandboxes are what
they were. -/
theorem check_leaves_nothing_behind (hfirst : plan.names.firstSandbox ∉ s.sandboxes)
    (hsecond : plan.names.secondSandbox ∉ s.sandboxes)
    (hdelete : ∀ name ∈ [plan.names.firstSandbox, plan.names.secondSandbox, plan.names.volume],
      name ∉ faults.failingDelete) :
    let r := plan.check.runOn (platform faults) s
    (∃ report, r.value = .ok report) ∧
      plan.names.volume ∉ r.state.volumes ∧
      (∀ name ∈ [plan.names.firstSandbox, plan.names.secondSandbox],
        ∀ resident, r.state.sandboxes[name]? = some resident → resident.isLive = false) ∧
      (∀ name ≠ plan.names.volume, r.state.volumes[name]? = s.volumes[name]?) ∧
      ∀ name ∉ [plan.names.firstSandbox, plan.names.secondSandbox],
        r.state.sandboxes[name]? = s.sandboxes[name]? := by
  intro r
  obtain ⟨hretired₁, hretired₂, habsent⟩ := retired_check (s := s) hdelete
  have hagree : s.AgreeOn plan.territory.outside r.state := agreeOn_outside_check hfirst hsecond
  refine ⟨plan.exists_report faults s, ?_, ?_, fun name hname => ?_, fun name hname => ?_⟩
  · simpa using habsent
  · intro name hname
    simp only [List.mem_cons, List.not_mem_nil, or_false] at hname
    obtain rfl | rfl := hname
    · exact hretired₁
    · exact hretired₂
  · exact (hagree.volumes name hname).symm
  · exact (hagree.sandboxes name (by simpa [territory, Territory.outside] using hname)).symm

/-- The volume of the check may be there before it, its commands may crash, and its second sandbox
may never vanish. -/
theorem check_leaves_nothing_behind_when_crashing :
    let plan : Plan := { names := .fixed, image := "image" }
    let faults : Faults :=
      { stuck := ["second-sandbox"]
        failingDelete := ["other"]
        crashingExec := some "cat"
        volatile := true }
    let s := (platform faults).next (.createVolume plan.volumeRequest) (.start ["other"] 1)
    let r := plan.check.runOn (platform faults) s
    plan.names.firstSandbox ∉ s.sandboxes ∧ plan.names.secondSandbox ∉ s.sandboxes ∧
      (∃ report, r.value = .ok report) ∧
      plan.names.volume ∉ r.state.volumes ∧
      (∀ name ∈ [plan.names.firstSandbox, plan.names.secondSandbox],
        ∀ resident, r.state.sandboxes[name]? = some resident → resident.isLive = false) ∧
      (∀ name ≠ plan.names.volume, r.state.volumes[name]? = s.volumes[name]?) ∧
      ∀ name ∉ [plan.names.firstSandbox, plan.names.secondSandbox],
        r.state.sandboxes[name]? = s.sandboxes[name]? := by
  intro plan faults s r
  have hfree (name : String) (hname : name ∉ ["other"]) : name ∉ s.sandboxes := by
    have hs : s.sandboxes = (State.start ["other"] 1).sandboxes := by
      simp only [s, next_eq, answer]
      rfl
    rw [hs, Std.ExtTreeMap.mem_iff_isSome_getElem?, sandboxes_start, if_neg hname]
    exact Bool.false_ne_true
  have hfirst : plan.names.firstSandbox ∉ s.sandboxes := hfree _ (by decide)
  have hsecond : plan.names.secondSandbox ∉ s.sandboxes := hfree _ (by decide)
  exact ⟨hfirst, hsecond, check_leaves_nothing_behind plan faults s hfirst hsecond (by decide)⟩

end Plan

end RemountCheck
