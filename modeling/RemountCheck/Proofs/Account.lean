import Mathlib.Data.List.Basic
import Mathlib.Data.List.Induction
import RemountCheck.Proofs.Cleanup
import RemountCheck.Proofs.Residents

/-!
# The account of a teardown

A teardown is planned resource by resource and reports by name. This module says that its report
is a true account of its deletes: none is lost, none is counted twice, and what is said of a
resource is what its delete was answered and how its wait ended.

* `RemountCheck.Teardown.foldl_register` – what is written down for a teardown;
* `RemountCheck.Resource.Removal.accepted`, `foundNone` and `refusal?` – the three kinds of answers
  to a delete;
* `RemountCheck.Teardown.Accounts` – a report accounts for the exchanges of a teardown;
* `RemountCheck.Teardown.report_accounts` – every report does, on every platform.

| the delete of a resource was answered | its name is in |
|---|---|
| that it was accepted | `deleted` |
| the same, but its wait saw no absence | `deleted` and `unconfirmed` |
| that there is no such resource | `alreadyGone` |
| another failure | `failed`, with the message |

A name may stand for several resources, so that the lists of names are compared with the plan as
lists and not as sets.
-/

namespace RemountCheck

/-- Whether a call deletes something. -/
def Call.isDeletion : Call → Bool
  | deleteSandbox _ => true
  | deleteVolume _ => true
  | _ => false

/-! ### Answers to a delete -/

namespace Resource

theorem isDeletion_deletion (r : Resource) : r.deletion.isDeletion = true := by
  cases r <;> rfl

namespace Removal

variable {policy : Policy}

/-- The delete was accepted. -/
def accepted (d : Removal policy) : Bool := d.answer.isOk

/-- The delete found nothing to delete. -/
def foundNone (d : Removal policy) : Bool :=
  match d.answer with
  | .ok () => false
  | .error failure => failure.isNotFound

/-- The name of the resource with the message of the failure, if the delete failed otherwise. -/
def refusal? (d : Removal policy) : Option (String × String) :=
  match d.answer with
  | .ok () => none
  | .error failure => if failure.isNotFound then none else some (d.resource.name, failure.message)

/-- The wait was made and did not see the absence. -/
def leftOpen (d : Removal policy) : Bool := d.gone = some false

/-- **One of three**: a delete was accepted, found nothing or was refused. -/
theorem answer_cases (d : Removal policy) :
    (d.accepted = true ∧ d.foundNone = false ∧ d.refusal? = none ∧ d.fate = .deleted d.gone) ∨
    (d.accepted = false ∧ d.foundNone = true ∧ d.refusal? = none ∧ d.leftOpen = false ∧
      d.fate = .alreadyGone) ∨
    ∃ failure, d.accepted = false ∧ d.foundNone = false ∧
      d.refusal? = some (d.resource.name, failure.message) ∧ d.leftOpen = false ∧
      d.fate = .failed failure := by
  cases hanswer : d.answer with
  | ok _ => exact .inl (by simp [accepted, foundNone, refusal?, fate, hanswer, Except.isOk,
      Except.toBool])
  | error failure =>
    right
    have hgone : d.gone = none :=
      (d.lookups_of_not_due (by simp [hanswer, Except.isOk, Except.toBool])).2
    cases hnotFound : failure.isNotFound with
    | true => exact .inl (by simp [accepted, foundNone, refusal?, leftOpen, fate, hanswer,
        hnotFound, hgone, Except.isOk, Except.toBool])
    | false => exact .inr ⟨failure, by simp [accepted, foundNone, refusal?, leftOpen, fate, hanswer,
        hnotFound, hgone, Except.isOk, Except.toBool]⟩

/-- Only after a delete that was accepted can a wait have been left open. -/
theorem accepted_of_leftOpen {d : Removal policy} (h : d.leftOpen = true) :
    d.accepted = true := by
  obtain ⟨haccepted, -⟩ | ⟨-, -, -, hopen, -⟩ | ⟨failure, -, -, -, hopen, -⟩ := d.answer_cases
  · exact haccepted
  · simp [hopen] at h
  · simp [hopen] at h

/-- A delete was not refused if it was accepted or said that there is nothing to delete. -/
theorem refusal?_eq_none_iff {d : Removal policy} :
    d.refusal? = none ↔ d.answer = .ok () ∨ ∃ text, d.answer = .error (.notFound text) := by
  unfold refusal?
  cases d.answer with
  | ok _ => simp
  | error failure => cases failure <;> simp [Failure.isNotFound]

/-- No wait was left open if none was made or it saw the absence. -/
theorem leftOpen_eq_false_iff {d : Removal policy} :
    d.leftOpen = false ↔ ∀ gone, d.gone = some gone → gone = true := by
  rcases hgone : d.gone with _ | gone
  · simp [leftOpen, hgone]
  · cases gone <;> simp [leftOpen, hgone]

/-- Of the exchanges of a removal, the delete is the one that deletes. -/
theorem filter_isDeletion (d : Removal policy) :
    (d.exchanges.map (·.call)).filter Call.isDeletion = [d.resource.deletion] := by
  have hlookups : ∀ c ∈ d.lookups.map (·.call), ¬c.isDeletion = true := by
    intro c hc
    by_cases hdue : (d.answer.isOk && d.resource.confirmed) = true
    · obtain ⟨b, -, hwait⟩ := d.waits_of_due hdue
      rw [hwait.calls_eq.2] at hc
      rw [List.eq_of_mem_replicate hc]
      exact Bool.false_ne_true
    · rw [(d.lookups_of_not_due (by simpa using hdue)).1] at hc
      exact absurd hc List.not_mem_nil
  rw [exchanges, List.map_cons, call_exchange, List.filter_cons_of_pos d.resource.isDeletion_deletion,
    List.filter_eq_nil_iff.mpr hlookups]

end Removal

end Resource

namespace Teardown

open Resource

/-! ### What is written down -/

/-- **What is written down is what was asked for**, in order and each thing once, where it came
first. -/
theorem foldl_register (policy : Policy) (rs : List Resource) :
    rs.foldl register { policy } = { resources := rs.eraseDups, policy } := by
  induction rs using List.reverseRecOn with
  | nil => rfl
  | append_singleton rs r ih =>
    rw [List.foldl_append, ih, List.foldl_cons, List.foldl_nil, register, List.eraseDups_append]
    by_cases hr : r ∈ rs
    · simp [hr, List.removeAll]
    · have hone : [r].eraseDups = [r] := by simp [List.eraseDups_cons]
      simp [hr, hone, List.removeAll]

/-! ### What is reported -/

variable {policy : Policy}

/-- **A report of removals** lists their names by the answers to the deletes, in order. -/
theorem Report.ofFates_removals (ds : List (Removal policy)) :
    Report.ofFates (ds.map fun d => (d.resource, d.fate)) =
      { deleted := (ds.filter (·.accepted)).map (·.resource.name)
        alreadyGone := (ds.filter (·.foundNone)).map (·.resource.name)
        failed := ds.filterMap (·.refusal?)
        unconfirmed := (ds.filter (·.leftOpen)).map (·.resource.name) } := by
  induction ds with
  | nil => rfl
  | cons d ds ih =>
    have hcons : Report.ofFates ((d :: ds).map fun d => (d.resource, d.fate)) =
        (Report.ofFates (ds.map fun d => (d.resource, d.fate))).cons d.resource d.fate := rfl
    rw [hcons, ih]
    obtain ⟨ha, hf, hr, hfate⟩ | ⟨ha, hf, hr, ho, hfate⟩ | ⟨failure, ha, hf, hr, ho, hfate⟩ :=
      d.answer_cases
    · cases ho : d.leftOpen <;> simp_all [Report.cons, Removal.leftOpen]
    · simp [Report.cons, ha, hf, hr, ho, hfate]
    · simp [Report.cons, ha, hf, hr, ho, hfate]

/-- **The three kinds of answers share the removals out** among them. -/
theorem perm_names (ds : List (Removal policy)) :
    ((ds.filter (·.accepted)).map (·.resource.name) ++
        ((ds.filter (·.foundNone)).map (·.resource.name) ++
          (ds.filterMap (·.refusal?)).map Prod.fst)).Perm
      (ds.map (·.resource.name)) := by
  induction ds with
  | nil => exact .nil
  | cons d ds ih =>
    rw [List.map_cons]
    obtain ⟨ha, hf, hr, -⟩ | ⟨ha, hf, hr, -⟩ | ⟨failure, ha, hf, hr, -⟩ := d.answer_cases
    · simpa [ha, hf, hr] using ih
    · simpa [ha, hf, hr] using List.perm_middle.trans (ih.cons d.resource.name)
    · rw [← List.append_assoc] at ih ⊢
      simpa [ha, hf, hr] using List.perm_middle.trans (ih.cons d.resource.name)

/-- **A report accounts for the exchanges of a teardown**, given how each of its resources was
removed. -/
structure Accounts (t : Teardown) (xs : List Exchange) (report : Report)
    (ds : List (Removal t.policy)) : Prop where
  /-- The planned resources were removed, in order. -/
  resources : ds.map (·.resource) = t.resources
  /-- Their deletes, each with the wait that directly follows it, are all that happened. -/
  exchanges : xs = ds.flatMap (·.exchanges)
  /-- There was one delete for each resource, in order. -/
  deletions : (xs.map (·.call)).filter Call.isDeletion = t.resources.map (·.deletion)
  deleted : report.deleted = (ds.filter (·.accepted)).map (·.resource.name)
  alreadyGone : report.alreadyGone = (ds.filter (·.foundNone)).map (·.resource.name)
  failed : report.failed = ds.filterMap (·.refusal?)
  unconfirmed : report.unconfirmed = (ds.filter (·.leftOpen)).map (·.resource.name)
  /-- No resource is lost and none is counted twice. -/
  partition : (report.deleted ++ (report.alreadyGone ++ report.failed.map Prod.fst)).Perm
    (t.resources.map (·.name))
  sublist : report.unconfirmed.Sublist report.deleted
  /-- Nothing is left to see to exactly if all is deleted or was not there, and every wait that
  was made saw the absence. -/
  isClean : report.isClean = true ↔
    (∀ d ∈ ds, d.answer = .ok () ∨ ∃ text, d.answer = .error (.notFound text)) ∧
      ∀ d ∈ ds, ∀ gone, d.gone = some gone → gone = true

/-- The report of removals accounts for their exchanges. -/
theorem accounts_ofFates {t : Teardown} {ds : List (Removal t.policy)}
    (hds : ds.map (·.resource) = t.resources) :
    t.Accounts (ds.flatMap (·.exchanges)) (.ofFates (ds.map fun d => (d.resource, d.fate))) ds := by
  have hnames : t.resources.map (·.name) = ds.map (·.resource.name) := by
    rw [← hds, List.map_map]
    rfl
  rw [Report.ofFates_removals]
  refine ⟨hds, rfl, ?_, rfl, rfl, rfl, rfl, hnames ▸ perm_names ds, ?_, ?_⟩
  · rw [← hds, List.map_flatMap, List.filter_flatMap]
    simp [Removal.filter_isDeletion, ← List.map_eq_flatMap]
  · refine List.Sublist.map _ (List.monotone_filter_right ds fun d hd => ?_)
    exact Removal.accepted_of_leftOpen hd
  · simp only [Report.isClean, Bool.and_eq_true, List.isEmpty_iff, List.filterMap_eq_nil_iff,
      List.map_eq_nil_iff, List.filter_eq_nil_iff, Bool.not_eq_true,
      Removal.refusal?_eq_none_iff, Removal.leftOpen_eq_false_iff]

variable {σ : Type} {p : Platform σ} {s : σ}

/-- A teardown disposes of its resources and reports what became of them. -/
theorem leads_run (t : Teardown) :
    Leads p t.run s fun xs v _ =>
      ∃ w, Disposals t.policy t.resources xs w ∧ v = w.map .ofFates := by
  refine leads_bind.mpr ((leads_disposeAll t.policy t.resources).mono fun xs v s' hxs => ?_)
  cases v with
  | error crash => exact ⟨.error crash, hxs, rfl⟩
  | ok fates => exact leads_pure.mpr ⟨.ok fates, by simpa using hxs, rfl⟩

/-- **The law of the report.** What is written down for a teardown is what was asked for, each
thing once. A teardown in which no call crashes ends with a report, which accounts for all of its
exchanges: one delete for each resource, in order, and the waits that follow directly where they
are due. -/
theorem report_accounts (policy : Policy) (rs : List Resource) (t : Teardown) (p : Platform σ)
    (s : σ) :
    rs.foldl register { policy } = { resources := rs.eraseDups, policy } ∧
      let r := t.run.runOn p s
      (∀ x ∈ r.trace.exchanges, x.crash? = none) →
        ∃ report ds, r.value = .ok report ∧ t.Accounts r.trace.exchanges report ds := by
  refine ⟨foldl_register policy rs, fun hnone => ?_⟩
  obtain ⟨w, hdisposals, hw⟩ := t.leads_run (p := p) (s := s)
  cases w with
  | error crash =>
    obtain ⟨ys, y, hys, -, hy⟩ := hdisposals.crashesOnlyAtEnd
    have hcrash : y.crash? = none := hnone y (by
      change y ∈ ((ExceptT.run t.run).run p s).trace.exchanges
      rw [hys]
      simp)
    cases hcrash.symm.trans hy
  | ok fates =>
    obtain ⟨ds, hds, hxs, rfl⟩ := hdisposals.exists_removals
    refine ⟨_, ds, hw, ?_⟩
    have haccounts := accounts_ofFates hds
    rwa [hxs] at haccounts

/-- In memory no call of a teardown crashes, since it runs no commands. -/
theorem Disposals.crash?_eq_none {policy : Policy} {rs : List Resource} {faults : Memory.Faults}
    {xs : List Exchange} {v : Except Crash (List (Resource × Fate))}
    (h : Disposals policy rs xs v)
    (hcrashes : ∀ x ∈ xs, x.crash? = Memory.crash? faults x.call) :
    ∀ x ∈ xs, x.crash? = none := by
  intro x hx
  rw [hcrashes x hx]
  obtain ⟨r, -, hcall | ⟨-, hcall⟩⟩ := h.call_cases x hx
  · rw [hcall]
    cases r <;> rfl
  · rw [hcall]
    rfl

/-- The same name may stand for two sandboxes and a volume. Of the sandbox there is one to
delete, which is answered twice. -/
theorem report_accounts_under_one_name :
    let rs : List Resource := [.sandbox "x" false, .sandbox "x" true, .sandbox "x" false, .volume "x"]
    let t := rs.foldl register { policy := { maxAttempts := 0 } }
    let r := t.run.runOn (Memory.platform { stuck := ["x"] }) (.start ["x"] 0)
    t.resources = [.sandbox "x" false, .sandbox "x" true, .volume "x"] ∧
      (∀ x ∈ r.trace.exchanges, x.crash? = none) ∧
      ∃ report ds, r.value = .ok report ∧ t.Accounts r.trace.exchanges report ds := by
  intro rs t r
  have hnone : ∀ x ∈ r.trace.exchanges, x.crash? = none := by
    obtain ⟨w, hdisposals, -⟩ :=
      t.leads_run (p := Memory.platform { stuck := ["x"] }) (s := .start ["x"] 0)
    exact hdisposals.crash?_eq_none
      (Memory.crash?_of_repliesWith (Script.repliesWith_run _ (ExceptT.run t.run) _))
  obtain ⟨hplan, hreport⟩ := report_accounts { maxAttempts := 0 } rs t
    (Memory.platform { stuck := ["x"] }) (.start ["x"] 0)
  exact ⟨by decide, hnone, hreport hnone⟩

end Teardown

end RemountCheck
