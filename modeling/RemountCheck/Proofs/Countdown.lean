import RemountCheck.Proofs.Schedule
import RemountCheck.Proofs.Territory

/-!
# The countdown of a deletion

A deletion that a platform in memory accepts is not complete at once: the sandbox lingers, and only
the lookups that find it bring its end nearer. This module follows one sandbox from its deletion on,
whatever calls are made on whatever names in the meantime.

* `RemountCheck.Memory.settledLookups` – the answers to the lookups of a name, without those that
  failed;
* `RemountCheck.Memory.Tick`, `RemountCheck.Memory.tick_next` – what one exchange is to a sandbox
  that lingers;
* `RemountCheck.Memory.settledLookups_isPrefix`, `RemountCheck.Memory.exists_lingering_after` – what
  many exchanges are;
* `RemountCheck.Memory.State.Leaving`, `RemountCheck.Memory.State.Vacant` – what is allowed while a
  sandbox lingers, and once it is gone;
* `RemountCheck.Memory.awaits_of_lingering` – the wait for it;
* `RemountCheck.Memory.deletion_counts_down` – the law of the countdown.

| an exchange | is answered | and leaves |
|---|---|---|
| a lookup that fails, or any other call | | the sandbox as it was |
| a lookup, if the sandbox is stuck | that it is there | the sandbox as it was |
| a lookup, if some are left | that it is there | one less |
| a lookup, if none is left | that it is not there | nothing |
-/

namespace RemountCheck

/-- The calls of a trace are those that are made at some time. -/
theorem Trace.calls_eq_map_timedCallsFrom (t : Trace) (now : Nat) :
    t.calls = (t.timedCallsFrom now).map (·.2) := by
  induction t generalizing now with
  | nil => rfl
  | cons entry t ih =>
    cases entry with
    | call c reply events => exact congrArg (c :: ·) (ih now)
    | log event => exact ih now
    | pause ms => exact ih (now + ms.toNat)

/-- A run on schedule makes its lookups, and no other call. -/
theorem Policy.OnSchedule.calls_eq_replicate {σ : Type} {policy : Policy} {name : String}
    {made lookups pauses : Nat} {r : Run σ (Except Crash Bool)} {gone : Bool}
    (h : policy.OnSchedule name made r gone lookups pauses) :
    r.trace.calls = List.replicate lookups (.getSandbox name) := by
  rw [Trace.calls_eq_map_timedCallsFrom r.trace 0, h.calls_eq, List.map_map]
  exact (List.map_const' ..).trans (by rw [List.length_range])

namespace Memory

/-! ### Lookups that settle something -/

/-- Whether a lookup found out anything. -/
def isSettled : Lookup Sandbox → Bool
  | .transient _ => false
  | _ => true

/-- The answer to a lookup of a name, unless it failed. -/
def settled? (name : String) : Exchange → Option (Lookup Sandbox)
  | ⟨.getSandbox other, .ok found⟩ => if other = name ∧ isSettled found then some found else none
  | _ => none

/-- **The answers to the lookups of a name**, in order and without those that failed. -/
def settledLookups (name : String) (xs : List Exchange) : List (Lookup Sandbox) :=
  xs.filterMap (settled? name)

variable {faults : Faults} {s : State} {name : String} {sandbox : Sandbox} {left : Nat}
  {x : Exchange} {xs : List Exchange}

/-- What is no lookup of the name settles nothing about it. -/
theorem settled?_eq_none (h : x.call ≠ .getSandbox name) : settled? name x = none := by
  obtain ⟨c, reply⟩ := x
  cases c with
  | getSandbox other =>
    have hother : other ≠ name := fun heq => h (by rw [heq])
    cases reply with
    | ok found => simp [settled?, hother]
    | error crash => rfl
  | _ => rfl

/-! ### One exchange -/

/-- **What an exchange is to a sandbox that lingers**: what it settles, and what it leaves. -/
inductive Tick (faults : Faults) (name : String) (sandbox : Sandbox) (left : Nat)
    (settled : Option (Lookup Sandbox)) (after : Option Resident) : Prop where
  /-- It is no lookup of the sandbox, or one that fails. -/
  | idle (hsettled : settled = none) (hafter : after = some ⟨sandbox, some left⟩)
  /-- It finds the sandbox, and will for ever. -/
  | stuck (hstuck : name ∈ faults.stuck) (hsettled : settled = some (.found sandbox))
    (hafter : after = some ⟨sandbox, some left⟩)
  /-- It finds the sandbox once more. -/
  | counted (fewer : Nat) (hstuck : name ∉ faults.stuck) (hleft : left = fewer + 1)
    (hsettled : settled = some (.found sandbox)) (hafter : after = some ⟨sandbox, some fewer⟩)
  /-- It finds nothing any more. -/
  | vanished (hstuck : name ∉ faults.stuck) (hleft : left = 0)
    (hsettled : settled = some .notFound) (hafter : after = none)

/-- **One exchange of a countdown.** -/
theorem tick_next (h : s.sandboxes[name]? = some ⟨sandbox, some left⟩)
    (hx : ((platform faults).reply x.call s).1 = x.reply) :
    Tick faults name sandbox left (settled? name x)
      ((platform faults).next x.call s).sandboxes[name]? := by
  by_cases hcall : x.call = .getSandbox name
  · obtain ⟨c, reply⟩ := x
    obtain rfl : c = .getSandbox name := hcall
    have hreply : .ok (getSandbox faults name (s.recording (.getSandbox name))).1 = reply := hx
    have hnext : (platform faults).next (.getSandbox name) s =
        (getSandbox faults name (s.recording (.getSandbox name))).2 := rfl
    subst hreply
    rw [hnext]
    have h : (s.recording (.getSandbox name)).sandboxes[name]? = some ⟨sandbox, some left⟩ := h
    rcases getSandbox_cases faults name (s.recording (.getSandbox name)) with
      ⟨pending, error, -, heq⟩ | ⟨-, ⟨hnone, -⟩ | ⟨r, hr, hstuck, heq⟩ |
        ⟨r, hr, hlast, hstuck, heq⟩ | ⟨r, fewer, hr, hlast, hstuck, heq⟩⟩
    · exact .idle (by rw [heq]; simp [settled?, isSettled]) (by rw [heq]; exact h)
    · cases h.symm.trans hnone
    · obtain rfl := Option.some.inj (h.symm.trans hr)
      exact .stuck (by simpa using hstuck) (by rw [heq]; simp [settled?, isSettled])
        (by rw [heq]; exact h)
    · obtain rfl := Option.some.inj (h.symm.trans hr)
      exact .vanished hstuck (Option.some.inj hlast) (by rw [heq]; simp [settled?, isSettled])
        (by rw [heq]; simp)
    · obtain rfl := Option.some.inj (h.symm.trans hr)
      exact .counted fewer hstuck (Option.some.inj hlast)
        (by rw [heq]; simp [settled?, isSettled])
        (by rw [heq]; exact Std.ExtTreeMap.getElem?_insert_self)
  · -- any other call finds the name taken, and its sandbox deleted already
    refine .idle (settled?_eq_none hcall) ?_
    rcases passage_next faults name s x.call with hkept | ⟨request, -, -, hbefore, -⟩ |
      ⟨other, -, hbefore, -⟩ | ⟨other, fewer, hc, -, -⟩ | ⟨other, hc, -, -⟩
    · exact hkept.trans h
    · cases h.symm.trans hbefore
    · cases h.symm.trans hbefore
    · exact absurd hc hcall
    · exact absurd hc hcall

/-! ### Many exchanges -/

/-- **The countdown.** A sandbox that is not stuck is found as often as lookups are left, and not
found by the one after. -/
theorem settledLookups_isPrefix (hstuck : name ∉ faults.stuck)
    (h : s.sandboxes[name]? = some ⟨sandbox, some left⟩)
    (hxs : (platform faults).RepliesWith xs s) :
    (settledLookups name xs).take (left + 1) <+:
      List.replicate left (.found sandbox) ++ [.notFound] := by
  induction xs generalizing s left with
  | nil => exact List.nil_prefix
  | cons x xs ih =>
    obtain ⟨hx, hxs⟩ := hxs
    rcases tick_next h hx with ⟨hsettled, hafter⟩ | ⟨hmem, -, -⟩ |
      ⟨fewer, -, rfl, hsettled, hafter⟩ | ⟨-, rfl, hsettled, -⟩
    · rw [settledLookups, List.filterMap_cons_none hsettled]
      exact ih hafter hxs
    · exact absurd hmem hstuck
    · rw [settledLookups, List.filterMap_cons_some hsettled, List.take_succ_cons,
        List.replicate_succ, List.cons_append, List.prefix_cons_inj]
      exact ih hafter hxs
    · rw [settledLookups, List.filterMap_cons_some hsettled]
      exact List.prefix_refl _

/-- **Until a lookup does not find it, the sandbox lingers**, with as many lookups left as have not
found it yet. -/
theorem exists_lingering_after (h : s.sandboxes[name]? = some ⟨sandbox, some left⟩)
    (hxs : (platform faults).RepliesWith xs s) (hfound : .notFound ∉ settledLookups name xs) :
    ∃ fewer, ((platform faults).after (xs.map (·.call)) s).sandboxes[name]? =
        some ⟨sandbox, some fewer⟩ ∧
      (name ∉ faults.stuck → fewer + (settledLookups name xs).length = left) := by
  induction xs generalizing s left with
  | nil => exact ⟨left, h, fun _ => rfl⟩
  | cons x xs ih =>
    obtain ⟨hx, hxs⟩ := hxs
    rw [settledLookups] at hfound ⊢
    rcases tick_next h hx with ⟨hsettled, hafter⟩ | ⟨hmem, hsettled, hafter⟩ |
      ⟨fewer, -, rfl, hsettled, hafter⟩ | ⟨-, -, hsettled, -⟩
    · rw [List.filterMap_cons_none hsettled] at hfound ⊢
      exact ih hafter hxs hfound
    · rw [List.filterMap_cons_some hsettled] at hfound ⊢
      obtain ⟨fewer, hlinger, -⟩ := ih hafter hxs (List.not_mem_of_not_mem_cons hfound)
      exact ⟨fewer, hlinger, fun hstuck => absurd hmem hstuck⟩
    · rw [List.filterMap_cons_some hsettled] at hfound ⊢
      obtain ⟨least, hlinger, hcount⟩ := ih hafter hxs (List.not_mem_of_not_mem_cons hfound)
      refine ⟨least, hlinger, fun hstuck => ?_⟩
      rw [List.length_cons, ← Nat.add_assoc, ← settledLookups, hcount hstuck]
    · rw [List.filterMap_cons_some hsettled] at hfound
      exact absurd List.mem_cons_self hfound

/-- A sandbox that is stuck is found by every lookup that does not fail. -/
theorem found_of_stuck (hstuck : name ∈ faults.stuck)
    (h : s.sandboxes[name]? = some ⟨sandbox, some left⟩)
    (hxs : (platform faults).RepliesWith xs s) :
    ∀ found ∈ settledLookups name xs, found = .found sandbox := by
  induction xs generalizing s with
  | nil => exact fun found hmem => absurd hmem List.not_mem_nil
  | cons x xs ih =>
    obtain ⟨hx, hxs⟩ := hxs
    rw [settledLookups]
    rcases tick_next h hx with ⟨hsettled, hafter⟩ | ⟨-, hsettled, hafter⟩ |
      ⟨fewer, hnot, -, -, -⟩ | ⟨hnot, -, -, -⟩
    · rw [List.filterMap_cons_none hsettled]
      exact ih hafter hxs
    · rw [List.filterMap_cons_some hsettled, List.forall_mem_cons]
      exact ⟨rfl, ih hafter hxs⟩
    · exact absurd hstuck hnot
    · exact absurd hstuck hnot

/-- A name under which there is no sandbox stays free unless one is created. -/
theorem absent_next {c : Call} (h : s.sandboxes[name]? = none)
    (hc : ∀ request, c = .createSandbox request → request.name ≠ name) :
    ((platform faults).next c s).sandboxes[name]? = none := by
  rcases passage_next faults name s c with hkept | ⟨request, heq, hname, -, -⟩ |
    ⟨other, -, hbefore, -⟩ | ⟨other, fewer, -, hbefore, -⟩ | ⟨other, -, -, hafter⟩
  · exact hkept.trans h
  · exact absurd hname (hc request heq)
  · cases h.symm.trans hbefore
  · cases h.symm.trans hbefore
  · exact hafter

theorem absent_after {cs : List Call} (h : s.sandboxes[name]? = none)
    (hcs : ∀ request, .createSandbox request ∈ cs → request.name ≠ name) :
    ((platform faults).after cs s).sandboxes[name]? = none := by
  induction cs generalizing s with
  | nil => exact h
  | cons c cs ih =>
    have hnext : ((platform faults).next c s).sandboxes[name]? = none :=
      absent_next h fun request heq => hcs request (heq ▸ List.mem_cons_self)
    exact ih hnext fun request hmem => hcs request (List.mem_cons_of_mem c hmem)

/-! ### What is allowed -/

/-- **A sandbox that is leaving**: it may be deleted again, which changes nothing but the record; no
command runs in it; and its name is still taken. -/
structure State.Leaving (s : State) (faults : Faults) (name : String) : Prop where
  deletion : ((platform faults).reply (.deleteSandbox name) s).1 = .ok (.ok ())
  deleted : (platform faults).next (.deleteSandbox name) s = s.recording (.deleteSandbox name)
  command : ∀ command, Exchange.succeeded
    ⟨.exec name command, ((platform faults).reply (.exec name command) s).1⟩ = false
  creation : ∀ request : SandboxRequest, request.name = name →
    ((platform faults).reply (.createSandbox request) s).1 =
      .ok (.error (.provision ("sandbox " ++ name ++ " already exists")))

theorem leaving_of_lingering (hdelete : name ∉ faults.failingDelete)
    (h : s.sandboxes[name]? = some ⟨sandbox, some left⟩) : s.Leaving faults name := by
  have hrecorded (c : Call) : (s.recording c).sandboxes[name]? = some ⟨sandbox, some left⟩ := h
  have hdeletion : deleteSandbox faults name (s.recording (.deleteSandbox name)) =
      (.ok (), s.recording (.deleteSandbox name)) :=
    deleteSandbox_of_lingering hdelete (hrecorded _) rfl
  refine ⟨?_, congrArg Prod.snd hdeletion, fun command => ?_, fun request hname => ?_⟩
  · exact congrArg (fun answer => Except.ok (Prod.fst answer)) hdeletion
  · change Exchange.succeeded ⟨_, (reply faults (.exec name command) s).1⟩ = false
    rw [reply]
    cases crash? faults (.exec name command) with
    | some crash => rfl
    | none =>
      simp only [answer, exec, hrecorded]
      split <;> rfl
  · have hmem : request.name ∈ (s.recording (.createSandbox request)).sandboxes := by
      rw [Std.ExtTreeMap.mem_iff_isSome_getElem?, hname, hrecorded]
      rfl
    have hcreation : createSandbox request (s.recording (.createSandbox request)) =
        (.error (.provision ("sandbox " ++ name ++ " already exists")),
          s.recording (.createSandbox request)) := by
      rw [createSandbox, if_pos hmem, hname]
    exact congrArg (fun answer => Except.ok (Prod.fst answer)) hcreation

/-- **A deletion that is accepted** is not refused, and the sandbox lingers. -/
theorem lingering_of_accepted (hlive : s.sandboxes[name]? = some ⟨sandbox, none⟩)
    (haccepted : ((platform faults).reply (.deleteSandbox name) s).1 = .ok (.ok ())) :
    name ∉ faults.failingDelete ∧
      ((platform faults).next (.deleteSandbox name) s).sandboxes[name]? =
        some ⟨sandbox, some faults.deletionLag⟩ := by
  have haccepted : (deleteSandbox faults name (s.recording (.deleteSandbox name))).1 = .ok () :=
    Except.ok.inj haccepted
  have hdelete : name ∉ faults.failingDelete := fun hfailing => by
    rw [deleteSandbox, if_pos hfailing] at haccepted
    cases haccepted
  refine ⟨hdelete, ?_⟩
  rw [sandboxes_next_deleteSandbox hdelete, if_pos rfl, hlive]
  rfl

/-- **A name that is vacant**: no sandbox is known under it, and one can be created there whose
volumes exist. -/
structure State.Vacant (s : State) (faults : Faults) (name : String) : Prop where
  absent : s.sandboxes[name]? = none
  creation : ∀ request : SandboxRequest, request.name = name →
    (∀ b ∈ request.spec.volumes, b.volume ∈ s.volumes) →
      ((platform faults).reply (.createSandbox request) s).1 =
          .ok (.ok (deployed request).sandbox) ∧
        ((platform faults).next (.createSandbox request) s).sandboxes[name]? =
          some (deployed request)

theorem vacant_of_absent (h : s.sandboxes[name]? = none) : s.Vacant faults name where
  absent := h
  creation request hname hvolumes := by
    subst hname
    have hcreation :=
      createSandbox_eq (s := s.recording (.createSandbox request)) request h hvolumes
    refine ⟨congrArg (fun answer => Except.ok (Prod.fst answer)) hcreation, ?_⟩
    change (createSandbox request (s.recording _)).2.sandboxes[request.name]? = _
    rw [hcreation]
    exact Std.ExtTreeMap.getElem?_insert_self

/-! ### The wait -/

/-- **The answers to one lookup after another** of a sandbox that lingers: first those that fail,
then those that find it. -/
def lingeringAnswers (faults : Faults) (name : String) (sandbox : Sandbox) (pending left i : Nat) :
    Lookup Sandbox :=
  if i < pending then .transient "sandbox get returned 503 Service Unavailable"
  else if name ∈ faults.stuck ∨ i < pending + left then .found sandbox
  else .notFound

/-- One lookup of a sandbox that lingers, and what is left of it. -/
theorem lookup_lingering (h : s.sandboxes[name]? = some ⟨sandbox, some left⟩) :
    let answers := lingeringAnswers faults name sandbox s.transientLookups left
    let next := (platform faults).next (.getSandbox name) s
    ((platform faults).reply (.getSandbox name) s).1 = .ok (answers 0) ∧
      ((∃ fewer, next.sandboxes[name]? = some ⟨sandbox, some fewer⟩ ∧ ∀ i, answers (i + 1) =
          lingeringAnswers faults name sandbox next.transientLookups fewer i) ∨
        next.sandboxes[name]? = none ∧ next.transientLookups = 0 ∧
          ∀ i, answers (i + 1) = .notFound) := by
  intro answers next
  have hnext : next = (getSandbox faults name (s.recording (.getSandbox name))).2 := rfl
  change Except.ok (getSandbox faults name (s.recording (.getSandbox name))).1 = _ ∧ _
  rw [hnext]
  cases hpending : s.transientLookups with
  | succ pending =>
    -- the lookup fails
    have heq : getSandbox faults name (s.recording (.getSandbox name)) =
        (.transient "sandbox get returned 503 Service Unavailable",
          { s.recording (.getSandbox name) with transientLookups := pending }) := by
      simp [getSandbox, State.recording, hpending]
    rw [heq]
    refine ⟨by simp [answers, lingeringAnswers, hpending], .inl ⟨left, h, fun i => ?_⟩⟩
    simp [answers, lingeringAnswers, hpending, Nat.add_right_comm pending 1 left]
  | zero =>
    have hzero : (s.recording (.getSandbox name)).transientLookups = 0 := hpending
    by_cases hstuck : name ∈ faults.stuck
    · have heq : getSandbox faults name (s.recording (.getSandbox name)) =
          (.found sandbox, s.recording (.getSandbox name)) := by
        simp [getSandbox, State.recording, hpending, h, hstuck]
      rw [heq]
      refine ⟨by simp [answers, lingeringAnswers, hpending, hstuck], .inl ⟨left, h, fun i => ?_⟩⟩
      simp [answers, lingeringAnswers, hpending, hzero, hstuck]
    · cases left with
      | zero =>
        -- it finds nothing, and nothing is left to find
        rw [getSandbox_vanishing hzero h rfl hstuck]
        refine ⟨by simp [answers, lingeringAnswers, hpending, hstuck],
          .inr ⟨?_, hzero, fun i => ?_⟩⟩
        · exact Std.ExtTreeMap.getElem?_erase_self
        · simp [answers, lingeringAnswers, hpending, hstuck]
      | succ fewer =>
        rw [getSandbox_lingering hzero h rfl hstuck]
        refine ⟨by simp [answers, lingeringAnswers, hpending], .inl ⟨fewer, ?_, fun i => ?_⟩⟩
        · exact Std.ExtTreeMap.getElem?_insert_self
        · simp [answers, lingeringAnswers, hpending, hzero, hstuck]

/-- Where there is no sandbox and no lookup is to fail, none is found. -/
theorem answers_of_absent (hpending : s.transientLookups = 0) (h : s.sandboxes[name]? = none) :
    (platform faults).Answers name (fun _ => .notFound) s := by
  intro i
  induction i generalizing s with
  | zero =>
    change Except.ok (getSandbox faults name (s.recording (.getSandbox name))).1 = _
    simp [getSandbox, State.recording, hpending, h]
  | succ i ih =>
    rw [List.replicate_succ, Platform.after_cons]
    refine ih (transientLookups_next hpending _) (absent_next h ?_)
    rintro _ ⟨⟩

theorem answers_of_lingering (h : s.sandboxes[name]? = some ⟨sandbox, some left⟩) :
    (platform faults).Answers name
      (lingeringAnswers faults name sandbox s.transientLookups left) s := by
  intro i
  induction i generalizing s left with
  | zero => exact (lookup_lingering h).1
  | succ i ih =>
    rw [List.replicate_succ, Platform.after_cons]
    obtain ⟨fewer, hlinger, hlater⟩ | ⟨habsent, hpending, hlater⟩ := (lookup_lingering h).2
    · rw [hlater]
      exact ih hlinger
    · rw [hlater]
      exact answers_of_absent hpending habsent i

/-- **The wait for a sandbox that lingers** confirms its absence if it has a lookup for each that
is to fail and each that finds it, and one more; and it makes no more than that. -/
theorem awaits_of_lingering {policy : Policy} (hpolicy : policy.onFailure = .countAsAttempt)
    (h : s.sandboxes[name]? = some ⟨sandbox, some left⟩) :
    let wait := (policy.await name).runOn (platform faults) s
    let budget := policy.maxAttempts.toNat
    wait.value = .ok (decide (name ∉ faults.stuck ∧ s.transientLookups + left < budget)) ∧
      wait.trace.calls = List.replicate
        (if name ∈ faults.stuck then budget else min budget (s.transientLookups + left + 1))
        (.getSandbox name) := by
  intro wait budget
  have hanswers : (platform faults).Answers name
      (lingeringAnswers faults name sandbox s.transientLookups left) s := answers_of_lingering h
  have hconfirms (i : Nat) :
      policy.confirms (lingeringAnswers faults name sandbox s.transientLookups left i) = true ↔
        name ∉ faults.stuck ∧ s.transientLookups + left ≤ i := by
    unfold lingeringAnswers
    split
    · simp only [Policy.confirms, hpolicy]
      refine iff_of_false (by decide) ?_
      rintro ⟨_, hle⟩
      omega
    · split
      · rename_i hfound
        refine iff_of_false Bool.false_ne_true ?_
        rintro ⟨hstuck, hle⟩
        rcases hfound with hmem | hlt
        · exact hstuck hmem
        · omega
      · rename_i hlost
        rw [not_or, Nat.not_lt] at hlost
        exact iff_of_true rfl hlost
  by_cases hgone : name ∉ faults.stuck ∧ s.transientLookups + left < budget
  · obtain ⟨hstuck, hbudget⟩ := hgone
    have hschedule : policy.OnSchedule name 0 wait true (s.transientLookups + left + 1)
        (s.transientLookups + left) := by
      refine .await (Policy.onSchedule_probe_of_confirms hanswers hbudget
        ((hconfirms _).mpr ⟨hstuck, Nat.le_refl _⟩) fun i hi => ?_)
      simpa [hstuck, hi] using (hconfirms i).not
    refine ⟨?_, ?_⟩
    · simp [hschedule.value_eq, hstuck, hbudget]
    · rw [hschedule.calls_eq_replicate, if_neg hstuck, Nat.min_eq_right hbudget]
  · have hschedule : policy.OnSchedule name 0 wait false budget budget := by
      refine .await (Policy.onSchedule_probe_of_open hanswers fun i hi => ?_)
      refine Bool.eq_false_iff.mpr fun hconfirmed => ?_
      obtain ⟨hstuck, hle⟩ := (hconfirms i).mp hconfirmed
      exact hgone ⟨hstuck, Nat.lt_of_le_of_lt hle hi⟩
    refine ⟨?_, ?_⟩
    · simp [hschedule.value_eq, hgone]
    · rw [hschedule.calls_eq_replicate]
      split
      · rfl
      · rename_i hstuck
        have hle : budget ≤ s.transientLookups + left + 1 := by
          have hnot := not_and.mp hgone hstuck
          omega
        rw [Nat.min_eq_left hle]

/-! ### The law of the countdown -/

/-- **The countdown of a deletion.** Let a platform in memory accept the deletion of a sandbox that
is in use. Then, whatever calls are made on whatever names: of the lookups of the sandbox that do
not fail, as many as the lag find it and the next does not, or all of them find it if it is stuck;
until one does not, the sandbox is leaving, and only those lookups have counted it down; after that
its name is vacant, unless a sandbox is created under it.

Hence a wait that follows the deletion, and takes no failure for an absence, confirms the absence if
its budget allows for the lookups that are to fail, for the lag and for one lookup more, and it
makes no more lookups than those. -/
theorem deletion_counts_down (faults : Faults) (s : State) (name : String) (sandbox : Sandbox)
    (hlive : s.sandboxes[name]? = some ⟨sandbox, none⟩)
    (haccepted : ((platform faults).reply (.deleteSandbox name) s).1 = .ok (.ok ())) :
    let p := platform faults
    let start := p.next (.deleteSandbox name) s
    (∀ xs, p.RepliesWith xs start →
      let now := p.after (xs.map (·.call)) start
      let answers := settledLookups name xs
      (name ∉ faults.stuck → answers.take (faults.deletionLag + 1) <+:
        List.replicate faults.deletionLag (.found sandbox) ++ [.notFound]) ∧
      (name ∈ faults.stuck → ∀ found ∈ answers, found = .found sandbox) ∧
      (.notFound ∉ answers → now.Leaving faults name ∧
        ∃ left, now.sandboxes[name]? = some ⟨sandbox, some left⟩ ∧
          (name ∉ faults.stuck → left + answers.length = faults.deletionLag)) ∧
      ∀ before later, xs = before ++ ⟨.getSandbox name, .ok .notFound⟩ :: later →
        (∀ request, .createSandbox request ∈ later.map (·.call) → request.name ≠ name) →
          now.Vacant faults name) ∧
    ∀ policy : Policy, policy.onFailure = .countAsAttempt →
      let wait := (policy.await name).runOn p start
      let needed := start.transientLookups + faults.deletionLag
      let budget := policy.maxAttempts.toNat
      wait.value = .ok (decide (name ∉ faults.stuck ∧ needed < budget)) ∧
        wait.trace.calls = List.replicate
          (if name ∈ faults.stuck then budget else min budget (needed + 1)) (.getSandbox name) := by
  intro p start
  obtain ⟨hdelete, hlinger⟩ := lingering_of_accepted hlive haccepted
  refine ⟨fun xs hxs => ?_, fun policy hpolicy => awaits_of_lingering hpolicy hlinger⟩
  intro now answers
  refine ⟨fun hstuck => settledLookups_isPrefix hstuck hlinger hxs,
    fun hstuck => found_of_stuck hstuck hlinger hxs, fun hfound => ?_, ?_⟩
  · obtain ⟨left, hnow, hcount⟩ := exists_lingering_after hlinger hxs hfound
    exact ⟨leaving_of_lingering hdelete hnow, left, hnow, hcount⟩
  · rintro before later rfl hlater
    have hnone := absent_of_notFound (Platform.RepliesWith.reply_eq p hxs)
    refine vacant_of_absent ?_
    have hnow : now = p.after (later.map (·.call))
        (p.next (.getSandbox name) (p.after (before.map (·.call)) start)) := by
      simp only [now, List.map_append, List.map_cons, Platform.after_append, Platform.after_cons]
    rw [hnow]
    exact absent_after hnone hlater

/-- A sandbox that mounts a volatile volume is found twice after one lookup that fails, so that four
lookups confirm its absence and three do not. -/
theorem deletion_counts_down_of_mounting :
    let faults : Faults := { deletionLag := 2, stuck := ["other"], volatile := true }
    let request : SandboxRequest := .ofImage "sandbox" "image" 512 none [⟨"volume", "/data", false⟩]
    let p := platform faults
    let s := p.after [.createVolume (.ofSize "volume" "Volume" 1 none), .createSandbox request]
      (.start ["other"] 1)
    let start := p.next (.deleteSandbox "sandbox") s
    s.sandboxes["sandbox"]? = some ⟨(deployed request).sandbox, none⟩ ∧
      (p.reply (.deleteSandbox "sandbox") s).1 = .ok (.ok ()) ∧
      ∀ budget, (budget = 3 ∨ budget = 4) →
        let policy : Policy := { maxAttempts := budget, onFailure := .countAsAttempt }
        let wait := (policy.await "sandbox").runOn p start
        wait.value = .ok (decide (budget = 4)) ∧
          wait.trace.calls = List.replicate budget.toNat (.getSandbox "sandbox") := by
  intro faults request p s start
  have hlive : s.sandboxes["sandbox"]? = some ⟨(deployed request).sandbox, none⟩ := by
    decide +kernel
  have haccepted : (p.reply (.deleteSandbox "sandbox") s).1 = .ok (.ok ()) := by decide +kernel
  refine ⟨hlive, haccepted, fun budget hbudget => ?_⟩
  intro policy wait
  obtain ⟨hvalue, hcalls⟩ :=
    (deletion_counts_down faults s "sandbox" _ hlive haccepted).2 policy rfl
  have hpending : start.transientLookups = 1 := by decide +kernel
  change wait.value = .ok (decide (_ ∧ start.transientLookups + 2 < budget.toNat)) at hvalue
  change wait.trace.calls =
    List.replicate (min budget.toNat (start.transientLookups + 2 + 1)) _ at hcalls
  rw [hvalue, hcalls, hpending]
  obtain rfl | rfl := hbudget
  · exact ⟨rfl, rfl⟩
  · exact ⟨rfl, rfl⟩

end Memory

end RemountCheck
