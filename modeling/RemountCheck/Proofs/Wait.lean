import RemountCheck.Proofs.Exchange
import RemountCheck.Check.Absence

/-!
# The lookups of a wait

Whoever waits for a sandbox to be gone looks it up until a lookup confirms its absence, a
lookup crashes or the budget is used up. This module says which exchanges that makes, for
every platform.

* `RemountCheck.Policy.LeavesOpen` – a lookup that was answered and confirmed nothing;
* `RemountCheck.Policy.Waits` – the exchanges of a wait with a budget, by what it ends with;
* `RemountCheck.Policy.leads_await` – a wait makes exchanges of that kind.
-/

namespace RemountCheck

namespace Policy

/-- A lookup confirms an absence if it finds none, or if it fails and a failure is taken to
confirm it. -/
theorem confirms_iff {α : Type} {policy : Policy} {found : Lookup α} :
    policy.confirms found = true ↔
      found = .notFound ∨
        policy.onFailure = .treatAsAbsent ∧ ∃ error, found = .transient error := by
  cases found <;> simp [confirms]

/-- An exchange is a lookup that confirmed nothing. -/
def LeavesOpen (policy : Policy) (name : String) (x : Exchange) : Prop :=
  ∃ found, x = ⟨.getSandbox name, .ok found⟩ ∧ policy.confirms found = false

/-- **The exchanges of a wait with a budget**, by what it ends with: with an absence, if its
last lookup and no other confirmed it; without, if as many lookups as the budget allows
confirmed nothing; with a crash, if its last lookup and no other crashed. -/
def Waits (policy : Policy) (name : String) (budget : Nat) (xs : List Exchange) :
    Except Crash Bool → Prop
  | .ok true => ∃ vs found, xs = vs ++ [⟨.getSandbox name, .ok found⟩] ∧
      policy.confirms found = true ∧ (∀ v ∈ vs, policy.LeavesOpen name v) ∧ vs.length < budget
  | .ok false => xs.length = budget ∧ ∀ x ∈ xs, policy.LeavesOpen name x
  | .error crash => ∃ vs, xs = vs ++ [⟨.getSandbox name, .error crash⟩] ∧
      (∀ v ∈ vs, policy.LeavesOpen name v) ∧ vs.length < budget

variable {policy : Policy} {name : String} {xs : List Exchange} {budget : Nat}

theorem LeavesOpen.call_eq {x : Exchange} (h : policy.LeavesOpen name x) :
    x.call = .getSandbox name := by
  obtain ⟨found, rfl, -⟩ := h
  rfl

theorem LeavesOpen.succeeded {x : Exchange} (h : policy.LeavesOpen name x) :
    x.succeeded = true := by
  obtain ⟨found, rfl, -⟩ := h
  rfl

/-- One more lookup that confirms nothing, before the others of a wait. -/
theorem Waits.cons {x : Exchange} {v : Except Crash Bool} (hx : policy.LeavesOpen name x)
    (h : policy.Waits name budget xs v) : policy.Waits name (budget + 1) (x :: xs) v := by
  cases v with
  | error crash =>
    obtain ⟨vs, rfl, hvs, hlen⟩ := h
    exact ⟨x :: vs, rfl, by simpa [hx] using hvs, by simpa using hlen⟩
  | ok gone =>
    cases gone with
    | false => exact ⟨by simpa using h.1, by simpa [hx] using h.2⟩
    | true =>
      obtain ⟨vs, found, rfl, hfound, hvs, hlen⟩ := h
      exact ⟨x :: vs, found, rfl, hfound, by simpa [hx] using hvs, by simpa using hlen⟩

/-- **The first lookup of a wait** confirms nothing and the others follow, or it is the only one:
it confirms the absence or crashes. -/
theorem Waits.cons_cases {x : Exchange} {v : Except Crash Bool}
    (h : policy.Waits name budget (x :: xs) v) :
    (∃ left, budget = left + 1 ∧ policy.LeavesOpen name x ∧ policy.Waits name left xs v) ∨
      xs = [] ∧ ((∃ found, x = ⟨.getSandbox name, .ok found⟩ ∧ policy.confirms found = true ∧
          v = .ok true) ∨
        ∃ crash, x = ⟨.getSandbox name, .error crash⟩ ∧ v = .error crash) := by
  cases v with
  | error crash =>
    obtain ⟨vs, heq, hvs, hlen⟩ := h
    cases vs with
    | nil =>
      obtain ⟨rfl, rfl⟩ := List.cons.inj heq
      exact .inr ⟨rfl, .inr ⟨crash, rfl, rfl⟩⟩
    | cons y vs =>
      obtain ⟨rfl, rfl⟩ := List.cons.inj heq
      obtain ⟨left, rfl⟩ := Nat.exists_eq_add_of_lt (Nat.zero_lt_of_lt hlen)
      rw [List.forall_mem_cons] at hvs
      exact .inl ⟨left, by omega, hvs.1, vs, rfl, hvs.2, by simpa using hlen⟩
  | ok gone =>
    cases gone with
    | false =>
      obtain ⟨hlen, hopen⟩ := h
      rw [List.forall_mem_cons] at hopen
      exact .inl ⟨xs.length, by simpa using hlen.symm, hopen.1, rfl, hopen.2⟩
    | true =>
      obtain ⟨vs, found, heq, hfound, hvs, hlen⟩ := h
      cases vs with
      | nil =>
        obtain ⟨rfl, rfl⟩ := List.cons.inj heq
        exact .inr ⟨rfl, .inl ⟨found, rfl, hfound, rfl⟩⟩
      | cons y vs =>
        obtain ⟨rfl, rfl⟩ := List.cons.inj heq
        obtain ⟨left, rfl⟩ := Nat.exists_eq_add_of_lt (Nat.zero_lt_of_lt hlen)
        rw [List.forall_mem_cons] at hvs
        exact .inl ⟨left, by omega, hvs.1, vs, found, rfl, hfound, hvs.2, by simpa using hlen⟩

/-- A wait without lookups had no budget for any. -/
theorem Waits.of_nil {v : Except Crash Bool} (h : policy.Waits name budget [] v) :
    budget = 0 ∧ v = .ok false := by
  cases v with
  | error crash => simp [Waits] at h
  | ok gone =>
    cases gone with
    | false => exact ⟨h.1.symm, rfl⟩
    | true => simp [Waits] at h

/-- A wait makes no more lookups than its budget allows, and nothing else. -/
theorem Waits.calls_eq {v : Except Crash Bool} (h : policy.Waits name budget xs v) :
    xs.length ≤ budget ∧ xs.map (·.call) = List.replicate xs.length (.getSandbox name) := by
  have hopen : ∀ vs : List Exchange, (∀ v ∈ vs, policy.LeavesOpen name v) →
      ∀ c ∈ vs.map (·.call), c = .getSandbox name := by
    intro vs hvs c hc
    obtain ⟨v, hv, rfl⟩ := List.mem_map.mp hc
    exact (hvs v hv).call_eq
  rw [List.eq_replicate_iff]
  cases v with
  | error crash =>
    obtain ⟨vs, rfl, hvs, hlen⟩ := h
    refine ⟨by simpa using Nat.succ_le_of_lt hlen, by simp, fun c hc => ?_⟩
    simp only [List.map_append, List.mem_append, List.map_cons, List.map_nil,
      List.mem_singleton] at hc
    exact hc.elim (hopen vs hvs c) id
  | ok gone =>
    cases gone with
    | false => exact ⟨Nat.le_of_eq h.1, by simp, hopen xs h.2⟩
    | true =>
      obtain ⟨vs, found, rfl, -, hvs, hlen⟩ := h
      refine ⟨by simpa using Nat.succ_le_of_lt hlen, by simp, fun c hc => ?_⟩
      simp only [List.map_append, List.mem_append, List.map_cons, List.map_nil,
        List.mem_singleton] at hc
      exact hc.elim (hopen vs hvs c) id

/-- In a wait that ends without a crash, every lookup was answered. -/
theorem Waits.succeeded {gone : Bool} (h : policy.Waits name budget xs (.ok gone)) :
    ∀ x ∈ xs, x.succeeded = true := by
  cases gone with
  | false => exact fun x hx => (h.2 x hx).succeeded
  | true =>
    obtain ⟨vs, found, rfl, -, hvs, -⟩ := h
    intro x hx
    rcases List.mem_append.mp hx with hx | hx
    · exact (hvs x hx).succeeded
    · obtain rfl := List.mem_singleton.mp hx
      rfl

variable {σ : Type} {p : Platform σ} {s : σ}

/-- The lookups of a wait, when some have been made and some are left. -/
theorem leads_probe (policy : Policy) (name : String) (made left : Nat) :
    Leads p (policy.probe name made left) s fun xs v _ => policy.Waits name left xs v := by
  induction left generalizing made s with
  | zero =>
    have hout : policy.Waits name 0 [] (.ok false) := ⟨rfl, by simp⟩
    simpa [probe, Except.map] using hout
  | succ left ih =>
    refine leads_bind.mpr (Routine.leads_ask.mpr ?_)
    generalize p.next (.getSandbox name) s = s'
    cases (p.reply (.getSandbox name) s).1 with
    | error crash => exact ⟨[], rfl, by simp, by simp⟩
    | ok found =>
      -- a lookup that leaves the matter open is followed by the lookups that are left
      have again (h : policy.confirms found = false) :
          Leads p (policy.probe name (made + 1) left) s' fun ys v _ =>
            policy.Waits name (left + 1) ([⟨.getSandbox name, .ok found⟩] ++ ys) v :=
        (ih (made + 1)).mono fun ys v _ hys => hys.cons ⟨found, rfl, h⟩
      have last (h : policy.confirms found = true) :
          policy.Waits name (left + 1) [⟨.getSandbox name, .ok found⟩] (.ok true) :=
        ⟨[], found, rfl, h, by simp, by simp⟩
      cases found with
      | notFound => simpa [Except.map] using last rfl
      | found value => simpa using again rfl
      | transient error =>
        cases honFailure : policy.onFailure with
        | treatAsAbsent =>
          simpa [honFailure, Except.map] using last (by simp [confirms, honFailure])
        | countAsAttempt => simpa [honFailure] using again (by simp [confirms, honFailure])

/-- **The lookups of a wait**, on every platform. -/
theorem leads_await (policy : Policy) (name : String) :
    Leads p (policy.await name) s fun xs v _ =>
      policy.Waits name policy.maxAttempts.toNat xs v := by
  simpa [await] using policy.leads_probe name 0 policy.maxAttempts.toNat

end Policy

end RemountCheck
