import RemountCheck.Proofs.Wait

/-!
# The schedule of a wait

How long a wait takes, and how often it looks, is settled by the first lookup that confirms the
absence. This module says so to the lookup, the pause and the millisecond, for every platform that
answers.

* `RemountCheck.Platform.Answers` – what a platform answers to one lookup after another;
* `RemountCheck.Policy.OnSchedule` – a run that makes one lookup after each pause, with so many
  lookups, so many pauses and no other call;
* `RemountCheck.Policy.probeWord` – the lookups of a wait with the attempts counted in a word of
  32 bits. The count stays within the budget, so that it never wraps around
  (`RemountCheck.Policy.probeWord_eq`);
* `RemountCheck.Policy.await_on_schedule` – the law of the wait.

| the first lookup that confirms | the wait ends with | lookups | pauses |
|---|---|---|---|
| the one with index `k`, within the budget | an absence | `k + 1` | `k` |
| none within the budget | no absence | the budget | the budget |

Lookups are counted from zero, and the one with index `i` is made when `i` pauses have passed.
-/

namespace RemountCheck

/-! ### Pauses and counts of a trace -/

namespace Trace

/-- The pauses of a trace, in milliseconds and in order. -/
def pauses (t : Trace) : List UInt64 :=
  t.filterMap fun
    | .pause ms => some ms
    | _ => none

/-- The count of attempts that an event tells, if it tells one. -/
def attempts? (event : Log.Event) : Option Int :=
  (event.number? "attempt").or (event.number? "attempts")

/-- The counts of attempts that are told in a trace. -/
def attempts (t : Trace) : List Int := t.told.filterMap attempts?

section Entries

variable (c : Call) (reply : Reply c) (events : List Log.Event) (event : Log.Event) (ms : UInt64)
  (now : Nat) (t : Trace)

@[simp] theorem pauses_nil : pauses [] = [] := rfl

@[simp] theorem attempts_nil : attempts [] = [] := rfl

@[simp] theorem timedCallsFrom_nil : timedCallsFrom now [] = [] := rfl

@[simp] theorem pauses_call : pauses (.call c reply events :: t) = pauses t := rfl

@[simp] theorem pauses_log : pauses (.log event :: t) = pauses t := rfl

@[simp] theorem pauses_pause : pauses (.pause ms :: t) = ms :: pauses t := rfl

@[simp] theorem attempts_call : attempts (.call c reply events :: t) = attempts t := rfl

@[simp] theorem attempts_pause : attempts (.pause ms :: t) = attempts t := rfl

@[simp] theorem attempts_log :
    attempts (.log event :: t) = (attempts? event).toList ++ attempts t := by
  cases h : attempts? event <;> simp [attempts, told, h]

@[simp] theorem timedCallsFrom_call :
    timedCallsFrom now (.call c reply events :: t) = (now, c) :: timedCallsFrom now t := rfl

@[simp] theorem timedCallsFrom_log :
    timedCallsFrom now (.log event :: t) = timedCallsFrom now t := rfl

@[simp] theorem timedCallsFrom_pause :
    timedCallsFrom now (.pause ms :: t) = timedCallsFrom (now + ms.toNat) t := rfl

end Entries

end Trace

/-! ### Answers to lookups -/

/-- **The answers of a platform** to lookups of a name that are made one after another. -/
def Platform.Answers {σ : Type} (p : Platform σ) (name : String) (answers : Nat → Lookup Sandbox)
    (s : σ) : Prop :=
  ∀ i, (p.reply (.getSandbox name) (p.after (List.replicate i (.getSandbox name)) s)).1 =
    .ok (answers i)

section Answers

variable {σ : Type} {p : Platform σ} {name : String} {answers : Nat → Lookup Sandbox} {s : σ}

theorem Platform.Answers.head (h : p.Answers name answers s) :
    (p.reply (.getSandbox name) s).1 = .ok (answers 0) :=
  h 0

/-- After a lookup, the other answers are left. -/
theorem Platform.Answers.tail (h : p.Answers name answers s) :
    p.Answers name (fun i => answers (i + 1)) (p.next (.getSandbox name) s) := fun i => by
  have hi := h (i + 1)
  rwa [List.replicate_succ, Platform.after_cons] at hi

end Answers

/-- The platform that answers lookups from a sequence and crashes on everything else. Its state
is the number of lookups so far. -/
def Platform.ofLookups (answers : Nat → Lookup Sandbox) : Platform Nat where
  reply
    | .getSandbox _, i => (.ok (answers i), [], i + 1)
    | _, i => (.error ⟨none⟩, [], i)

theorem Platform.answers_ofLookups (answers : Nat → Lookup Sandbox) (name : String) :
    (Platform.ofLookups answers).Answers name answers 0 := by
  have hafter (n : Nat) : ∀ i, (Platform.ofLookups answers).after
      (List.replicate n (.getSandbox name)) i = i + n := by
    induction n with
    | zero => exact fun i => rfl
    | succ n ih =>
      intro i
      rw [List.replicate_succ, Platform.after_cons, ih]
      change i + 1 + n = i + (n + 1)
      omega
  intro i
  rw [hafter]
  change Except.ok (answers (0 + i)) = _
  rw [Nat.zero_add]

/-! ### Routines entry by entry -/

namespace Routine

variable {σ α β : Type} {p : Platform σ} {s : σ}

theorem runOn_pure (a : α) : (pure a : Routine α).runOn p s = ⟨.ok a, [], s⟩ := rfl

/-- A call that is answered is the first entry of a run, which goes on with the answer. -/
theorem runOn_ask_bind {c : Call} {answer : c.Answer} (h : (p.reply c s).1 = .ok answer)
    (f : c.Answer → Routine α) :
    (ask c >>= f).runOn p s =
      ((f answer).runOn p (p.next c s)).after (.call c (.ok answer) (p.reply c s).2.1) := by
  change ((ExceptT.bindCont f (p.reply c s).1).run p (p.next c s)).after
    (.call c (p.reply c s).1 (p.reply c s).2.1) = _
  rw [h]
  rfl

theorem runOn_tell_bind (event : Log.Event) (f : Unit → Routine α) :
    (tell event >>= f).runOn p s = ((f ()).runOn p s).after (.log event) := rfl

theorem runOn_pause_bind (ms : UInt64) (f : Unit → Routine α) :
    (pause ms >>= f).runOn p s = ((f ()).runOn p s).after (.pause ms) := rfl

end Routine

namespace Policy

/-! ### Runs on schedule -/

section Schedule

variable {σ : Type} {p : Platform σ} {s : σ} {policy : Policy} {name : String} {made : Nat}
  {r : Run σ (Except Crash Bool)} {gone : Bool} {lookups pauses : Nat}

/-- **A run is on schedule**: from whatever time it is started, it makes its lookups, and no other
call, with one pause between each and the next; and the attempts that it counts are those made
before it and one for each pause. -/
structure OnSchedule (policy : Policy) (name : String) (made : Nat)
    (r : Run σ (Except Crash Bool)) (gone : Bool) (lookups pauses : Nat) : Prop where
  value_eq : r.value = .ok gone
  calls_eq : ∀ now, r.trace.timedCallsFrom now =
    (List.range lookups).map fun i => (now + i * policy.pauseMs.toNat, .getSandbox name)
  pauses_eq : r.trace.pauses = List.replicate pauses policy.pauseMs
  attempts_le : ∀ n ∈ r.trace.attempts, n ≤ made + pauses

/-- Where the budget is used up, nothing is looked up any more. -/
theorem onSchedule_probe_zero (policy : Policy) (name : String) (made : Nat) :
    policy.OnSchedule name made ((policy.probe name made 0).runOn p s) false 0 0 where
  value_eq := rfl
  calls_eq now := rfl
  pauses_eq := rfl
  attempts_le n hn := by
    rw [probe, Routine.runOn_tell_bind, Routine.runOn_pure] at hn
    have hn : n = made := by
      simpa [Run.after, Trace.attempts?, Log.Event.warn, Log.Event.number?] using hn
    omega

/-- **A lookup that confirms the absence** is the last, and no pause follows it. -/
theorem onSchedule_probe_last {found : Lookup Sandbox} {left : Nat}
    (h : (p.reply (.getSandbox name) s).1 = .ok found) (hfound : policy.confirms found = true) :
    policy.OnSchedule name made ((policy.probe name made (left + 1)).runOn p s) true 1 0 := by
  rw [probe, Routine.runOn_ask_bind h]
  cases found with
  | found value => simp [confirms] at hfound
  | notFound =>
    simp only [Routine.runOn_tell_bind, Routine.runOn_pure]
    refine ⟨rfl, fun now => by simp [Run.after], rfl, fun n hn => ?_⟩
    have hn : n = made := by
      simpa [Run.after, Trace.attempts?, Log.Event.info, Log.Event.number?] using hn
    omega
  | transient error =>
    have honFailure : policy.onFailure = .treatAsAbsent := by simpa [confirms] using hfound
    simp only [honFailure, Routine.runOn_tell_bind, Routine.runOn_pure]
    refine ⟨rfl, fun now => by simp [Run.after], rfl, fun n hn => ?_⟩
    simp [Run.after, Trace.attempts?, Log.Event.warn, Log.Event.number?] at hn

/-- A lookup that leaves the matter open is followed by an event that counts it, a pause and the
lookups that are left. -/
theorem exists_runOn_probe {found : Lookup Sandbox} (made left : Nat)
    (h : (p.reply (.getSandbox name) s).1 = .ok found) (hopen : policy.confirms found = false) :
    ∃ event, Trace.attempts? event = some (made + 1 : Nat) ∧
      (policy.probe name made (left + 1)).runOn p s =
        ((((policy.probe name (made + 1) left).runOn p (p.next (.getSandbox name) s)).after
          (.pause policy.pauseMs)).after (.log event)).after
            (.call (.getSandbox name) (.ok found) (p.reply (.getSandbox name) s).2.1) := by
  rw [probe, Routine.runOn_ask_bind h]
  cases found with
  | notFound => simp [confirms] at hopen
  | found value =>
    rw [Routine.runOn_tell_bind, Routine.runOn_pause_bind]
    refine ⟨_, ?_, rfl⟩
    simp [Trace.attempts?, Log.Event.info, Log.Event.number?, attemptFields]
  | transient error =>
    have honFailure : policy.onFailure = .countAsAttempt := by
      cases honFailure : policy.onFailure with
      | countAsAttempt => rfl
      | treatAsAbsent => simp [confirms, honFailure] at hopen
    simp only [honFailure, Routine.runOn_tell_bind, Routine.runOn_pause_bind]
    refine ⟨_, ?_, rfl⟩
    simp [Trace.attempts?, Log.Event.warn, Log.Event.number?, attemptFields]

/-- **One more lookup that leaves the matter open**, before a run that is on schedule. -/
theorem OnSchedule.cons {found : Lookup Sandbox} {left : Nat}
    (h : (p.reply (.getSandbox name) s).1 = .ok found) (hopen : policy.confirms found = false)
    (rest : policy.OnSchedule name (made + 1)
      ((policy.probe name (made + 1) left).runOn p (p.next (.getSandbox name) s))
      gone lookups pauses) :
    policy.OnSchedule name made ((policy.probe name made (left + 1)).runOn p s) gone
      (lookups + 1) (pauses + 1) := by
  obtain ⟨event, hevent, hrun⟩ := exists_runOn_probe made left h hopen
  rw [hrun]
  refine ⟨rest.value_eq, fun now => ?_, ?_, fun n hn => ?_⟩
  · -- the lookups that are left are made one pause later
    have hlater (i : Nat) : now + policy.pauseMs.toNat + i * policy.pauseMs.toNat =
        now + (i + 1) * policy.pauseMs.toNat := by
      rw [Nat.add_one_mul]
      omega
    simp [Run.after, rest.calls_eq, List.range_succ_eq_map, hlater]
  · simp [Run.after, rest.pauses_eq, List.replicate_succ]
  · have hn : n = (made + 1 : Nat) ∨ n ∈ Trace.attempts
        ((policy.probe name (made + 1) left).runOn p (p.next (.getSandbox name) s)).trace := by
      simpa [Run.after, hevent] using hn
    rcases hn with rfl | hn
    · omega
    · have hle := rest.attempts_le n hn
      omega

variable {answers : Nat → Lookup Sandbox}

/-- Where a lookup within the budget confirms the absence and none before it does, the wait ends
with that lookup. -/
theorem onSchedule_probe_of_confirms {k left : Nat} (hanswers : p.Answers name answers s)
    (hk : k < left) (hconfirms : policy.confirms (answers k) = true)
    (hopen : ∀ i < k, policy.confirms (answers i) = false) :
    policy.OnSchedule name made ((policy.probe name made left).runOn p s) true (k + 1) k := by
  obtain ⟨left, rfl⟩ := Nat.exists_eq_succ_of_ne_zero (Nat.ne_zero_of_lt hk)
  induction k generalizing made s answers left with
  | zero => exact onSchedule_probe_last hanswers.head hconfirms
  | succ k ih =>
    obtain ⟨left, rfl⟩ := Nat.exists_eq_succ_of_ne_zero (show left ≠ 0 by omega)
    have hlater : ∀ i < k, policy.confirms (answers (i + 1)) = false := fun i hi =>
      hopen (i + 1) (by omega)
    exact .cons hanswers.head (hopen 0 (Nat.succ_pos k))
      (ih hanswers.tail hconfirms hlater left (by omega))

/-- Where no lookup within the budget confirms the absence, all of them are made. -/
theorem onSchedule_probe_of_open {left : Nat} (hanswers : p.Answers name answers s)
    (hopen : ∀ i < left, policy.confirms (answers i) = false) :
    policy.OnSchedule name made ((policy.probe name made left).runOn p s) false left left := by
  induction left generalizing made s answers with
  | zero => exact onSchedule_probe_zero policy name made
  | succ left ih =>
    have hlater : ∀ i < left, policy.confirms (answers (i + 1)) = false := fun i hi =>
      hopen (i + 1) (by omega)
    exact .cons hanswers.head (hopen 0 (Nat.succ_pos left)) (ih hanswers.tail hlater)

/-- A wait is announced before its first lookup, and counts from none. -/
theorem OnSchedule.await
    (h : policy.OnSchedule name 0 ((policy.probe name 0 policy.maxAttempts.toNat).runOn p s)
      gone lookups pauses) :
    policy.OnSchedule name 0 ((policy.await name).runOn p s) gone lookups pauses := by
  rw [Policy.await, Routine.runOn_tell_bind]
  refine ⟨h.value_eq, h.calls_eq, h.pauses_eq, fun n hn => h.attempts_le n ?_⟩
  simpa [Run.after, Trace.attempts?, Log.Event.info, Log.Event.number?] using hn

end Schedule

/-! ### Attempts counted in a word -/

/-- The count of attempts that are fewer than a word allows does not wrap around. -/
theorem toNat_add_one_of_lt {made budget : UInt32} (h : made < budget) :
    (made + 1).toNat = made.toNat + 1 := by
  have hlt : made.toNat < budget.toNat := UInt32.lt_iff_toNat_lt.mp h
  have hbudget := budget.toNat_lt
  rw [UInt32.toNat_add, UInt32.toNat_one]
  omega

/-- **The lookups of a wait with the attempts counted in a word**, which is compared with the
budget before each lookup and increased after each that leaves the matter open. -/
def probeWord (policy : Policy) (name : String) (made : UInt32) : Routine Bool :=
  if made < policy.maxAttempts then do
    match ← Routine.ask (.getSandbox name) with
    | .notFound =>
      Routine.tell (.info "fully deleted"
        [("resource", .text name), ("attempts", .number made.toNat)])
      return true
    | .transient error =>
      match policy.onFailure with
      | .treatAsAbsent =>
        Routine.tell (.warn "lookup failed, treating resource as deleted"
          [("resource", .text name), ("error", .text error)])
        return true
      | .countAsAttempt =>
        Routine.tell (.warn "lookup failed, probing again"
          ([("resource", .text name), ("error", .text error)] ++
            policy.attemptFields (made + 1).toNat))
        Routine.pause policy.pauseMs
        probeWord policy name (made + 1)
    | .found _ =>
      Routine.tell (.info "still exists, waiting"
        (("resource", .text name) :: policy.attemptFields (made + 1).toNat))
      Routine.pause policy.pauseMs
      probeWord policy name (made + 1)
  else do
    Routine.tell (.warn "timeout waiting for deletion to complete"
      [("resource", .text name), ("attempts", .number made.toNat)])
    return false
termination_by policy.maxAttempts.toNat - made.toNat
decreasing_by
  all_goals
    have hlt := UInt32.lt_iff_toNat_lt.mp ‹made < policy.maxAttempts›
    rw [toNat_add_one_of_lt ‹made < policy.maxAttempts›]
    omega

/-- **The count never wraps around**: in a word it is what it is without bounds. -/
theorem probeWord_eq (policy : Policy) (name : String) (made : UInt32) :
    policy.probeWord name made =
      policy.probe name made.toNat (policy.maxAttempts.toNat - made.toNat) := by
  fun_induction probeWord policy name made with
  | case1 made h ih =>
    have hlt := UInt32.lt_iff_toNat_lt.mp h
    obtain ⟨left, hleft⟩ : ∃ left, policy.maxAttempts.toNat - made.toNat = left + 1 :=
      ⟨policy.maxAttempts.toNat - made.toNat - 1, by omega⟩
    rw [toNat_add_one_of_lt h] at ih
    rw [hleft, probe]
    have hrest : policy.maxAttempts.toNat - (made.toNat + 1) = left := by omega
    rw [hrest] at ih
    refine bind_congr fun found => ?_
    cases found with
    | notFound => rfl
    | found value => simp only [toNat_add_one_of_lt h, ih]
    | transient error =>
      cases policy.onFailure with
      | treatAsAbsent => rfl
      | countAsAttempt => simp only [toNat_add_one_of_lt h, ih]
  | case2 made h =>
    have hnot : ¬made.toNat < policy.maxAttempts.toNat := fun hlt =>
      h (UInt32.lt_iff_toNat_lt.mpr hlt)
    rw [Nat.sub_eq_zero_of_le (Nat.le_of_not_lt hnot), probe]

/-- **Waiting with the attempts counted in a word.** -/
def awaitWord (policy : Policy) (name : String) : Routine Bool := do
  Routine.tell (.info "waiting for deletion to fully complete" [("resource", .text name)])
  policy.probeWord name 0

theorem awaitWord_eq (policy : Policy) (name : String) :
    policy.awaitWord name = policy.await name := by
  rw [awaitWord, probeWord_eq, await]
  rfl

/-! ### The law of the wait -/

/-- **A wait is settled by the first lookup that confirms the absence.** If there is one within
the budget, the wait ends with an absence, after the lookups up to that one and a pause for each
of the others; if there is none, it ends without, after as many lookups and as many pauses as the
budget allows. Lookup `i` is made when `i` pauses have passed, no other call is made, and the
attempts are never more than the budget, so that it is all the same whether they are counted in a
word. -/
theorem await_on_schedule {σ : Type} (policy : Policy) (name : String) (p : Platform σ) (s : σ)
    (answers : Nat → Lookup Sandbox) (h : p.Answers name answers s) :
    let r := (policy.await name).runOn p s
    let budget := policy.maxAttempts.toNat
    (∀ k < budget, policy.confirms (answers k) = true →
      (∀ i < k, policy.confirms (answers i) = false) →
        policy.OnSchedule name 0 r true (k + 1) k) ∧
      ((∀ i < budget, policy.confirms (answers i) = false) →
        policy.OnSchedule name 0 r false budget budget) ∧
      policy.awaitWord name = policy.await name := by
  intro r budget
  refine ⟨fun k hk hconfirms hopen => ?_, fun hopen => ?_, policy.awaitWord_eq name⟩
  · exact (onSchedule_probe_of_confirms h hk hconfirms hopen).await
  · exact (onSchedule_probe_of_open h hopen).await

/-- The largest budget is used up to its last lookup, which confirms the absence after all others
failed. -/
theorem await_on_schedule_up_to_last_lookup :
    let policy : Policy := { maxAttempts := 4294967295, onFailure := .countAsAttempt }
    let answers (i : Nat) : Lookup Sandbox := if i < 4294967294 then .transient "503" else .notFound
    let p := Platform.ofLookups answers
    p.Answers "sandbox" answers 0 ∧ policy.confirms (answers 4294967294) = true ∧
      (∀ i < 4294967294, policy.confirms (answers i) = false) ∧
      policy.OnSchedule "sandbox" 0 ((policy.await "sandbox").runOn p 0) true 4294967295
        4294967294 := by
  intro policy answers p
  have hanswers : p.Answers "sandbox" answers 0 := Platform.answers_ofLookups answers "sandbox"
  have hconfirms : policy.confirms (answers 4294967294) = true := rfl
  have hopen : ∀ i < 4294967294, policy.confirms (answers i) = false := by
    intro i hi
    simp [answers, hi, confirms, policy]
  have hlaw := await_on_schedule policy "sandbox" p 0 answers hanswers
  exact ⟨hanswers, hconfirms, hopen, hlaw.1 4294967294 (by decide) hconfirms hopen⟩

end Policy

end RemountCheck
