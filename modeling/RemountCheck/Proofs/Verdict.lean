import RemountCheck.Proofs.Cleanup
import RemountCheck.Proofs.Pace

/-!
# What a verdict rests on

A check sees a good deal of its platform: the resources that were created, where they were put,
what a dozen commands printed and how they exited. This module says which of it counts. Whether
a check is stopped is a matter of the calls that fail or crash and of the wait; and if it is
not, then the last reading alone decides.

* `RemountCheck.Plan.Unstopped` – nothing stopped a check: every call succeeded and a lookup of
  the wait confirmed the absence of the first sandbox;
* `RemountCheck.Plan.readBack?` – what the last command printed, the reading in the second
  sandbox;
* `RemountCheck.ReadsAs` – how a file reads that holds a text: with one newline after it, or
  without, if the text does not end in one;
* `RemountCheck.Plan.Agree` – two runs of which no more is the same than that;
* `RemountCheck.Plan.verdict_rests_on_last_reading` – it determines the verdict.
-/

namespace RemountCheck

/-! ### Readings -/

/-- **A file reads as a text** if it is the text and one newline, or the text itself where that
does not end in a newline. -/
def ReadsAs (raw text : String) : Prop :=
  raw = text ++ "\n" ∨ raw = text ∧ text.toList.getLast? ≠ some '\n'

/-- A text that does not end in a newline loses nothing. -/
theorem dropNewline_eq_self {s : List Char} (h : s.getLast? ≠ some '\n') : dropNewline s = s := by
  induction s with
  | nil => rfl
  | cons c s ih =>
    cases s with
    | nil =>
      have hc : c ≠ '\n' := by simpa using h
      simp [dropNewline, hc]
    | cons d s =>
      rw [List.getLast?_cons_cons] at h
      simpa [dropNewline] using ih h

/-- **A file reads as one text and no other**, the one that it was written with. -/
theorem readsAs_iff {raw text : String} : ReadsAs raw text ↔ writtenContent raw = text := by
  constructor
  · rintro (rfl | ⟨rfl, hlast⟩)
    · simp [writtenContent, dropNewline_append_newline]
    · simp [writtenContent, dropNewline_eq_self hlast]
  · rintro rfl
    by_cases hlast : raw.toList.getLast? = some '\n'
    · obtain ⟨s, hs⟩ := List.getLast?_eq_some_iff.mp hlast
      refine .inl (String.toList_inj.mp ?_)
      rw [writtenContent, hs, dropNewline_append_newline, String.toList_append]
      simp
    · have hself : writtenContent raw = raw := by
        rw [writtenContent, dropNewline_eq_self hlast, String.ofList_toList]
      exact .inr ⟨hself.symm, by rwa [hself]⟩

/-! ### The last reading -/

/-- What a command prints is in its exchange. -/
theorem leads_runCommand {σ : Type} {p : Platform σ} {s : σ} (sandbox : String)
    (command : Command) :
    Leads p (runCommand sandbox command) s fun xs v _ =>
      ∀ output, v = .ok output → xs = [⟨.exec sandbox command.text, .ok (.ok output)⟩] := by
  refine leads_bind.mpr (leads_bind.mpr (Work.leads_ask.mpr ?_))
  generalize (p.reply (.exec sandbox command.text) s).1 = reply
  rcases reply with crash | failure | output
  · simp
  · simp
  · refine leads_pure.mpr ?_
    dsimp only
    split
    · split <;> simp [Except.map]
    · simp

/-- **A script ends with a reading** of a file: where it comes to a text, its last exchange is
that reading, and the text is what the file was written with. -/
def EndsWithReading {ε : Type} (sandbox path : String) (x : ExceptT ε Script String) : Prop :=
  ∀ (σ : Type) (p : Platform σ) (s : σ), Leads p x s fun xs v _ =>
    ∀ content, v = .ok content → ∃ ys output,
      xs = ys ++ [⟨.exec sandbox (Command.read path).text, .ok (.ok output)⟩] ∧
        content = writtenContent output.raw

namespace EndsWithReading

variable {α ε : Type} {sandbox path : String}

/-- What comes before a reading does not matter. -/
theorem bind {x : ExceptT ε Script α} {f : α → ExceptT ε Script String}
    (h : ∀ a, EndsWithReading sandbox path (f a)) : EndsWithReading sandbox path (x >>= f) := by
  intro σ p s
  have htrivial : Leads p x s fun _ _ _ => True := trivial
  refine leads_bind.mpr (htrivial.mono fun xs v s' _ => ?_)
  cases v with
  | error e => simp
  | ok a =>
    refine (h a σ p s').mono fun ys w _ hw content hcontent => ?_
    obtain ⟨zs, output, rfl, rfl⟩ := hw content hcontent
    exact ⟨xs ++ zs, output, by simp, rfl⟩

theorem tell_bind {event : Log.Event} {f : Unit → Work String}
    (h : EndsWithReading sandbox path (f ())) :
    EndsWithReading sandbox path (Work.tell event >>= f) :=
  bind fun _ => h

/-- What is only told after a reading does not matter either. -/
theorem bind_tell {x : Work String} {event : String → Log.Event}
    (h : EndsWithReading sandbox path x) :
    EndsWithReading sandbox path (do let content ← x; Work.tell (event content); return content) :=
  fun σ p s => by
    refine leads_bind.mpr ((h σ p s).mono fun xs v s' hv => ?_)
    cases v with
    | error e => simp
    | ok content => simpa [Except.map] using hv

theorem ite {P : Prop} [Decidable P] {x y : ExceptT ε Script String}
    (hx : EndsWithReading sandbox path x) (hy : EndsWithReading sandbox path y) :
    EndsWithReading sandbox path (if P then x else y) := by
  split
  · exact hx
  · exact hy

theorem step {stage : Stage} {announcement : String} {fields : List (String × Log.Value)}
    {work : Work String} (h : EndsWithReading sandbox path work) :
    EndsWithReading sandbox path (step stage announcement fields work) := by
  intro σ p s
  refine leads_step.mpr ((h σ p s).mono fun xs v _ hv content hcontent => ?_)
  cases v with
  | error cause => simp at hcontent
  | ok read => exact hv content (by simpa using hcontent)

end EndsWithReading

/-- A file is read in a sandbox. -/
theorem endsWithReading_read (sandbox path : String) :
    EndsWithReading sandbox path
      (do return writtenContent (← runCommand sandbox (.read path)).raw : Work String) := by
  intro σ p s
  refine leads_bind.mpr ((leads_runCommand _ _).mono fun xs v s' hv => ?_)
  cases v with
  | error e => simp
  | ok output =>
    refine leads_pure.mpr fun content hcontent => ⟨[], output, ?_, ?_⟩
    · simpa using hv output rfl
    · exact (Except.ok.inj hcontent).symm

namespace Plan

variable (plan : Plan)

/-- An inspection ends with the reading of the file. -/
theorem endsWithReading_inspect (sandbox mount : String) (identity : Bool) :
    EndsWithReading sandbox (filePath mount plan.fileName)
      (plan.inspect sandbox mount identity) := by
  refine .bind fun mounts => .ite (.tell_bind ?rest) (.tell_bind ?rest)
  refine .bind fun listing => .tell_bind (.bind fun existence => .tell_bind (.bind fun details =>
    .tell_bind ?_))
  cases identity with
  | false => exact endsWithReading_read _ _
  | true => exact .bind fun user => .tell_bind (endsWithReading_read _ _)

/-- The steps of a check end with the reading in the second sandbox. -/
theorem endsWithReading_steps :
    EndsWithReading plan.names.secondSandbox (filePath plan.secondMount plan.fileName)
      plan.steps := by
  unfold steps readSecond
  refine .bind fun _ => .bind fun _ => .bind fun _ => .bind fun _ => .bind fun _ =>
    .bind fun _ => .bind fun _ => .step (.bind_tell (plan.endsWithReading_inspect _ _ _))

/-! ### What stops a check -/

/-- The lookups of the wait: those that come right after the outward course. -/
def waitLookups (xs : List Exchange) : List Exchange :=
  (xs.drop plan.outward.length).takeWhile fun x => x.call = .getSandbox plan.names.firstSandbox

/-- **Nothing stopped a check**: every call succeeded, and a lookup of the wait confirmed that
the first sandbox is gone. -/
def Unstopped (xs : List Exchange) : Prop :=
  (∀ x ∈ xs, x.succeeded = true) ∧ ∃ x ∈ plan.waitLookups xs, plan.policy.confirmedBy x = true

/-- **What the last command printed**, if that was the reading in the second sandbox. -/
def readBack? (xs : List Exchange) : Option String :=
  match xs.getLast? with
  | some ⟨.exec sandbox command, .ok (.ok output)⟩ =>
    if sandbox = plan.names.secondSandbox ∧
        command = (Command.read (filePath plan.secondMount plan.fileName)).text then
      some output.raw
    else none
  | _ => none

variable {plan} {xs ws ys : List Exchange}

/-- The lookups of the wait are followed by the request for the second sandbox, or by nothing. -/
theorem waitLookups_eq {budget : Nat} {v : Except Crash Bool} (made : plan.outward.Completed xs)
    (wait : plan.policy.Waits plan.names.firstSandbox budget ws v)
    (hys : ys.map (·.call) <+: plan.homeward.calls) : plan.waitLookups (xs ++ ws ++ ys) = ws := by
  have hlen : xs.length = plan.outward.length := by
    simpa [Course.calls] using congrArg List.length made.1
  have hws (w : Exchange) (hw : w ∈ ws) : w.call = .getSandbox plan.names.firstSandbox :=
    List.eq_of_mem_replicate (wait.calls_eq.2 ▸ List.mem_map_of_mem hw)
  have hrest : ys.takeWhile (fun x => x.call = .getSandbox plan.names.firstSandbox) = [] := by
    cases ys with
    | nil => rfl
    | cons y ys =>
      obtain ⟨rest, hrest⟩ := hys
      have hy : y.call = .createSandbox plan.secondRequest := (List.cons.inj hrest).1
      simp [hy]
  rw [waitLookups, ← hlen, List.append_assoc, List.drop_left, List.takeWhile_append_of_pos, hrest,
    List.append_nil]
  simpa using hws

/-- A check that stopped at a call did so because the call did not succeed. -/
theorem not_unstopped_of_mem {x : Exchange} (hx : x ∈ xs) (hno : x.succeeded = false) :
    ¬plan.Unstopped xs := by
  intro h
  have hyes := h.1 x hx
  rw [hno] at hyes
  exact Bool.false_ne_true hyes

/-- **A trail is that of an unstopped check exactly if it gets to the end.** -/
theorem Trail.unstopped_iff {lookups : Nat} {stage : Stage} (h : plan.Trail lookups xs stage) :
    plan.Unstopped xs ↔ stage = .compared := by
  have hprevious (stage : Stage) : stage.previous ≠ .compared := by cases stage <;> decide
  have hfirst : Stage.firstSandboxDeleted ≠ .compared := by decide
  cases h with
  | cutOutward cut =>
    obtain ⟨_, _, ys, x, -, rfl, -, hx⟩ := cut
    exact iff_of_false (not_unstopped_of_mem (by simp) hx) (hprevious _)
  | waitCrashed made wait =>
    obtain ⟨vs, rfl, -⟩ := wait
    exact iff_of_false (not_unstopped_of_mem
      (List.mem_append_right _ (List.mem_append_right vs (List.mem_singleton_self _))) rfl) hfirst
  | @timedOut ys ws made wait =>
    have hlookups : plan.waitLookups (ys ++ ws ++ []) = ws :=
      waitLookups_eq made wait List.nil_prefix
    rw [List.append_nil] at hlookups
    refine iff_of_false (fun hunstopped => ?_) hfirst
    obtain ⟨x, hx, hsettled⟩ := hunstopped.2
    rw [hlookups] at hx
    simp [(wait.2 x hx).confirmedBy_eq] at hsettled
  | cutHomeward made wait cut =>
    obtain ⟨_, _, ys, x, -, rfl, -, hx⟩ := cut
    exact iff_of_false (not_unstopped_of_mem (by simp) hx) (hprevious _)
  | @completed out ws ys made wait rest =>
    have hlookups : plan.waitLookups (out ++ ws ++ ys) = ws :=
      waitLookups_eq made wait (rest.1 ▸ List.prefix_refl _)
    refine iff_of_true ⟨?_, ?_⟩ rfl
    · intro x hx
      rw [List.append_assoc, List.mem_append, List.mem_append] at hx
      rcases hx with hx | hx | hx
      · exact made.2 x hx
      · exact wait.succeeded x hx
      · exact rest.2 x hx
    · rw [hlookups]
      obtain ⟨vs, found, rfl, hfound, -⟩ := wait
      exact ⟨_, List.mem_append_right vs (List.mem_singleton_self _), hfound⟩

/-- A verdict is reached at the comparison exactly if there is something to compare. -/
theorem reached_verdict (v : Except Stop String) :
    (plan.verdict v).reached = .compared ↔ ∃ read, v = .ok read := by
  cases v with
  | ok read => simp [verdict]
  | error stop =>
    refine iff_of_false ?_ (by simp)
    obtain ⟨entering, cause⟩ := stop
    cases entering <;> simp [verdict, Stop.reached, Stage.previous]

/-- **The steps of a check come to a text** exactly if nothing stopped them, and then the text
is what the file was written with that reads as the last command printed. -/
theorem leads_steps_reading {σ : Type} {p : Platform σ} {s : σ} :
    Leads p plan.steps s fun xs v _ =>
      (plan.Unstopped xs ↔ ∃ read, v = .ok read) ∧
        ∀ read, v = .ok read → ∃ raw, plan.readBack? xs = some raw ∧ read = writtenContent raw := by
  obtain ⟨lookups, htrail⟩ := plan.leads_steps (p := p) (s := s)
  refine ⟨htrail.unstopped_iff.trans (reached_verdict _), fun read hread => ?_⟩
  obtain ⟨ys, output, hxs, rfl⟩ := plan.endsWithReading_steps σ p s read hread
  exact ⟨output.raw, by simp [readBack?, hxs], rfl⟩

/-! ### What two runs have in common -/

variable (plan) in
/-- **Two runs agree** on their troubles, on what their waits found and, if both get there, on
what the last command printed. -/
structure Agree (xs ys : List Exchange) : Prop where
  troubles : Alike xs ys
  settled : plan.policy.SettleAlike (plan.waitLookups xs) (plan.waitLookups ys)
  reading : ∀ raw raw', plan.readBack? xs = some raw → plan.readBack? ys = some raw' → raw = raw'

/-- **Two waits end alike** if their lookups settle them alike, and what comes after them is then
alike as well. -/
theorem eq_of_waits {zs xs' ws' zs' : List Exchange} {budget : Nat} {v w : Except Crash Bool}
    (made : plan.outward.Completed xs) (made' : plan.outward.Completed xs')
    (wait : plan.policy.Waits plan.names.firstSandbox budget ws v)
    (wait' : plan.policy.Waits plan.names.firstSandbox budget ws' w)
    (hzs : zs.map (·.call) <+: plan.homeward.calls)
    (hzs' : zs'.map (·.call) <+: plan.homeward.calls)
    (halike : Alike (xs ++ (ws ++ zs)) (xs' ++ (ws' ++ zs')))
    (hsettle : plan.policy.SettleAlike (plan.waitLookups (xs ++ (ws ++ zs)))
      (plan.waitLookups (xs' ++ (ws' ++ zs')))) : v = w ∧ Alike zs zs' := by
  have hlen : xs.length = xs'.length := by
    simpa using congrArg List.length (made.1.trans made'.1.symm)
  have hrest := halike.right hlen
  rw [← List.append_assoc, ← List.append_assoc, waitLookups_eq made wait hzs,
    waitLookups_eq made' wait' hzs'] at hsettle
  obtain ⟨hlen, hend⟩ := wait.eq_of_alike wait' hrest.left hsettle
  exact ⟨hend, hrest.right hlen⟩

/-- **The steps of a check keep pace**, also in the wait, if the lookups settle it alike. -/
theorem keepPace_steps (plan : Plan) {σ σ' : Type} (p : Platform σ) (p' : Platform σ') (s : σ)
    (s' : σ') :
    Leads p plan.steps s fun xs v _ => Leads p' plan.steps s' fun ys w _ =>
      Alike xs ys → plan.policy.SettleAlike (plan.waitLookups xs) (plan.waitLookups ys) →
        EndAlike v w := by
  rw [steps_eq]
  refine leads_both_bind (((plan.follows_outward σ p s).and
    (plan.keepPace_outward σ σ' p p' s s')).mono fun xs v t hv =>
      ((plan.follows_outward σ' p' s').and hv.2).mono fun ys w t' hw => ?_)
  obtain ⟨hxs, -⟩ := hv
  obtain ⟨hys, hxy⟩ := hw
  cases v with
  | error stop =>
    cases w with
    | error stop' => exact fun halike _ => (hxy halike).2
    | ok _ => exact fun halike _ => (hxy halike.left_of_append).2.elim
  | ok _ =>
    cases w with
    | error stop' => exact fun halike _ => (hxy halike.append_left).2.elim
    | ok _ =>
      -- both have come to the wait
      refine leads_both_bind (plan.leads_awaitFirstGone.mono fun ws v t₁ hv =>
        plan.leads_awaitFirstGone.mono fun ws' w t₁' hw => ?_)
      obtain ⟨end₁, hws, rfl⟩ := hv
      obtain ⟨end₂, hws', rfl⟩ := hw
      have hnil : ([] : List Exchange).map (·.call) <+: plan.homeward.calls := List.nil_prefix
      have hhomeward := (plan.follows_homeward.calls_isPrefix p t₁).and
        (plan.keepPace_homeward σ σ' p p' t₁ t₁')
      have hhomeward' := plan.follows_homeward.calls_isPrefix p' t₁'
      cases hv : plan.afterWait end₁ with
      | error stop =>
        cases hw : plan.afterWait end₂ with
        | error stop' =>
          intro halike hsettle
          rw [← List.append_nil ws, ← List.append_nil ws'] at halike hsettle
          obtain ⟨rfl, -⟩ := eq_of_waits hxs hys hws hws' hnil hnil halike hsettle
          exact Except.error.inj (hv.symm.trans hw)
        | ok _ =>
          refine hhomeward'.mono fun zs' _ _ hzs' halike hsettle => ?_
          rw [← List.append_nil ws] at halike hsettle
          obtain ⟨rfl, -⟩ := eq_of_waits hxs hys hws hws' hnil hzs' halike hsettle
          exact nomatch hv.symm.trans hw
      | ok _ =>
        cases hw : plan.afterWait end₂ with
        | error stop =>
          refine hhomeward.mono fun zs _ _ hzs halike hsettle => ?_
          rw [← List.append_nil ws'] at halike hsettle
          obtain ⟨rfl, -⟩ := eq_of_waits hxs hys hws hws' hzs.1 hnil halike hsettle
          exact nomatch hv.symm.trans hw
        | ok _ =>
          refine hhomeward.mono fun zs v _ hzs => ?_
          refine (hhomeward'.and hzs.2).mono fun zs' w _ hzs' halike hsettle => ?_
          obtain ⟨-, hrest⟩ := eq_of_waits hxs hys hws hws' hzs.1 hzs'.1 halike hsettle
          exact (hzs'.2 hrest).2

/-- **Runs that agree come to one verdict.** -/
theorem value_judge_of_agree (plan : Plan) {σ σ' : Type} (p : Platform σ) (p' : Platform σ') (s : σ)
    (s' : σ') (h : plan.Agree (plan.judge.run p s).trace.exchanges
      (plan.judge.run p' s').trace.exchanges) :
    (plan.judge.run p' s').value = (plan.judge.run p s).value := by
  obtain ⟨hxs, hvalue, -⟩ := plan.run_judge p s
  obtain ⟨hys, hvalue', -⟩ := plan.run_judge p' s'
  obtain ⟨-, hreading⟩ := plan.leads_steps_reading (p := p) (s := s)
  obtain ⟨-, hreading'⟩ := plan.leads_steps_reading (p := p') (s := s')
  have hend := plan.keepPace_steps p p' s s'
  rw [hxs, hys] at h
  rw [hvalue, hvalue']
  have hend : EndAlike _ _ := hend h.troubles h.settled
  generalize (plan.steps.run.run p s).value = v at hend hreading ⊢
  generalize (plan.steps.run.run p' s').value = w at hend hreading' ⊢
  cases v with
  | error stop =>
    cases w with
    | error stop' => exact congrArg (fun stop => plan.verdict (.error stop)) hend.symm
    | ok read' => exact hend.elim
  | ok read =>
    cases w with
    | error stop' => exact hend.elim
    | ok read' =>
      obtain ⟨raw, hraw, rfl⟩ := hreading read rfl
      obtain ⟨raw', hraw', rfl⟩ := hreading' read' rfl
      rw [h.reading raw raw' hraw hraw']

theorem compare_eq_success (plan : Plan) {read : String} :
    plan.compare read = .success ↔ read = plan.content := by
  unfold compare
  split <;> simp [*]

theorem compare_eq_mismatch (plan : Plan) {read expected actual : String} :
    plan.compare read = .mismatch expected actual ↔
      read ≠ plan.content ∧ expected = plan.content ∧ actual = read := by
  unfold compare
  split <;> simp [*, eq_comm]

/-- A comparison always comes to a result. -/
theorem compare_ne_aborted (plan : Plan) (read : String) (stage : Stage) (error : String) :
    plan.compare read ≠ .aborted stage error := by
  unfold compare
  split <;> simp

/-- **The last reading decides.** On every platform, a check succeeds exactly if nothing stopped it
and the last command printed what a file reads as that holds the content of the plan; it
reports a mismatch exactly if that command printed something else, and then with the text that
it stands for; and it is aborted exactly if something stopped it. The report holds this verdict.
A second run, on any platform, comes to the same verdict if the two agree on their troubles, on
what their waits found and on the last reading, whatever else they see. -/
theorem verdict_rests_on_last_reading (plan : Plan) {σ : Type} (p : Platform σ) (s : σ) :
    let judged := plan.judge.run p s
    let xs := judged.trace.exchanges
    (judged.value.outcome = .success ↔
      plan.Unstopped xs ∧ ∃ raw, plan.readBack? xs = some raw ∧ ReadsAs raw plan.content) ∧
    (∀ expected actual, judged.value.outcome = .mismatch expected actual ↔
      plan.Unstopped xs ∧ expected = plan.content ∧
        ∃ raw, plan.readBack? xs = some raw ∧ ¬ReadsAs raw plan.content ∧ ReadsAs raw actual) ∧
    ((∃ stage error, judged.value.outcome = .aborted stage error) ↔ ¬plan.Unstopped xs) ∧
    (∀ report, (plan.check.runOn p s).value = .ok report → report.verdict = judged.value) ∧
    ∀ {σ' : Type} (p' : Platform σ') (s' : σ'),
      plan.Agree xs (plan.judge.run p' s').trace.exchanges →
        (plan.judge.run p' s').value = judged.value := by
  intro judged xs
  obtain ⟨hxs, hvalue, -⟩ := plan.run_judge p s
  obtain ⟨hunstopped, hreading⟩ := plan.leads_steps_reading (p := p) (s := s)
  have hsame (report : Report) (h : (plan.check.runOn p s).value = .ok report) :
      report.verdict = judged.value := plan.verdict_of_check h
  have hagree {σ' : Type} (p' : Platform σ') (s' : σ') :
      plan.Agree xs (plan.judge.run p' s').trace.exchanges →
        (plan.judge.run p' s').value = judged.value := plan.value_judge_of_agree p p' s s'
  change xs = _ at hxs
  change judged.value = _ at hvalue
  rw [← hxs] at hunstopped hreading
  rw [hvalue] at hsame hagree ⊢
  generalize (plan.steps.run.run p s).value = v at hunstopped hreading hsame hagree ⊢
  cases v with
  | error stop =>
    have hstopped : ¬plan.Unstopped xs := by simpa using hunstopped
    refine ⟨?_, ?_, ?_, hsame, hagree⟩ <;> simp [verdict, hstopped]
  | ok read =>
    have hnot : plan.Unstopped xs := hunstopped.mpr ⟨read, rfl⟩
    obtain ⟨raw, hraw, rfl⟩ := hreading read rfl
    refine ⟨?_, fun expected actual => ?_, ?_, hsame, hagree⟩
    · simp [verdict, plan.compare_eq_success, hnot, hraw, readsAs_iff]
    · simp [verdict, plan.compare_eq_mismatch, hnot, hraw, readsAs_iff, and_left_comm, eq_comm]
    · simp [verdict, plan.compare_ne_aborted, hnot]

end Plan

end RemountCheck
