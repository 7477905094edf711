import RemountCheck.Memory.Platform
import RemountCheck.Proofs.Cleanup
import RemountCheck.Proofs.Delivery

/-!
# What a check says of its progress

Each step of a check is announced with its number. The announcement comes before the work of the
step and the stage is entered after it, in different places of the script: nothing but the order
of the steps keeps the numbers and the stages together. This module proves that they are together
at every place at which a check can stop.

* `RemountCheck.Log.announced` – the steps that some events announce, which are all their values
  under the name `step`;
* `RemountCheck.Log.stepsBetween` – the numbers after one step up to another, each once and in
  order. What goes on where another left off makes one sequence with it
  (`RemountCheck.Log.stepsBetween_append`);
* `RemountCheck.Script.Silent` – a script that announces no step, whatever it is replied;
* `RemountCheck.Counts` – a script that announces the steps from one number on, up to one that is
  read off what it ends with;
* `RemountCheck.Plan.narration_matches_progress` – the law of the narration.

| a check that | announces | reached |
|---|---|---|
| stops in the step into a stage | `1`, …, the number of that step | the stage before |
| makes the comparison | `1`, …, `9` | the last stage |

The work of a step is silent, and so is all that follows the verdict: the teardown tells much, but
announces nothing. So the sequence is complete when the verdict is there, also where the teardown
crashes and no report is left.
-/

namespace RemountCheck

/-! ### Steps that are announced -/

namespace Log

/-- The values of some fields under the name `step`, whatever they are. -/
def stepValues : List (String × Value) → List Value
  | [] => []
  | (name, value) :: fields =>
    if name = "step" then value :: stepValues fields else stepValues fields

@[simp] theorem stepValues_nil : stepValues [] = [] := rfl

@[simp] theorem stepValues_cons (name : String) (value : Value) (fields : List (String × Value)) :
    stepValues ((name, value) :: fields) =
      if name = "step" then value :: stepValues fields else stepValues fields := rfl

namespace Event

/-- **The steps that an event announces**, which is at most one in all that a check tells. -/
def steps (e : Event) : List Value := stepValues e.fields

variable (message : String) (fields : List (String × Value))

@[simp] theorem steps_debug : (debug message fields).steps = stepValues fields := rfl

@[simp] theorem steps_info : (info message fields).steps = stepValues fields := rfl

@[simp] theorem steps_warn : (warn message fields).steps = stepValues fields := rfl

@[simp] theorem steps_error : (error message fields).steps = stepValues fields := rfl

end Event

/-- **The steps that events announce**, in order. -/
def announced (events : List Event) : List Value := events.flatMap Event.steps

@[simp] theorem announced_nil : announced [] = [] := rfl

@[simp] theorem announced_cons (e : Event) (events : List Event) :
    announced (e :: events) = e.steps ++ announced events := by
  simp [announced]

@[simp] theorem announced_append (events events' : List Event) :
    announced (events ++ events') = announced events ++ announced events' := by
  simp [announced]

/-- **The numbers after one step up to another.** -/
def stepsBetween (n m : Nat) : List Value :=
  (List.range' (n + 1) (m - n)).map fun i => .number (i : Nat)

theorem stepsBetween_succ (n : Nat) : stepsBetween n (n + 1) = [.number (n + 1 : Nat)] := by
  simp [stepsBetween]

/-- Numbers that go on where others left off. -/
theorem stepsBetween_append {n m k : Nat} (h : n ≤ m) (h' : m ≤ k) :
    stepsBetween n m ++ stepsBetween m k = stepsBetween n k := by
  have hlength : k - n = (m - n) + (k - m) := by omega
  have hstart : n + 1 + 1 * (m - n) = m + 1 := by omega
  rw [stepsBetween, stepsBetween, stepsBetween, ← List.map_append, hlength, ← List.range'_append,
    hstart]

end Log

open Log (announced stepsBetween)

/-! ### What a run announces -/

namespace Trace

@[simp] theorem told_nil : told [] = [] := rfl

@[simp] theorem told_call (c : Call) (reply : Reply c) (events : List Log.Event) (t : Trace) :
    told (.call c reply events :: t) = told t := rfl

@[simp] theorem told_log (event : Log.Event) (t : Trace) :
    told (.log event :: t) = event :: told t := rfl

@[simp] theorem told_pause (ms : UInt64) (t : Trace) : told (.pause ms :: t) = told t := rfl

@[simp] theorem told_append (t u : Trace) : told (t ++ u) = told t ++ told u := by
  simp [told]

end Trace

/-- **A platform is reticent** if its own events announce no step. -/
def Platform.Reticent {σ : Type} (p : Platform σ) : Prop :=
  ∀ (c : Call) (s : σ), announced (p.reply c s).2.1 = []

/-- The platform in memory tells nothing at all. -/
theorem Memory.reticent_platform (faults : Memory.Faults) : (Memory.platform faults).Reticent :=
  fun _ _ => rfl

/-- A client tells of its requests, which are no steps. -/
theorem Http.Client.reticent_platform {τ : Type} (client : Http.Client)
    (t : Http.Transport τ) : (client.platform t).Reticent := by
  intro c s
  have hbefore : announced (Http.Client.announcement c) = [] := by
    cases c with
    | createVolume request =>
      cases hsize : request.spec.size <;> simp [Http.Client.announcement, hsize]
    | _ => simp [Http.Client.announcement]
  have hafter (delivery : Http.Delivery) : announced (Http.Client.remark c delivery) = [] := by
    unfold Http.Client.remark
    split
    · split
      · simp
      · rfl
    · rfl
  simp [Http.Client.reply_eq, hbefore, hafter]

/-- On a reticent platform, all steps that are announced are those of the script. -/
theorem announced_events {σ α : Type} {p : Platform σ} (hp : p.Reticent) (script : Script α)
    (s : σ) : announced (script.run p s).trace.events = announced (script.run p s).trace.told := by
  induction script generalizing s with
  | done value => rfl
  | call c next ih =>
    have hown := hp c s
    simp only [Trace.events] at ih
    simp [Script.run, Run.after, Trace.events, hown, ih]
  | log event next ih =>
    simp only [Trace.events] at ih
    simp [Script.run, Run.after, Trace.events, ih]
  | pause ms next ih =>
    simp only [Trace.events] at ih
    simp [Script.run, Run.after, Trace.events, ih]

/-! ### Scripts that announce nothing -/

/-- **A script is silent** if no event that it may tell announces a step. -/
inductive Script.Silent {α : Type} : Script α → Prop where
  | done (value : α) : Silent (.done value)
  | call {c : Call} {next : Reply c → Script α} (rest : ∀ reply, Silent (next reply)) :
    Silent (.call c next)
  | log {event : Log.Event} {next : Script α} (here : event.steps = [])
    (rest : Silent next) : Silent (.log event next)
  | pause {ms : UInt64} {next : Script α} (rest : Silent next) : Silent (.pause ms next)

namespace Script.Silent

variable {α β : Type} {script : Script α}

/-- A silent script announces nothing, on any platform. -/
theorem announced_run (h : script.Silent) {σ : Type} (p : Platform σ) (s : σ) :
    announced (script.run p s).trace.told = [] := by
  induction h generalizing s with
  | done value => rfl
  | call rest ih => exact ih _ _
  | log here rest ih => simp [run, Run.after, here, ih]
  | pause rest ih => exact ih s

theorem bind {f : α → Script β} (h : script.Silent) (hf : ∀ a, (f a).Silent) :
    (script >>= f).Silent := by
  induction h with
  | done value => exact hf value
  | call rest ih => exact .call ih
  | log here rest ih => exact .log here ih
  | pause rest ih => exact .pause ih

end Script.Silent

section Quiet

variable {ε ε' α β : Type}

/-- **A script that may stop is quiet** if it is silent, also where it stops. -/
def Quiet (x : ExceptT ε Script α) : Prop := Script.Silent x.run

theorem quiet_pure (a : α) : Quiet (pure a : ExceptT ε Script α) := .done _

theorem quiet_throw (e : ε) : Quiet (throw e : ExceptT ε Script α) := .done _

theorem Quiet.bind {x : ExceptT ε Script α} {f : α → ExceptT ε Script β} (hx : Quiet x)
    (hf : ∀ a, Quiet (f a)) : Quiet (x >>= f) := by
  refine Script.Silent.bind hx fun v => ?_
  cases v with
  | ok a => exact hf a
  | error e => exact .done _

/-- What is made of a stop is not told. -/
theorem Quiet.adapt {x : ExceptT ε Script α} (hx : Quiet x) (f : ε → ε') :
    Quiet (ExceptT.adapt f x) :=
  Script.Silent.bind hx fun _ => .done _

theorem Quiet.ite {P : Prop} [Decidable P] {x y : ExceptT ε Script α} (hx : Quiet x)
    (hy : Quiet y) : Quiet (if P then x else y) := by
  split
  · exact hx
  · exact hy

/-- Where all that follows a script is quiet, what is announced is what the script announces. -/
theorem announced_lift_bind {script : Script α} {f : α → ExceptT ε Script β}
    (hf : ∀ a, Quiet (f a)) {σ : Type} (p : Platform σ) (s : σ) :
    announced ((ExceptT.lift script >>= f).run.run p s).trace.told =
      announced (script.run p s).trace.told := by
  have hrun : (ExceptT.lift script >>= f).run = script >>= fun a => (f a).run := by
    simp [ExceptT.run_bind, ExceptT.run_lift]
  have hrest : announced ((f (script.run p s).value).run.run p (script.run p s).state).trace.told =
      [] := (hf _).announced_run p _
  simp [hrun, Script.run_bind, hrest]

namespace Routine

theorem quiet_tell {event : Log.Event} (h : event.steps = []) : Quiet (tell event) :=
  .log h (.done _)

theorem quiet_tell_bind {event : Log.Event} {f : Unit → Routine α} (h : event.steps = [])
    (hf : Quiet (f ())) : Quiet (tell event >>= f) :=
  (quiet_tell h).bind fun _ => hf

theorem quiet_ask (c : Call) : Quiet (ask c) := .call fun _ => .done _

theorem quiet_pause (ms : UInt64) : Quiet (pause ms) := .pause (.done _)

end Routine

namespace Work

theorem quiet_tell {event : Log.Event} (h : event.steps = []) : Quiet (tell event) :=
  (Routine.quiet_tell h).adapt _

theorem quiet_tell_bind {event : Log.Event} {f : Unit → Work α} (h : event.steps = [])
    (hf : Quiet (f ())) : Quiet (tell event >>= f) :=
  (quiet_tell h).bind fun _ => hf

theorem quiet_ask (c : Call) : Quiet (ask c) := (Routine.quiet_ask c).adapt _

/-- To require success is quiet: a failure is told by none but the end of the check. -/
theorem quiet_require (doing : String) {work : Work (Except Failure α)} (h : Quiet work) :
    Quiet (require doing work) := by
  refine h.bind fun answer => ?_
  cases answer with
  | ok value => exact quiet_pure _
  | error failure => exact quiet_throw _

end Work

end Quiet

/-! ### The parts of a check that announce nothing -/

namespace Policy

/-- A wait tells of each of its attempts, however many there are, and announces no step. -/
theorem quiet_probe (policy : Policy) (name : String) (made left : Nat) :
    Quiet (policy.probe name made left) := by
  induction left generalizing made with
  | zero => exact Routine.quiet_tell_bind (by simp) (quiet_pure _)
  | succ left ih =>
    refine (Routine.quiet_ask _).bind fun found => ?_
    cases found with
    | notFound => exact Routine.quiet_tell_bind (by simp) (quiet_pure _)
    | found value =>
      refine Routine.quiet_tell_bind (by simp [attemptFields]) ?_
      exact (Routine.quiet_pause _).bind fun _ => ih _
    | transient error =>
      dsimp only
      split
      · exact Routine.quiet_tell_bind (by simp) (quiet_pure _)
      · refine Routine.quiet_tell_bind (by simp [attemptFields]) ?_
        exact (Routine.quiet_pause _).bind fun _ => ih _

theorem quiet_await (policy : Policy) (name : String) : Quiet (policy.await name) :=
  Routine.quiet_tell_bind (by simp) (policy.quiet_probe _ _ _)

end Policy

namespace Teardown

theorem quiet_dispose (policy : Policy) (r : Resource) : Quiet (dispose policy r) := by
  have hdelete : Quiet r.delete := by cases r <;> exact Routine.quiet_ask _
  refine hdelete.bind fun answer => ?_
  cases answer with
  | ok _ =>
    refine Routine.quiet_tell_bind (by simp [resourceFields]) ?_
    split
    · refine (policy.quiet_await _).bind fun gone => ?_
      dsimp only
      split
      · exact Routine.quiet_tell_bind (by simp) (quiet_pure _)
      · exact quiet_pure _
    · exact quiet_pure _
  | error failure =>
    dsimp only
    split
    · exact Routine.quiet_tell_bind (by simp [resourceFields]) (quiet_pure _)
    · exact Routine.quiet_tell_bind (by simp [resourceFields]) (quiet_pure _)

theorem quiet_disposeAll (policy : Policy) (rs : List Resource) :
    Quiet (disposeAll policy rs) := by
  induction rs with
  | nil => exact quiet_pure _
  | cons r rs ih => exact (quiet_dispose policy r).bind fun _ => ih.bind fun _ => quiet_pure _

theorem quiet_run (t : Teardown) : Quiet t.run :=
  (quiet_disposeAll t.policy t.resources).bind fun _ => quiet_pure _

end Teardown

theorem quiet_runCommand (sandbox : String) (command : Command) :
    Quiet (runCommand sandbox command) := by
  refine (Work.quiet_require _ (Work.quiet_ask _)).bind fun output => ?_
  dsimp only
  split
  · split
    · exact Work.quiet_tell_bind (by simp) (quiet_pure _)
    · exact quiet_pure _
  · exact quiet_pure _

theorem quiet_runTrimmed (sandbox : String) (command : Command) :
    Quiet (runTrimmed sandbox command) :=
  (quiet_runCommand sandbox command).bind fun _ => quiet_pure _

namespace Plan

variable (plan : Plan)

theorem quiet_checkRegion (sandbox : String) : Quiet (plan.checkRegion sandbox) := by
  unfold checkRegion
  split
  · exact quiet_pure _
  · refine (Work.quiet_ask _).bind fun found => ?_
    cases found with
    | found value => exact .ite (Work.quiet_tell (by simp)) (Work.quiet_tell (by simp))
    | notFound => exact Work.quiet_tell (by simp)
    | transient error => exact Work.quiet_tell (by simp)

theorem quiet_createSandbox (name mount : String) : Quiet (plan.createSandbox name mount) :=
  (Work.quiet_require _ (Work.quiet_ask _)).bind fun _ =>
    Work.quiet_tell_bind (by simp) (plan.quiet_checkRegion name)

/-- An inspection tells what each of its commands came to, and announces no step. -/
theorem quiet_inspect (sandbox mount : String) (identity : Bool) :
    Quiet (plan.inspect sandbox mount identity) := by
  refine (quiet_runTrimmed _ _).bind fun mounts => ?_
  refine .ite (Work.quiet_tell_bind (by simp) ?rest) (Work.quiet_tell_bind (by simp) ?rest)
  refine (quiet_runTrimmed _ _).bind fun listing => Work.quiet_tell_bind (by simp) ?_
  refine (quiet_runTrimmed _ _).bind fun existence => Work.quiet_tell_bind (by simp) ?_
  refine (quiet_runTrimmed _ _).bind fun details => Work.quiet_tell_bind (by simp) ?_
  cases identity with
  | false => exact (quiet_runCommand _ _).bind fun _ => quiet_pure _
  | true =>
    exact (quiet_runTrimmed _ _).bind fun user => Work.quiet_tell_bind (by simp)
      ((quiet_runCommand _ _).bind fun _ => quiet_pure _)

end Plan

/-! ### Scripts that count -/

section Counts

variable {α β : Type} {n m k : Nat}

/-- The last step that was announced, by what a sequence of steps ended with: the last of all, or
the one that it stopped in. -/
def lastStep (m : Nat) : Except Stop α → Nat
  | .ok _ => m
  | .error stop => stop.entering.step

/-- **A sequence of steps counts from one number to another**: it announces each of the steps
between them, or, where it stops, each up to the step that it stops in. -/
def Counts (n m : Nat) (x : Steps α) : Prop :=
  ∀ (σ : Type) (p : Platform σ) (s : σ),
    let r := x.run.run p s
    n < lastStep m r.value ∧ announced r.trace.told = stepsBetween n (lastStep m r.value)

/-- A step is announced before anything is done for it. -/
theorem run_step (stage : Stage) (announcement : String) (fields : List (String × Log.Value))
    (work : Work α) :
    (step stage announcement fields work).run =
      .log (.info announcement (("step", .number stage.step) :: fields))
        (work.run >>= fun v => .done (v.mapError (.mk stage))) := rfl

/-- **One step** counts by one, whether its work is done or stops. -/
theorem counts_step {stage : Stage} {announcement : String} {fields : List (String × Log.Value)}
    {work : Work α} (hstage : stage.step = n + 1) (hfields : Log.stepValues fields = [])
    (hwork : Quiet work) : Counts n (n + 1) (step stage announcement fields work) := by
  intro σ p s
  have hsilent : announced (work.run.run p s).trace.told = [] := hwork.announced_run p s
  have hlast : lastStep (n + 1) ((work.run.run p s).value.mapError (.mk stage)) = n + 1 := by
    cases (work.run.run p s).value with
    | ok a => rfl
    | error cause => exact hstage
  simp [run_step, Script.run, Script.run_bind, Run.after, hlast, hsilent, hfields, hstage,
    Log.stepsBetween_succ]

/-- **One sequence of steps after another** goes on counting where the first left off. -/
theorem Counts.bind {x : Steps α} {f : α → Steps β} (hx : Counts n m x)
    (hf : ∀ a, Counts m k (f a)) : Counts n k (x >>= f) := by
  intro σ p s
  obtain ⟨hlt, htold⟩ := hx σ p s
  simp only [ExceptT.run_bind, Script.run_bind]
  generalize x.run.run p s = r at hlt htold ⊢
  obtain ⟨v, t, s'⟩ := r
  cases v with
  | error stop => simpa [Script.run] using ⟨hlt, htold⟩
  | ok a =>
    obtain ⟨hlt', htold'⟩ := hf a σ p s'
    refine ⟨Nat.lt_trans hlt hlt', ?_⟩
    simp only [Trace.told_append, Log.announced_append, htold, htold']
    exact Log.stepsBetween_append (Nat.le_of_lt hlt) (Nat.le_of_lt hlt')

end Counts

/-! ### The narration of a check -/

namespace Plan

variable (plan : Plan)

/-- **The eight steps** count from one to eight. -/
theorem counts_steps : Counts 0 8 plan.steps := by
  have hvolume : Counts 0 1 plan.createVolume := counts_step rfl (by simp) <|
    (Work.quiet_require _ (Work.quiet_ask _)).bind fun _ => Work.quiet_tell (by simp)
  have hfirst : Counts 1 2 plan.createFirst :=
    counts_step rfl (by simp) (plan.quiet_createSandbox _ _)
  have hwrite : Counts 2 3 plan.writeFirst :=
    counts_step rfl (by simp) ((quiet_runTrimmed _ _).bind fun _ => quiet_pure _)
  have hread : Counts 3 4 plan.readFirst := counts_step rfl (by simp) <|
    (plan.quiet_inspect _ _ _).bind fun _ => Work.quiet_tell (by simp)
  have hdelete : Counts 4 5 plan.deleteFirst :=
    counts_step rfl (by simp) (Work.quiet_require _ (Work.quiet_ask _))
  have hgone : Counts 5 6 plan.awaitFirstGone := counts_step rfl (by simp) <|
    ((plan.policy.quiet_await _).adapt _).bind fun _ => .ite (quiet_throw _) (quiet_pure _)
  have hsecond : Counts 6 7 plan.createSecond :=
    counts_step rfl (by simp) (plan.quiet_createSandbox _ _)
  have hreread : Counts 7 8 plan.readSecond := counts_step rfl (by simp) <|
    (plan.quiet_inspect _ _ _).bind fun _ => Work.quiet_tell_bind (by simp) (quiet_pure _)
  exact hvolume.bind fun _ => hfirst.bind fun _ => hwrite.bind fun _ => hread.bind fun _ =>
    hdelete.bind fun _ => hgone.bind fun _ => hsecond.bind fun _ => hreread

/-- The steps and the comparison announce what the steps do, and the comparison is the ninth. -/
theorem announced_judge {σ : Type} (p : Platform σ) (s : σ) :
    announced (plan.judge.run p s).trace.told =
      stepsBetween 0 (lastStep 9 (plan.steps.run.run p s).value) := by
  obtain ⟨-, htold⟩ := plan.counts_steps σ p s
  simp only [judge, Script.run_bind]
  generalize plan.steps.run.run p s = r at htold ⊢
  obtain ⟨v, t, s'⟩ := r
  cases v with
  | error stop => simpa [Script.run, Run.after, stopEvent, lastStep] using htold
  | ok read =>
    have hninth : (plan.comparisonEvent read).steps = stepsBetween 8 9 := by
      rw [Log.stepsBetween_succ]
      unfold comparisonEvent
      split <;> simp [Stage.step]
    simp only [Script.run, Run.after, Trace.told_append, Trace.told_log, Trace.told_nil,
      Log.announced_append, Log.announced_cons, Log.announced_nil, List.append_nil, htold, hninth]
    exact Log.stepsBetween_append (by simp [lastStep]) (by simp [lastStep])

/-- All that follows the verdict announces nothing. -/
theorem announced_check {σ : Type} (p : Platform σ) (s : σ) :
    announced (plan.check.runOn p s).trace.told = announced (plan.judge.run p s).trace.told := by
  refine announced_lift_bind (fun verdict => ?_) p s
  refine Routine.quiet_tell_bind (by simp) (plan.teardown.quiet_run.bind fun report => ?_)
  dsimp only
  split
  · exact Routine.quiet_tell_bind (by simp) (quiet_pure _)
  · exact quiet_pure _

/-- The last step that is announced is the one after the stage that was reached, unless that is
the last stage. -/
theorem lastStep_eq {σ : Type} (p : Platform σ) (s : σ) :
    let v := (plan.steps.run.run p s).value
    lastStep 9 v = min ((plan.verdict v).reached.step + 1) 9 := by
  obtain ⟨hlt, -⟩ := plan.counts_steps σ p s
  generalize (plan.steps.run.run p s).value = v at hlt ⊢
  cases v with
  | ok read => rfl
  | error stop =>
    have hle : stop.entering.step ≤ 9 := by cases stop.entering <;> simp [Stage.step]
    simp only [lastStep] at hlt
    simp only [lastStep, verdict, Stop.reached, Stage.step_previous]
    omega

/-- **What is announced matches what was reached**, at every place at which a check may stop and
on every platform: the steps that a check announces are `1`, `2` and so on up to the one after the
stage that was reached, or up to the ninth where the comparison was made. Each is announced once,
and the last is the one that was in progress.

A platform may have events of its own. If these announce no step, which is so for a client and
for the platform in memory, then the steps among all events are the same. A teardown that crashes
takes away the report, and with it the stage that was reached, but not what was announced. -/
theorem narration_matches_progress {σ : Type} (plan : Plan) (p : Platform σ) (s : σ) :
    let r := plan.check.runOn p s
    let ending := (plan.steps.run.run p s).value
    let reached := (plan.judge.run p s).value.reached
    let count := min (reached.step + 1) 9
    let numbers := (List.range' 1 count).map fun i => Log.Value.number (i : Nat)
    announced r.trace.told = numbers ∧
      (p.Reticent → announced r.trace.events = numbers) ∧
      (∀ report, r.value = .ok report → report.verdict.reached = reached) ∧
      (∀ stop, ending = .error stop → numbers.getLast? = some (.number stop.entering.step)) ∧
      (∀ read, ending = .ok read → numbers.getLast? = some (.number 9)) := by
  intro r ending reached count numbers
  have hreached : reached = (plan.verdict ending).reached :=
    congrArg Verdict.reached (plan.run_judge p s).2.1
  have hlast : lastStep 9 ending = count := by
    simpa only [count, hreached] using plan.lastStep_eq p s
  have hpos : 0 < lastStep 9 ending := by
    simp only [hlast, count]
    omega
  have hnumbers : stepsBetween 0 (lastStep 9 ending) = numbers := by
    simp only [stepsBetween, hlast, numbers, Nat.sub_zero, Nat.zero_add]
  have htold : announced r.trace.told = numbers :=
    (plan.announced_check p s).trans ((plan.announced_judge p s).trans hnumbers)
  have hlastNumber : numbers.getLast? = some (.number (lastStep 9 ending : Nat)) := by
    rw [← hnumbers, stepsBetween, List.getLast?_map, List.getLast?_range', if_neg (by omega)]
    simp
  refine ⟨htold, fun hp => ?_, fun report hreport => ?_, fun stop hstop => ?_, fun read hread => ?_⟩
  · exact (announced_events hp _ s).trans htold
  · exact congrArg Verdict.reached (plan.verdict_of_check hreport)
  · rw [hlastNumber, hstop, lastStep]
  · rw [hlastNumber, hread, lastStep]
    rfl

end Plan

end RemountCheck
