import RemountCheck.Check.Run
import RemountCheck.Proofs.Wait

/-!
# The course of a check

A check makes its calls in one order, whatever the platform replies. This module writes that
order down as a list, apart from the script that makes the calls, and proves that the script
keeps to it: nothing is left out, nothing is made twice, and the check stops exactly at the
first call that did not succeed, or where the wait ran out of its budget.

* `RemountCheck.Plan.course` – the calls of a check in order, each with the stage that its step
  enters, for a number of lookups of the wait;
* `RemountCheck.Course.Completed`, `RemountCheck.Course.CutAt` – exchanges that make all calls
  of a course with success, or all up to the first that does not succeed;
* `RemountCheck.Plan.Trail` – how far a check gets, with its exchanges and the stage reached;
* `RemountCheck.Plan.trail_judge` – every run of a check, on every platform, leaves a trail.

| part of the script | its course | lemma |
|---|---|---|
| a call that has to succeed | the call | `RemountCheck.follows_ask_bind` |
| one script after another | one course after another | `RemountCheck.Follows.bind` |
| a step | the calls of its work, with its stage | `RemountCheck.follows_step` |

The wait is the one part without a course of its own: how many lookups it makes is up to the
platform (`RemountCheck.Policy.Waits`).
-/

namespace RemountCheck

/-! ### Courses -/

/-- **A course**: calls in order, each with the stage that its step enters. -/
abbrev Course := List (Stage × Call)

namespace Course

/-- The calls of a course. -/
def calls (course : Course) : List Call := course.map (·.2)

/-- The course of calls that are all made in one step. -/
def ofStep (stage : Stage) (cs : List Call) : Course := cs.map (stage, ·)

@[simp] theorem calls_nil : calls [] = [] := rfl

@[simp] theorem calls_cons (stage : Stage) (c : Call) (course : Course) :
    calls ((stage, c) :: course) = c :: calls course := rfl

@[simp] theorem calls_append (course course' : Course) :
    calls (course ++ course') = calls course ++ calls course' := by
  simp [calls]

@[simp] theorem calls_ofStep (stage : Stage) (cs : List Call) : calls (ofStep stage cs) = cs := by
  simp [calls, ofStep, Function.comp_def]

/-- **A course is completed**: its calls were made and all of them succeeded. -/
def Completed (course : Course) (xs : List Exchange) : Prop :=
  xs.map (·.call) = course.calls ∧ ∀ x ∈ xs, x.succeeded = true

/-- **A course is cut in a step**: its calls were made up to one in that step, which is the
first that did not succeed. -/
def CutAt (course : Course) (xs : List Exchange) (stage : Stage) : Prop :=
  ∃ (made left : Course) (ys : List Exchange) (x : Exchange),
    course = made ++ (stage, x.call) :: left ∧ xs = ys ++ [x] ∧
      made.Completed ys ∧ x.succeeded = false

variable {course course' : Course} {xs ys : List Exchange} {stage : Stage}

theorem completed_nil : Completed [] [] := ⟨rfl, by simp⟩

theorem Completed.append (h : course.Completed xs) (h' : course'.Completed ys) :
    Completed (course ++ course') (xs ++ ys) := by
  refine ⟨by simp [h.1, h'.1], fun x hx => ?_⟩
  rcases List.mem_append.mp hx with hx | hx
  · exact h.2 x hx
  · exact h'.2 x hx

/-- A course that is cut is cut, whatever was to follow it. -/
theorem CutAt.append_right (h : course.CutAt xs stage) : CutAt (course ++ course') xs stage := by
  obtain ⟨made, left, ys, x, rfl, rfl, hmade, hx⟩ := h
  exact ⟨made, left ++ course', ys, x, by simp, rfl, hmade, hx⟩

/-- A course may be cut after another that is completed. -/
theorem Completed.append_cutAt (h : course.Completed xs) (h' : course'.CutAt ys stage) :
    CutAt (course ++ course') (xs ++ ys) stage := by
  obtain ⟨made, left, ys, x, rfl, rfl, hmade, hx⟩ := h'
  exact ⟨course ++ made, left, xs ++ ys, x, by simp, by simp, h.append hmade, hx⟩

/-- The calls of a course that is cut are the beginning of its calls. -/
theorem CutAt.calls_isPrefix (h : course.CutAt xs stage) : xs.map (·.call) <+: course.calls := by
  obtain ⟨made, left, ys, x, rfl, rfl, hmade, -⟩ := h
  exact ⟨left.calls, by simp [hmade.1]⟩

end Course

/-! ### Scripts that keep to a course -/

section Follows

variable {ε ε' α β : Type} {course course' : Course} {stage : Stage}

/-- **A script keeps to a course**, on every platform: where it ends the course is completed,
and where it stops the course is cut in the step that is to blame. -/
def Follows (blame : ε → Stage) (x : ExceptT ε Script α) (course : Course) : Prop :=
  ∀ (σ : Type) (p : Platform σ) (s : σ), Leads p x s fun xs v _ =>
    match v with
    | .ok _ => course.Completed xs
    | .error e => course.CutAt xs (blame e)

/-- The calls of a script that keeps to a course are the beginning of it. -/
theorem Follows.calls_isPrefix {blame : ε → Stage} {x : ExceptT ε Script α}
    (h : Follows blame x course) {σ : Type} (p : Platform σ) (s : σ) :
    Leads p x s fun xs _ _ => xs.map (·.call) <+: course.calls := by
  refine (h σ p s).mono fun xs v _ hv => ?_
  cases v with
  | ok a => exact hv.1 ▸ List.prefix_refl _
  | error e => exact hv.calls_isPrefix

theorem follows_pure (blame : ε → Stage) (a : α) : Follows blame (pure a) [] :=
  fun _ _ _ => Course.completed_nil

theorem Follows.bind {blame : ε → Stage} {x : ExceptT ε Script α} {f : α → ExceptT ε Script β}
    (hx : Follows blame x course) (hf : ∀ a, Follows blame (f a) course') :
    Follows blame (x >>= f) (course ++ course') := by
  intro σ p s
  refine leads_bind.mpr ((hx σ p s).mono fun xs v s' hv => ?_)
  cases v with
  | error e => exact hv.append_right
  | ok a =>
    refine (hf a σ p s').mono fun ys w _ hw => ?_
    cases w with
    | error e => exact hv.append_cutAt hw
    | ok b => exact hv.append hw

/-- What makes no calls changes nothing in a course. -/
theorem Follows.bind_quiet {blame : ε → Stage} {x : ExceptT ε Script α}
    {f : α → ExceptT ε Script β} (hx : Follows blame x course) (hf : ∀ a, Follows blame (f a) []) :
    Follows blame (x >>= f) course := by
  simpa using hx.bind hf

theorem Follows.cons {blame : ε → Stage} {c : Call} {x : ExceptT ε Script α}
    {f : α → ExceptT ε Script β} (hx : Follows blame x [(stage, c)])
    (hf : ∀ a, Follows blame (f a) course) : Follows blame (x >>= f) ((stage, c) :: course) :=
  hx.bind hf

/-- Where it only matters what is told, either way is the same course. -/
theorem Follows.ite {blame : ε → Stage} {P : Prop} [Decidable P] {x y : ExceptT ε Script α}
    (hx : Follows blame x course) (hy : Follows blame y course) :
    Follows blame (if P then x else y) course := by
  split
  · exact hx
  · exact hy

theorem follows_tell_bind {blame : Cause → Stage} {event : Log.Event} {f : Unit → Work α}
    (hf : Follows blame (f ()) course) : Follows blame (Work.tell event >>= f) course :=
  fun σ p s => by simpa using hf σ p s

/-- **A call that has to succeed** is made, and the script stops unless it does. -/
theorem follows_ask_bind {c : Call} {f : c.Answer → Work α}
    (hok : ∀ answer, c.isSuccess answer = true → Follows (fun _ => stage) (f answer) course)
    (hno : ∀ answer, c.isSuccess answer = false → ∃ cause, f answer = throw cause) :
    Follows (fun _ => stage) (Work.ask c >>= f) ((stage, c) :: course) := by
  intro σ p s
  refine leads_bind.mpr (Work.leads_ask.mpr ?_)
  -- a reply that is no success cuts the course at this call, a crash as well as a failure
  have hcut (reply : Reply c) (h : Exchange.succeeded ⟨c, reply⟩ = false) :
      Course.CutAt ((stage, c) :: course) [⟨c, reply⟩] stage :=
    ⟨[], course, [], ⟨c, reply⟩, rfl, rfl, Course.completed_nil, h⟩
  cases (p.reply c s).1 with
  | error crash => exact hcut _ rfl
  | ok answer =>
    cases hanswer : c.isSuccess answer with
    | false =>
      obtain ⟨cause, hthrow⟩ := hno answer hanswer
      simpa [hthrow] using hcut (.ok answer) hanswer
    | true =>
      have hdone : Course.Completed [(stage, c)] [⟨c, .ok answer⟩] :=
        ⟨rfl, by simpa [Exchange.succeeded] using hanswer⟩
      refine (hok answer hanswer σ p _).mono fun xs v _ hv => ?_
      cases v with
      | error cause => exact hdone.append_cutAt hv
      | ok a => exact hdone.append hv

/-- **A step** makes the calls of its work; where it stops, it was in that step. -/
theorem follows_step {announcement : String} {fields : List (String × Log.Value)} {work : Work α}
    (h : Follows (fun _ => stage) work course) :
    Follows Stop.entering (step stage announcement fields work) course := by
  intro σ p s
  refine leads_step.mpr ((h σ p s).mono fun xs v _ hv => ?_)
  cases v with
  | error cause => exact hv
  | ok a => exact hv

end Follows

/-! ### The calls of a check -/

/-- A command that does not write is not one that writes. -/
theorem Command.text_ne_write {command : Command} {content path : String}
    (h : ∀ content path, command ≠ .write content path) :
    command.text ≠ (Command.write content path).text := by
  intro heq
  have hwrite := (head?_text (.write content path)).mpr ⟨content, path, rfl⟩
  rw [← heq, head?_text] at hwrite
  obtain ⟨content, path, hcommand⟩ := hwrite
  exact h content path hcommand

namespace Plan

variable (plan : Plan)

/-- The lookup that finds out where a sandbox was put, if a region is asked for. -/
def regionLookup (sandbox : String) : List Call :=
  match plan.region with
  | none => []
  | some _ => [.getSandbox sandbox]

/-- The request for the first sandbox. -/
def firstRequest : SandboxRequest :=
  plan.sandboxRequest plan.names.firstSandbox plan.firstMount

/-- The request for the second sandbox. -/
def secondRequest : SandboxRequest :=
  plan.sandboxRequest plan.names.secondSandbox plan.secondMount

/-- The call that writes the file. -/
def writeCall : Call :=
  .exec plan.names.firstSandbox
    (Command.write plan.content (filePath plan.firstMount plan.fileName)).text

/-- The calls that inspect a mount and read the file. -/
def inspection (sandbox mount : String) (identity : Bool) : List Call :=
  let path := filePath mount plan.fileName
  let commands : List Command :=
    [.mounts mount, .listing mount, .existence path, .details path] ++
      (if identity then [.identity] else []) ++ [.read path]
  commands.map fun command => .exec sandbox command.text

/-- The course up to the deletion of the first sandbox. -/
def outward : Course :=
  .ofStep .volumeCreated [.createVolume plan.volumeRequest] ++
    (.ofStep .firstSandboxCreated
      (.createSandbox plan.firstRequest :: plan.regionLookup plan.names.firstSandbox) ++
    (.ofStep .firstWriteDone [plan.writeCall] ++
    (.ofStep .firstReadVerified (plan.inspection plan.names.firstSandbox plan.firstMount false) ++
    .ofStep .firstSandboxDeleted [.deleteSandbox plan.names.firstSandbox])))

/-- The lookups of the wait, as many as it makes. -/
def waiting (lookups : Nat) : Course :=
  .ofStep .firstDeletionConfirmed (List.replicate lookups (.getSandbox plan.names.firstSandbox))

/-- The course from the creation of the second sandbox on. -/
def homeward : Course :=
  .ofStep .secondSandboxCreated
      (.createSandbox plan.secondRequest :: plan.regionLookup plan.names.secondSandbox) ++
    .ofStep .secondReadVerified (plan.inspection plan.names.secondSandbox plan.secondMount true)

/-- **The course of a check** whose wait makes a number of lookups. -/
def course (lookups : Nat) : Course := plan.outward ++ plan.waiting lookups ++ plan.homeward

/-- **How far a check gets**: its exchanges, of which some are the lookups of the wait, and the
last stage that it reaches. -/
inductive Trail : (lookups : Nat) → List Exchange → Stage → Prop where
  /-- It is cut before the wait. -/
  | cutOutward {xs : List Exchange} {stage : Stage} (cut : plan.outward.CutAt xs stage) :
    Trail 0 xs stage.previous
  /-- A lookup of the wait crashes. -/
  | waitCrashed {xs ws : List Exchange} {crash : Crash} (made : plan.outward.Completed xs)
    (wait : plan.policy.Waits plan.names.firstSandbox plan.policy.maxAttempts.toNat ws
      (.error crash)) :
    Trail ws.length (xs ++ ws) .firstSandboxDeleted
  /-- The wait ends without an absence. -/
  | timedOut {xs ws : List Exchange} (made : plan.outward.Completed xs)
    (wait : plan.policy.Waits plan.names.firstSandbox plan.policy.maxAttempts.toNat ws
      (.ok false)) :
    Trail ws.length (xs ++ ws) .firstSandboxDeleted
  /-- It is cut after the wait. -/
  | cutHomeward {xs ws ys : List Exchange} {stage : Stage} (made : plan.outward.Completed xs)
    (wait : plan.policy.Waits plan.names.firstSandbox plan.policy.maxAttempts.toNat ws
      (.ok true)) (cut : plan.homeward.CutAt ys stage) :
    Trail ws.length (xs ++ ws ++ ys) stage.previous
  /-- It gets to the end. -/
  | completed {xs ws ys : List Exchange} (made : plan.outward.Completed xs)
    (wait : plan.policy.Waits plan.names.firstSandbox plan.policy.maxAttempts.toNat ws
      (.ok true)) (rest : plan.homeward.Completed ys) :
    Trail ws.length (xs ++ ws ++ ys) .compared

end Plan

/-! ### The script keeps to the course -/

section Parts

variable {stage : Stage} {α : Type}

/-- **A call that is required to succeed**, of any kind whose answers are values or failures. -/
theorem follows_require {c : Call} (doing : String) (toExcept : c.Answer → Except Failure α)
    (h : ∀ answer, c.isSuccess answer = (toExcept answer).isOk) :
    Follows (fun _ => stage)
      (Work.ask c >>= fun answer =>
        match toExcept answer with
        | .ok value => pure value
        | .error failure => throw (.failed (doing ++ ": " ++ failure.message)))
      [(stage, c)] := by
  refine follows_ask_bind (fun answer hanswer => ?_) fun answer hanswer => ?_
  · rw [h] at hanswer
    cases hvalue : toExcept answer with
    | ok value => exact follows_pure _ _
    | error failure => simp [hvalue, Except.isOk, Except.toBool] at hanswer
  · rw [h] at hanswer
    cases hvalue : toExcept answer with
    | ok value => simp [hvalue, Except.isOk, Except.toBool] at hanswer
    | error failure => exact ⟨_, rfl⟩

theorem follows_runCommand (sandbox : String) (command : Command) :
    Follows (fun _ => stage) (runCommand sandbox command)
      [(stage, .exec sandbox command.text)] := by
  refine Follows.bind_quiet
    (follows_require (c := .exec sandbox command.text) _ id fun _ => rfl) fun output => ?_
  split
  · split
    · exact follows_tell_bind (follows_pure _ _)
    · exact follows_pure _ _
  · exact follows_pure _ _

theorem follows_runTrimmed (sandbox : String) (command : Command) :
    Follows (fun _ => stage) (runTrimmed sandbox command)
      [(stage, .exec sandbox command.text)] :=
  (follows_runCommand sandbox command).bind_quiet fun _ => follows_pure _ _

namespace Plan

variable (plan : Plan)

theorem follows_checkRegion (sandbox : String) :
    Follows (fun _ => stage) (plan.checkRegion sandbox)
      (.ofStep stage (plan.regionLookup sandbox)) := by
  unfold checkRegion regionLookup
  cases plan.region with
  | none => exact follows_pure _ _
  | some expected =>
    refine follows_ask_bind (fun found _ => ?_) fun _ h => by simp [Call.isSuccess] at h
    cases found with
    | found value =>
      dsimp only
      split
      · exact fun _ _ _ => Course.completed_nil
      · exact fun _ _ _ => Course.completed_nil
    | notFound => exact fun _ _ _ => Course.completed_nil
    | transient error => exact fun _ _ _ => Course.completed_nil

theorem follows_createSandbox (name mount : String) :
    Follows (fun _ => stage) (plan.createSandbox name mount)
      (.ofStep stage (.createSandbox (plan.sandboxRequest name mount) :: plan.regionLookup name)) :=
  (follows_require (c := .createSandbox (plan.sandboxRequest name mount)) _ id fun _ => rfl).bind
    fun _ => follows_tell_bind (plan.follows_checkRegion name)

theorem follows_inspect (sandbox mount : String) (identity : Bool) :
    Follows (fun _ => stage) (plan.inspect sandbox mount identity)
      (.ofStep stage (plan.inspection sandbox mount identity)) := by
  refine (follows_runTrimmed _ _).cons fun mounts => ?_
  refine .ite (follows_tell_bind ?rest) (follows_tell_bind ?rest)
  refine (follows_runTrimmed _ _).cons fun listing => follows_tell_bind ?_
  refine (follows_runTrimmed _ _).cons fun existence => follows_tell_bind ?_
  refine (follows_runTrimmed _ _).cons fun details => follows_tell_bind ?_
  cases identity with
  | false => exact (follows_runCommand _ _).bind_quiet fun _ => follows_pure _ _
  | true =>
    exact (follows_runTrimmed _ _).cons fun user => follows_tell_bind
      ((follows_runCommand _ _).bind_quiet fun _ => follows_pure _ _)

end Plan

end Parts

namespace Plan

variable (plan : Plan)

/-- The step that creates the volume makes one call. -/
theorem follows_createVolume :
    Follows Stop.entering plan.createVolume
      (.ofStep .volumeCreated [.createVolume plan.volumeRequest]) :=
  follows_step ((follows_require (c := .createVolume plan.volumeRequest) _ id fun _ => rfl).bind_quiet
    fun _ => follows_tell_bind (follows_pure _ _))

/-- The step that writes the file makes one call. -/
theorem follows_writeFirst :
    Follows Stop.entering plan.writeFirst (.ofStep .firstWriteDone [plan.writeCall]) :=
  follows_step ((follows_runTrimmed _ _).bind_quiet fun _ => follows_pure _ _)

/-- The step that reads the file in the first sandbox inspects its mount. -/
theorem follows_readFirst :
    Follows Stop.entering plan.readFirst
      (.ofStep .firstReadVerified
        (plan.inspection plan.names.firstSandbox plan.firstMount false)) :=
  follows_step ((plan.follows_inspect _ _ _).bind_quiet fun _ =>
    follows_tell_bind (follows_pure _ _))

/-- The step that reads the file in the second sandbox inspects its mount. -/
theorem follows_readSecond :
    Follows Stop.entering plan.readSecond
      (.ofStep .secondReadVerified
        (plan.inspection plan.names.secondSandbox plan.secondMount true)) :=
  follows_step ((plan.follows_inspect _ _ _).bind_quiet fun _ =>
    follows_tell_bind (follows_pure _ _))

/-- The steps before the wait keep to their course. -/
theorem follows_outward :
    Follows Stop.entering
      (do plan.createVolume; plan.createFirst; plan.writeFirst; plan.readFirst; plan.deleteFirst)
      plan.outward := by
  refine plan.follows_createVolume.bind fun _ => (follows_step ?_).bind fun _ =>
    plan.follows_writeFirst.bind fun _ => plan.follows_readFirst.bind fun _ => follows_step ?_
  · exact plan.follows_createSandbox _ _
  · exact follows_require (c := .deleteSandbox plan.names.firstSandbox) _ id fun _ => rfl

/-- The steps after the wait keep to their course. -/
theorem follows_homeward :
    Follows Stop.entering (do plan.createSecond; plan.readSecond) plan.homeward :=
  (follows_step (plan.follows_createSandbox _ _)).bind fun _ => plan.follows_readSecond

variable {σ : Type} {p : Platform σ} {s : σ}

/-- What the step of the wait comes to, by what the wait ends with. -/
def afterWait : Except Crash Bool → Except Stop Unit
  | .ok true => .ok ()
  | .ok false => .error ⟨.firstDeletionConfirmed, .failed
      ("timeout waiting for sandbox " ++ plan.names.firstSandbox ++ " deletion to complete")⟩
  | .error crash => .error ⟨.firstDeletionConfirmed, .crashed crash⟩

/-- **The step of the wait** makes the lookups of the wait and comes to what that ends with. -/
theorem leads_awaitFirstGone :
    Leads p plan.awaitFirstGone s fun ws v _ => ∃ w,
      plan.policy.Waits plan.names.firstSandbox plan.policy.maxAttempts.toNat ws w ∧
        v = plan.afterWait w := by
  refine leads_step.mpr (leads_bind.mpr (Work.leads_ofRoutine.mpr ?_))
  refine (plan.policy.leads_await plan.names.firstSandbox).mono fun ws w s' hw => ?_
  cases w with
  | error crash => exact ⟨.error crash, hw, rfl⟩
  | ok gone =>
    rw [← List.append_nil ws] at hw
    cases gone with
    | false => exact ⟨.ok false, hw, rfl⟩
    | true => exact ⟨.ok true, hw, rfl⟩

/-- The steps of a check are those before the wait, the wait and those after it. -/
theorem steps_eq :
    plan.steps = (do
      (do plan.createVolume; plan.createFirst; plan.writeFirst; plan.readFirst; plan.deleteFirst)
      plan.awaitFirstGone
      plan.createSecond; plan.readSecond) := by
  simp [steps]

/-- The verdict on what the steps of a check ended with. -/
def verdict : Except Stop String → Verdict
  | .ok read => ⟨plan.compare read, .compared⟩
  | .error stop => ⟨.aborted stop.reached stop.cause.text, stop.reached⟩

/-- **A check is judged by what its steps end with**, and the verdict costs no call. -/
theorem run_judge (p : Platform σ) (s : σ) :
    let r := plan.judge.run p s
    Leads p plan.steps s fun xs v s' =>
      r.trace.exchanges = xs ∧ r.value = plan.verdict v ∧ r.state = s' := by
  simp only [Leads, judge, Script.run_bind]
  cases (plan.steps.run.run p s).value <;> simp [Script.run, Run.after, verdict]

/-- The steps of a check leave a trail. -/
theorem leads_steps :
    Leads p plan.steps s fun xs v _ =>
      ∃ lookups, plan.Trail lookups xs (plan.verdict v).reached := by
  rw [steps_eq]
  refine leads_bind.mpr ((plan.follows_outward σ p s).mono fun xs v s₁ hv => ?_)
  cases v with
  | error stop => exact ⟨0, .cutOutward hv⟩
  | ok _ =>
    -- the wait is not part of a course: how it ends decides which trail is left
    refine leads_bind.mpr (plan.leads_awaitFirstGone.mono fun ws v s₂ hw => ?_)
    obtain ⟨w, hw, rfl⟩ := hw
    match w with
    | .error crash => exact ⟨_, .waitCrashed hv hw⟩
    | .ok false => exact ⟨_, .timedOut hv hw⟩
    | .ok true =>
      refine (plan.follows_homeward σ p s₂).mono fun ys v _ hy => ?_
      rw [← List.append_assoc]
      cases v with
      | error stop => exact ⟨_, .cutHomeward hv hw hy⟩
      | ok read => exact ⟨_, .completed hv hw hy⟩

/-- **Every run of a check leaves a trail.** -/
theorem trail_judge (p : Platform σ) (s : σ) :
    let r := plan.judge.run p s
    ∃ lookups, plan.Trail lookups r.trace.exchanges r.value.reached := by
  obtain ⟨hxs, hv, -⟩ := plan.run_judge p s
  simp only [hxs, hv]
  exact plan.leads_steps

/-! ### What a trail says of the calls -/

variable {plan} {lookups : Nat} {xs : List Exchange} {stage : Stage}

/-- The calls of a trail are the beginning of those of a course whose wait keeps to its
budget. -/
theorem Trail.calls_isPrefix (h : plan.Trail lookups xs stage) :
    lookups ≤ plan.policy.maxAttempts.toNat ∧
      xs.map (·.call) <+: (plan.course lookups).calls := by
  cases h with
  | cutOutward cut =>
    exact ⟨Nat.zero_le _, cut.calls_isPrefix.trans ⟨plan.homeward.calls, by simp [course, waiting]⟩⟩
  | waitCrashed made wait =>
    refine ⟨wait.calls_eq.1, plan.homeward.calls, ?_⟩
    simp [course, waiting, made.1, wait.calls_eq.2]
  | timedOut made wait =>
    refine ⟨wait.calls_eq.1, plan.homeward.calls, ?_⟩
    simp [course, waiting, made.1, wait.calls_eq.2]
  | cutHomeward made wait cut =>
    obtain ⟨left, hleft⟩ := cut.calls_isPrefix
    refine ⟨wait.calls_eq.1, left, ?_⟩
    simp [course, waiting, made.1, wait.calls_eq.2, ← hleft]
  | completed made wait rest =>
    refine ⟨wait.calls_eq.1, [], ?_⟩
    simp [course, waiting, made.1, wait.calls_eq.2, rest.1]

/-! ### What is done only once

A call that changes something has one place in a course, and a course is gone through once:
the calls of a check that change something are the beginning of five. -/

variable (plan) in
/-- Whether a call creates or deletes something or writes the file. -/
def isMutation : Call → Bool
  | .createVolume _ | .deleteVolume _ | .createSandbox _ | .deleteSandbox _ => true
  | .getSandbox _ => false
  | .exec _ command =>
    command = (Command.write plan.content (filePath plan.firstMount plan.fileName)).text

variable (plan) in
/-- **The calls of a check that change something**, in order. -/
def mutations : List Call :=
  [ .createVolume plan.volumeRequest,
    .createSandbox plan.firstRequest,
    plan.writeCall,
    .deleteSandbox plan.names.firstSandbox,
    .createSandbox plan.secondRequest ]

theorem filter_regionLookup (sandbox : String) :
    (plan.regionLookup sandbox).filter plan.isMutation = [] := by
  unfold regionLookup
  cases plan.region <;> rfl

theorem filter_inspection (sandbox mount : String) (identity : Bool) :
    (plan.inspection sandbox mount identity).filter plan.isMutation = [] := by
  rw [List.filter_eq_nil_iff]
  intro c hc
  obtain ⟨command, hcommand, rfl⟩ := List.mem_map.mp hc
  have hread : ∀ content path, command ≠ .write content path := by
    rintro content path rfl
    cases identity <;> simp at hcommand
  simpa [isMutation] using Command.text_ne_write hread

theorem filter_course (lookups : Nat) :
    (plan.course lookups).calls.filter plan.isMutation = plan.mutations := by
  simp [course, outward, waiting, homeward, List.filter_cons, filter_regionLookup,
    filter_inspection, mutations, isMutation, writeCall]

/-- Each sandbox is asked for with the one specification of the plan, but for the path at
which it mounts the volume. -/
theorem spec_of_mem_mutations {request : SandboxRequest}
    (h : .createSandbox request ∈ plan.mutations) :
    ∃ mount ∈ [plan.firstMount, plan.secondMount],
      request.spec =
        { region := plan.region
          runtime := { image := plan.image, memory := some plan.memory }
          volumes :=
            [{ volume := plan.names.volume, mountPath := mount, readOnly := false }] } := by
  have hrequest : request = plan.firstRequest ∨ request = plan.secondRequest := by
    simpa [mutations, writeCall] using h
  obtain rfl | rfl := hrequest
  · exact ⟨plan.firstMount, by simp, rfl⟩
  · exact ⟨plan.secondMount, by simp, rfl⟩

/-- **A check keeps to its course**, on every platform. Its calls are the beginning of the
course; they are all of it unless one does not succeed, which is then the last, or the wait
ends without an absence. Each of the calls that change something is made at most once, and both
sandboxes are asked for with one specification, but for the path of the mount. -/
theorem judge_keeps_to_course (plan : Plan) (p : Platform σ) (s : σ) :
    let r := plan.judge.run p s
    ∃ lookups ≤ plan.policy.maxAttempts.toNat,
      r.trace.calls <+: (plan.course lookups).calls ∧
      plan.Trail lookups r.trace.exchanges r.value.reached ∧
      r.trace.calls.filter plan.isMutation <+: plan.mutations ∧
      ∀ request, .createSandbox request ∈ r.trace.calls →
        ∃ mount ∈ [plan.firstMount, plan.secondMount],
          request.spec =
            { region := plan.region
              runtime := { image := plan.image, memory := some plan.memory }
              volumes :=
                [{ volume := plan.names.volume, mountPath := mount, readOnly := false }] } := by
  intro r
  obtain ⟨lookups, htrail⟩ := plan.trail_judge p s
  obtain ⟨hbudget, hcalls⟩ := htrail.calls_isPrefix
  rw [← Trace.calls_eq_map] at hcalls
  have hmutations : r.trace.calls.filter plan.isMutation <+: plan.mutations := by
    simpa [filter_course] using hcalls.filter plan.isMutation
  refine ⟨lookups, hbudget, hcalls, htrail, hmutations, fun request hrequest => ?_⟩
  exact spec_of_mem_mutations (hmutations.subset (List.mem_filter.mpr ⟨hrequest, rfl⟩))

end Plan

end RemountCheck
