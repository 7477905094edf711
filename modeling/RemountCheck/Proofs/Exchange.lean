import RemountCheck.Check.Step
import RemountCheck.Script.Run

/-!
# What a run has to do with its platform

A run meets its platform in calls and replies and in nothing else. This module reads them
off a trace and says what they determine.

* `RemountCheck.Exchange` – a call with its reply, and `RemountCheck.Trace.exchanges`, those of
  a trace;
* `RemountCheck.Platform.after`, `RemountCheck.Platform.exchanges` – the state of a platform after
  some calls, and how it replies to them: every moment of a run is one after a beginning of its
  calls (`RemountCheck.Script.run_state`);
* `RemountCheck.Platform.RepliesWith` – a platform that replies to some calls as it is written.
  A run is determined by the replies to its own calls (`RemountCheck.Script.run_congr`);
* `RemountCheck.Leads` – what the run of a script that may stop leads to.

The events that a script tells and its pauses are left out of `RemountCheck.Leads`: no reply
depends on them. What is proved with it is proved by the rules of the section at the end, one
for each way to build a script, so that no later proof opens a run.
-/

namespace RemountCheck

/-! ### Exchanges -/

/-- Whether an answer is a success. A lookup always is one, whatever it finds. -/
def Call.isSuccess : (c : Call) → c.Answer → Bool
  | .createVolume _, answer => answer.isOk
  | .deleteVolume _, answer => answer.isOk
  | .createSandbox _, answer => answer.isOk
  | .getSandbox _, _ => true
  | .deleteSandbox _, answer => answer.isOk
  | .exec _ _, answer => answer.isOk

/-- **A call with its reply.** -/
structure Exchange where
  call : Call
  reply : Reply call

namespace Exchange

/-- Whether a call was answered with a success. -/
def succeeded : Exchange → Bool
  | ⟨c, .ok answer⟩ => c.isSuccess answer
  | ⟨_, .error _⟩ => false

/-- The crash of a call, if it crashed. -/
def crash? : Exchange → Option Crash
  | ⟨_, .ok _⟩ => none
  | ⟨_, .error crash⟩ => some crash

/-- Whether an exchange is a lookup that failed. -/
def isTransient : Exchange → Bool
  | ⟨.getSandbox _, .ok (.transient _)⟩ => true
  | _ => false

/-- A call that succeeded did not crash. -/
theorem crash?_of_succeeded {x : Exchange} (h : x.succeeded = true) : x.crash? = none := by
  obtain ⟨c, reply⟩ := x
  cases reply with
  | ok answer => rfl
  | error crash => simp [succeeded] at h

end Exchange

namespace Trace

/-- **The exchanges of a trace**, in order. -/
def exchanges (t : Trace) : List Exchange :=
  t.filterMap fun
    | .call c reply _ => some ⟨c, reply⟩
    | _ => none

@[simp] theorem exchanges_nil : exchanges [] = [] := rfl

@[simp] theorem exchanges_call (c : Call) (reply : Reply c) (events : List Log.Event)
    (t : Trace) : exchanges (.call c reply events :: t) = ⟨c, reply⟩ :: exchanges t := rfl

@[simp] theorem exchanges_log (event : Log.Event) (t : Trace) :
    exchanges (.log event :: t) = exchanges t := rfl

@[simp] theorem exchanges_pause (ms : UInt64) (t : Trace) :
    exchanges (.pause ms :: t) = exchanges t := rfl

@[simp] theorem exchanges_append (t u : Trace) :
    exchanges (t ++ u) = exchanges t ++ exchanges u := by
  simp [exchanges]

/-- The calls of a trace are those of its exchanges. -/
theorem calls_eq_map (t : Trace) : t.calls = t.exchanges.map (·.call) := by
  induction t with
  | nil => rfl
  | cons entry t ih => cases entry <;> simp_all [calls, exchanges]

end Trace

/-! ### The states of a platform -/

section Platform

variable {σ : Type} (p : Platform σ)

/-- The state of a platform after a call. -/
def Platform.next (c : Call) (s : σ) : σ := (p.reply c s).2.2

/-- **The state of a platform after some calls**, in order. -/
def Platform.after (cs : List Call) (s : σ) : σ := cs.foldl (fun s c => p.next c s) s

@[simp] theorem Platform.after_nil (s : σ) : p.after [] s = s := rfl

@[simp] theorem Platform.after_cons (c : Call) (cs : List Call) (s : σ) :
    p.after (c :: cs) s = p.after cs (p.next c s) := rfl

@[simp] theorem Platform.after_append (cs ds : List Call) (s : σ) :
    p.after (cs ++ ds) s = p.after ds (p.after cs s) := by
  simp [Platform.after]

/-- **The exchanges of some calls**, made in order. -/
def Platform.exchanges : List Call → σ → List Exchange
  | [], _ => []
  | c :: cs, s => ⟨c, (p.reply c s).1⟩ :: exchanges cs (p.next c s)

@[simp] theorem Platform.exchanges_nil (s : σ) : p.exchanges [] s = [] := rfl

@[simp] theorem Platform.exchanges_cons (c : Call) (cs : List Call) (s : σ) :
    p.exchanges (c :: cs) s = ⟨c, (p.reply c s).1⟩ :: p.exchanges cs (p.next c s) := rfl

/-- **A platform replies as it is written**: to each call, made after those before it, with
the reply that stands beside it. -/
def Platform.RepliesWith : List Exchange → σ → Prop
  | [], _ => True
  | x :: xs, s => (p.reply x.call s).1 = x.reply ∧ RepliesWith xs (p.next x.call s)

/-- The reply to one of several calls is the one of the state after those before it. -/
theorem Platform.RepliesWith.reply_eq {pre : List Exchange} {x : Exchange} {post : List Exchange}
    {s : σ} (h : p.RepliesWith (pre ++ x :: post) s) :
    (p.reply x.call (p.after (pre.map (·.call)) s)).1 = x.reply := by
  induction pre generalizing s with
  | nil => exact h.1
  | cons y pre ih => exact ih h.2

end Platform

/-! ### What the replies determine -/

namespace Script

variable {σ σ' α : Type}

/-- **Every moment of a run is one after a beginning of its calls**; its end is the one after
all of them. -/
theorem run_state (p : Platform σ) (script : Script α) (s : σ) :
    (script.run p s).state = p.after (script.run p s).trace.calls s := by
  induction script generalizing s with
  | done value => rfl
  | call c next ih => exact ih _ _
  | log event next ih => exact ih s
  | pause ms next ih => exact ih s

/-- A run's exchanges are its platform's replies. -/
theorem repliesWith_run (p : Platform σ) (script : Script α) (s : σ) :
    p.RepliesWith (script.run p s).trace.exchanges s := by
  induction script generalizing s with
  | done value => trivial
  | call c next ih => exact ⟨rfl, ih _ _⟩
  | log event next ih => exact ih s
  | pause ms next ih => exact ih s

/-- **A run is determined by the replies to its calls**: a platform that replies to them as
another did is used in the same way and with the same end. -/
theorem run_congr (p : Platform σ) (p' : Platform σ') (script : Script α) (s : σ) (s' : σ')
    (h : p'.RepliesWith (script.run p s).trace.exchanges s') :
    (script.run p' s').trace.exchanges = (script.run p s).trace.exchanges ∧
      (script.run p' s').value = (script.run p s).value := by
  induction script generalizing s s' with
  | done value => exact ⟨rfl, rfl⟩
  | call c next ih =>
    obtain ⟨hreply, hrest⟩ := h
    -- with the same reply, both runs go on in the same branch, each from its own state
    have hreply : (p'.reply c s').1 = (p.reply c s).1 := hreply
    have hrun := ih (p.reply c s).1 _ _ hrest
    simp only [Platform.next] at hrun
    simp only [run, Run.after, Trace.exchanges_call, hreply]
    exact ⟨congrArg _ hrun.1, hrun.2⟩
  | log event next ih => exact ih s s' h
  | pause ms next ih => exact ih s s' h

end Script

/-! ### Scripts that may stop -/

section Leads

variable {σ α β ε ε' : Type} (p : Platform σ)

/-- **What a run leads to**: a property of its exchanges, of the value or the stop that it
ends with and of the state that it leaves. -/
def Leads (x : ExceptT ε Script α) (s : σ) (Q : List Exchange → Except ε α → σ → Prop) : Prop :=
  let r := x.run.run p s
  Q r.trace.exchanges r.value r.state

variable {p} {s : σ}

/-- A run leads to all that follows from what it leads to. -/
theorem Leads.mono {x : ExceptT ε Script α} {Q R : List Exchange → Except ε α → σ → Prop}
    (h : Leads p x s Q) (hQR : ∀ xs v s', Q xs v s' → R xs v s') : Leads p x s R :=
  hQR _ _ _ h

/-- A run leads to what it leads to on both counts. -/
theorem Leads.and {x : ExceptT ε Script α} {Q R : List Exchange → Except ε α → σ → Prop}
    (hQ : Leads p x s Q) (hR : Leads p x s R) :
    Leads p x s fun xs v s' => Q xs v s' ∧ R xs v s' :=
  ⟨hQ, hR⟩

@[simp] theorem leads_pure {a : α} {Q : List Exchange → Except ε α → σ → Prop} :
    Leads p (pure a) s Q ↔ Q [] (.ok a) s := Iff.rfl

@[simp] theorem leads_throw {e : ε} {Q : List Exchange → Except ε α → σ → Prop} :
    Leads p (throw e) s Q ↔ Q [] (.error e) s := Iff.rfl

/-- **One script after another**: where the first stops, so do both; else the second goes on
from the state that the first left. -/
@[simp] theorem leads_bind {x : ExceptT ε Script α} {f : α → ExceptT ε Script β}
    {Q : List Exchange → Except ε β → σ → Prop} :
    Leads p (x >>= f) s Q ↔
      Leads p x s fun xs v s' =>
        match v with
        | .ok a => Leads p (f a) s' fun ys => Q (xs ++ ys)
        | .error e => Q xs (.error e) s' := by
  simp only [Leads, ExceptT.run_bind, Script.run_bind]
  generalize x.run.run p s = r
  obtain ⟨v, t, s'⟩ := r
  cases v with
  | ok a => simp
  | error e => simp [Script.run]

@[simp] theorem leads_map {x : ExceptT ε Script α} {f : α → β}
    {Q : List Exchange → Except ε β → σ → Prop} :
    Leads p (f <$> x) s Q ↔ Leads p x s fun xs v => Q xs (v.map f) := by
  rw [map_eq_pure_bind, leads_bind]
  refine ⟨fun h => h.mono fun xs v s' hv => ?_, fun h => h.mono fun xs v s' hv => ?_⟩ <;>
    cases v <;> simpa [Except.map] using hv

/-- What a script ends with stays, whatever is made of a stop. -/
@[simp] theorem mapError_ok (f : ε → ε') (a : α) :
    (Except.ok a : Except ε α).mapError f = .ok a := rfl

@[simp] theorem mapError_error (f : ε → ε') (e : ε) :
    (Except.error e : Except ε α).mapError f = .error (f e) := rfl

@[simp] theorem leads_adapt {x : ExceptT ε Script α} {f : ε → ε'}
    {Q : List Exchange → Except ε' α → σ → Prop} :
    Leads p (ExceptT.adapt f x) s Q ↔ Leads p x s fun xs v => Q xs (v.mapError f) := by
  have hmap : (ExceptT.adapt f x).run = x.run >>= fun v => .done (v.mapError f) := rfl
  simp [Leads, hmap, Script.run_bind, Script.run]

@[simp] theorem leads_lift {script : Script α} {Q : List Exchange → Except ε α → σ → Prop} :
    Leads p (ExceptT.lift script) s Q ↔
      Q (script.run p s).trace.exchanges (.ok (script.run p s).value) (script.run p s).state := by
  have hmap : (ExceptT.lift (ε := ε) script).run = script >>= fun a => .done (.ok a) := rfl
  simp [Leads, hmap, Script.run_bind, Script.run]

@[simp] theorem Routine.leads_tell {event : Log.Event}
    {Q : List Exchange → Except Crash Unit → σ → Prop} :
    Leads p (Routine.tell event) s Q ↔ Q [] (.ok ()) s := Iff.rfl

@[simp] theorem Routine.leads_pause {ms : UInt64}
    {Q : List Exchange → Except Crash Unit → σ → Prop} :
    Leads p (Routine.pause ms) s Q ↔ Q [] (.ok ()) s := Iff.rfl

@[simp] theorem Routine.leads_ask {c : Call}
    {Q : List Exchange → Except Crash c.Answer → σ → Prop} :
    Leads p (Routine.ask c) s Q ↔ Q [⟨c, (p.reply c s).1⟩] (p.reply c s).1 (p.next c s) := Iff.rfl

@[simp] theorem Work.leads_ofRoutine {routine : Routine α}
    {Q : List Exchange → Except Cause α → σ → Prop} :
    Leads p (Work.ofRoutine routine) s Q ↔
      Leads p routine s fun xs v => Q xs (v.mapError .crashed) := leads_adapt

@[simp] theorem Work.leads_tell {event : Log.Event}
    {Q : List Exchange → Except Cause Unit → σ → Prop} :
    Leads p (Work.tell event) s Q ↔ Q [] (.ok ()) s := Iff.rfl

@[simp] theorem Work.leads_ask {c : Call} {Q : List Exchange → Except Cause c.Answer → σ → Prop} :
    Leads p (Work.ask c) s Q ↔
      Q [⟨c, (p.reply c s).1⟩] ((p.reply c s).1.mapError .crashed) (p.next c s) := Iff.rfl

/-- A step leads to what its work leads to. -/
@[simp] theorem leads_step {stage : Stage} {announcement : String}
    {fields : List (String × Log.Value)} {work : Work α}
    {Q : List Exchange → Except Stop α → σ → Prop} :
    Leads p (step stage announcement fields work) s Q ↔
      Leads p work s fun xs v => Q xs (v.mapError (.mk stage)) := by
  simp [step]

end Leads

end RemountCheck
