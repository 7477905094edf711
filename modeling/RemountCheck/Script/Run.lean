import RemountCheck.Script.Basic

/-!
# Running a script on a platform

A platform is anything that replies to calls: it has a state of some kind, and replies
according to it. Running a script keeps a **trace** of all that happened, in order, from
which calls, events and the time that passed are read off.

* `RemountCheck.Platform` – a platform with states in `σ`;
* `RemountCheck.Script.run` – a script run on a platform;
* `RemountCheck.Script.perform` – a script performed in a monad, where calls, events and pauses
  are whatever they are there: on a platform, that is its run
  (`RemountCheck.Script.perform_run`);
* `RemountCheck.Trace` – what happened, with `Trace.calls`, `Trace.events`,
  `Trace.told`, `Trace.elapsed` and `Trace.timedCalls`.

Time is that of the pauses alone: nothing else takes any.
-/

namespace RemountCheck

/-! ### Platforms -/

/-- **A platform** whose states are in `σ`: to each call it replies, perhaps with events
of its own, and moves to another state. -/
structure Platform (σ : Type) where
  reply : (c : Call) → σ → Reply c × List Log.Event × σ

/-! ### Traces -/

/-- One thing that happened in a run. -/
inductive Entry where
  /-- A call, the platform's reply and the platform's own events. -/
  | call (c : Call) (reply : Reply c) (events : List Log.Event)
  /-- An event that the script told. -/
  | log (event : Log.Event)
  /-- A pause of the script. -/
  | pause (ms : UInt64)

/-- How long an entry took, in milliseconds. -/
def Entry.duration : Entry → Nat
  | .pause ms => ms.toNat
  | _ => 0

/-- What happened in a run, in order. -/
abbrev Trace := List Entry

namespace Trace

/-- The calls that were made. -/
def calls (t : Trace) : List Call :=
  t.filterMap fun
    | .call c _ _ => some c
    | _ => none

/-- All events, those of the platform included. -/
def events (t : Trace) : List Log.Event :=
  t.flatMap fun
    | .call _ _ events => events
    | .log event => [event]
    | .pause _ => []

/-- The events that the script itself told. -/
def told (t : Trace) : List Log.Event :=
  t.filterMap fun
    | .log event => some event
    | _ => none

/-- The time that passed, in milliseconds. -/
def elapsed : Trace → Nat
  | [] => 0
  | entry :: rest => entry.duration + elapsed rest

/-- The calls that were made from a point in time on, each with the time of its making. -/
def timedCallsFrom (now : Nat) : Trace → List (Nat × Call)
  | [] => []
  | .call c _ _ :: rest => (now, c) :: timedCallsFrom now rest
  | entry :: rest => timedCallsFrom (now + entry.duration) rest

/-- The calls that were made, each with the time of its making. -/
def timedCalls (t : Trace) : List (Nat × Call) := timedCallsFrom 0 t

end Trace

/-! ### Runs -/

/-- **What comes of a run**: the value that the script ended with, what happened, and the
state that the platform was left in. -/
structure Run (σ α : Type) where
  value : α
  trace : Trace
  state : σ

/-- The run with one more entry before all others. -/
def Run.after (entry : Entry) (r : Run σ α) : Run σ α := { r with trace := entry :: r.trace }

/-- **Running a script** on a platform from a state of it. -/
def Script.run (p : Platform σ) : Script α → σ → Run σ α
  | .done value, state => ⟨value, [], state⟩
  | .call c next, state =>
    let (reply, events, state) := p.reply c state
    ((next reply).run p state).after (.call c reply events)
  | .log event next, state => (next.run p state).after (.log event)
  | .pause ms next, state => (next.run p state).after (.pause ms)

/-- Running a routine on a platform: a crash takes the place of its value. -/
def Routine.runOn (p : Platform σ) (routine : Routine α) (state : σ) : Run σ (Except Crash α) :=
  Script.run p (ExceptT.run routine) state

namespace Script

/-- **One script after another** runs as the first and then, from the state that it left,
as the second. -/
theorem run_bind (p : Platform σ) (s : Script α) (f : α → Script β) (state : σ) :
    (s >>= f).run p state =
      let first := s.run p state
      let second := (f first.value).run p first.state
      ⟨second.value, first.trace ++ second.trace, second.state⟩ := by
  induction s generalizing state with
  | done value => rfl
  | call c next ih => simp [run, Run.after, ih]
  | log event next ih => simp [run, Run.after, ih]
  | pause ms next ih => simp [run, Run.after, ih]

end Script

/-! ### Performing -/

/-- **What a script is performed by**, in a monad. -/
structure Performer (m : Type → Type) where
  call : (c : Call) → m (Reply c)
  log : Log.Event → m Unit
  pause : UInt64 → m Unit

/-- **Performing a script** in a monad, step by step. -/
def Script.perform [Monad m] (performer : Performer m) : Script α → m α
  | .done value => pure value
  | .call c next => performer.call c >>= fun reply => (next reply).perform performer
  | .log event next => performer.log event >>= fun _ => next.perform performer
  | .pause ms next => performer.pause ms >>= fun _ => next.perform performer

/-- What a platform performs a script by, keeping a trace. -/
def Platform.performer (p : Platform σ) : Performer (StateM (σ × Trace)) where
  call c := fun (state, trace) =>
    let (reply, events, state) := p.reply c state
    (reply, state, trace ++ [.call c reply events])
  log event := modify fun (state, trace) => (state, trace ++ [.log event])
  pause ms := modify fun (state, trace) => (state, trace ++ [.pause ms])

/-- **Running is performing**, with a trace that is kept from the first entry on. -/
theorem Script.perform_run (p : Platform σ) (s : Script α) (state : σ) (trace : Trace) :
    (s.perform p.performer).run (state, trace) =
      let r := s.run p state
      (r.value, r.state, trace ++ r.trace) := by
  induction s generalizing state trace with
  | done value => exact congrArg (fun t => (value, state, t)) (List.append_nil trace).symm
  | call c next ih =>
    have hrest := ih (p.reply c state).1 (p.reply c state).2.2
      (trace ++ [.call c (p.reply c state).1 (p.reply c state).2.1])
    exact hrest.trans (by simp [run, Run.after])
  | log event next ih =>
    have hrest := ih state (trace ++ [.log event])
    exact hrest.trans (by simp [run, Run.after])
  | pause ms next ih =>
    have hrest := ih state (trace ++ [.pause ms])
    exact hrest.trans (by simp [run, Run.after])

end RemountCheck
