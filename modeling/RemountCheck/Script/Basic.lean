import RemountCheck.Log
import RemountCheck.Platform.Call

/-!
# Scripts

A script is a program that uses a platform: it makes calls, one after the other, and
goes on according to the reply; it pauses; and it tells what it does. It is a value, a
tree that branches where a reply is awaited, so that it can be run on any platform and
reasoned about for all of them.

* `RemountCheck.Script` – scripts, a monad;
* `RemountCheck.Routine` – scripts that end with the first crash of a call.

`RemountCheck.Script.run` in `RemountCheck.Script.Run` runs a script on a platform.
-/

namespace RemountCheck

/-- **A script** that ends with a value of `α`. -/
inductive Script (α : Type) : Type where
  /-- The end. -/
  | done (value : α)
  /-- A call; the script goes on with its reply. -/
  | call (c : Call) (next : Reply c → Script α)
  /-- An event to tell. -/
  | log (event : Log.Event) (next : Script α)
  /-- A pause in milliseconds. -/
  | pause (ms : UInt64) (next : Script α)

namespace Script

/-! ### The monad -/

/-- One script after another. -/
def bind : Script α → (α → Script β) → Script β
  | done value, f => f value
  | call c next, f => call c fun reply => bind (next reply) f
  | log event next, f => log event (bind next f)
  | pause ms next, f => pause ms (bind next f)

instance : Monad Script where
  pure := done
  bind := bind

@[simp] theorem pure_eq (value : α) : (pure value : Script α) = done value := rfl

@[simp] theorem done_bind (value : α) (f : α → Script β) : done value >>= f = f value := rfl

@[simp] theorem call_bind (c : Call) (next : Reply c → Script α) (f : α → Script β) :
    call c next >>= f = call c fun reply => next reply >>= f := rfl

@[simp] theorem log_bind (event : Log.Event) (next : Script α) (f : α → Script β) :
    log event next >>= f = log event (next >>= f) := rfl

@[simp] theorem pause_bind (ms : UInt64) (next : Script α) (f : α → Script β) :
    pause ms next >>= f = pause ms (next >>= f) := rfl

/-- A script and then its end is that script. -/
theorem bind_done (s : Script α) : s >>= done = s := by
  induction s with
  | done value => rfl
  | call c next ih => rw [call_bind]; exact congrArg (call c) (funext ih)
  | log event next ih => rw [log_bind, ih]
  | pause ms next ih => rw [pause_bind, ih]

/-- Scripts one after another may be grouped either way. -/
theorem bind_assoc (s : Script α) (f : α → Script β) (g : β → Script γ) :
    s >>= f >>= g = s >>= fun a => f a >>= g := by
  induction s with
  | done value => rfl
  | call c next ih => simp only [call_bind]; exact congrArg (call c) (funext ih)
  | log event next ih => simp only [log_bind, ih]
  | pause ms next ih => simp only [pause_bind, ih]

instance : LawfulMonad Script :=
  LawfulMonad.mk' Script bind_done done_bind bind_assoc

end Script

/-! ### Routines -/

/-- **A routine**: a script that ends with the first crash of a call. -/
abbrev Routine := ExceptT Crash Script

namespace Routine

/-- Makes a call and ends with its answer. -/
def ask (c : Call) : Routine c.Answer := ExceptT.mk (.call c .done)

/-- Tells an event. -/
def tell (event : Log.Event) : Routine Unit := ExceptT.mk (.log event (.done (.ok ())))

/-- Pauses for a number of milliseconds. -/
def pause (ms : UInt64) : Routine Unit := ExceptT.mk (.pause ms (.done (.ok ())))

end Routine

end RemountCheck
