import RemountCheck.Proofs.Course

/-!
# Two runs side by side

What can a platform change about a check by what it answers? This module compares two runs, of
one script or of two, on two platforms. It says when they make the same calls and stop in the
same way.

* `RemountCheck.Exchange.trouble?` – what keeps an exchange from being a success, a failure's
  text or a crash: all of an answer that a script may stop for;
* `RemountCheck.Alike` – exchanges with the same troubles, as far as both lists go;
* `RemountCheck.KeepPace` – scripts that, on any two platforms, make the same calls and stop
  alike as long as the exchanges are alike.

The rules are those of `RemountCheck.Follows`, with a second run beside the first.

| part of the script | what its runs may differ in | lemma |
|---|---|---|
| a call that has to succeed | the answer, if it is a success | `RemountCheck.keepPace_require` |
| one script after another | the values handed on | `RemountCheck.KeepPace.bind` |
| what is only told | everything | `RemountCheck.keepPace_tell_bind` |

So each value that is handed on may be different in the two runs, and still nothing but the
troubles decides how a script goes on. The wait is left out once more: it looks at what the
lookups found.
-/

namespace RemountCheck

/-! ### Troubles -/

/-- The failure that a call was answered with, if it was. A lookup never is. -/
def Call.failure? : (c : Call) → c.Answer → Option Failure
  | .createVolume _, .error failure => some failure
  | .deleteVolume _, .error failure => some failure
  | .createSandbox _, .error failure => some failure
  | .deleteSandbox _, .error failure => some failure
  | .exec _ _, .error failure => some failure
  | _, _ => none

/-- **What keeps an exchange from being a success**: the text of a failure, or a crash. -/
def Exchange.trouble? : Exchange → Option Cause
  | ⟨c, .ok answer⟩ => (c.failure? answer).map fun failure => .failed failure.message
  | ⟨_, .error crash⟩ => some (.crashed crash)

/-- An answer is a success unless it is a failure. -/
theorem Call.isSuccess_eq (c : Call) (answer : c.Answer) :
    c.isSuccess answer = (c.failure? answer).isNone := by
  cases c with
  | getSandbox name => rfl
  | _ => cases answer <;> rfl

/-- An exchange is a success unless there is trouble. -/
theorem Exchange.succeeded_iff {x : Exchange} : x.succeeded = true ↔ x.trouble? = none := by
  obtain ⟨c, reply⟩ := x
  cases reply with
  | error crash => simp [succeeded, trouble?]
  | ok answer => simp [succeeded, trouble?, Call.isSuccess_eq]

/-- **Exchanges are alike** if they have the same troubles, as far as both lists go. -/
def Alike (xs ys : List Exchange) : Prop :=
  ∀ pair ∈ xs.zip ys, pair.1.trouble? = pair.2.trouble?

namespace Alike

variable {xs xs' ys ys' : List Exchange} {x y : Exchange}

@[simp] theorem nil_left : Alike [] ys := by simp [Alike]

@[simp] theorem cons_iff :
    Alike (x :: xs) (y :: ys) ↔ x.trouble? = y.trouble? ∧ Alike xs ys := by
  simp [Alike]

/-- The beginnings of what is alike are alike. -/
theorem left (h : Alike (xs ++ xs') (ys ++ ys')) : Alike xs ys := by
  induction xs generalizing ys with
  | nil => exact nil_left
  | cons x xs ih =>
    cases ys with
    | nil => simp [Alike]
    | cons y ys =>
      rw [List.cons_append, List.cons_append, cons_iff] at h
      exact cons_iff.mpr ⟨h.1, ih h.2⟩

theorem append_left (h : Alike (xs ++ xs') ys) : Alike xs ys := by
  rw [← List.append_nil ys] at h
  exact h.left

theorem left_of_append (h : Alike xs (ys ++ ys')) : Alike xs ys := by
  rw [← List.append_nil xs] at h
  exact h.left

/-- What is alike goes on alike after beginnings of one length. -/
theorem right (h : Alike (xs ++ xs') (ys ++ ys')) (hlen : xs.length = ys.length) :
    Alike xs' ys' := by
  rw [Alike, List.zip_append hlen] at h
  exact fun pair hpair => h pair (List.mem_append_right _ hpair)

end Alike

/-! ### Two runs -/

section Both

variable {σ σ' ε ε' α β γ δ : Type} {p : Platform σ} {p' : Platform σ'} {s : σ} {s' : σ'}

/-- Of two runs side by side either may be looked at first. -/
theorem Leads.comm {x : ExceptT ε Script α} {y : ExceptT ε' Script β}
    {Q : List Exchange → Except ε α → σ → List Exchange → Except ε' β → σ' → Prop}
    (h : Leads p x s fun xs v t => Leads p' y s' fun ys w t' => Q xs v t ys w t') :
    Leads p' y s' fun ys w t' => Leads p x s fun xs v t => Q xs v t ys w t' := h

/-- **One script after another, twice**: each of the first two goes on with its second, or
stops. -/
theorem leads_both_bind {x : ExceptT ε Script α} {f : α → ExceptT ε Script γ}
    {y : ExceptT ε' Script β} {g : β → ExceptT ε' Script δ}
    {Q : List Exchange → Except ε γ → List Exchange → Except ε' δ → Prop}
    (h : Leads p x s fun xs v t => Leads p' y s' fun ys w t' =>
      match v, w with
      | .ok a, .ok b => Leads p (f a) t fun xs' v' _ => Leads p' (g b) t' fun ys' w' _ =>
          Q (xs ++ xs') v' (ys ++ ys') w'
      | .ok a, .error e => Leads p (f a) t fun xs' v' _ => Q (xs ++ xs') v' ys (.error e)
      | .error e, .ok b => Leads p' (g b) t' fun ys' w' _ => Q xs (.error e) (ys ++ ys') w'
      | .error e, .error e' => Q xs (.error e) ys (.error e')) :
    Leads p (x >>= f) s fun xs v _ => Leads p' (y >>= g) s' fun ys w _ => Q xs v ys w := by
  refine leads_bind.mpr (h.mono fun xs v t hv => ?_)
  cases v with
  | error e =>
    refine leads_bind.mpr (hv.mono fun ys w t' hw => ?_)
    cases w with
    | error e' => exact hw
    | ok b => exact hw
  | ok a =>
    refine Leads.comm (leads_bind.mpr (hv.mono fun ys w t' hw => ?_))
    cases w with
    | error e => exact hw
    | ok b => exact hw.comm

end Both

/-! ### Scripts that keep pace -/

section KeepPace

variable {ε α β γ δ : Type}

/-- Two scripts end alike: both with a value, or both with one stop. -/
def EndAlike : Except ε α → Except ε β → Prop
  | .ok _, .ok _ => True
  | .error e, .error e' => e = e'
  | _, _ => False

/-- **Two scripts keep pace**: on any two platforms, if the exchanges of their runs are alike,
then both make the same calls and end alike. -/
def KeepPace (x : ExceptT ε Script α) (y : ExceptT ε Script β) : Prop :=
  ∀ (σ σ' : Type) (p : Platform σ) (p' : Platform σ') (s : σ) (s' : σ'),
    Leads p x s fun xs v _ => Leads p' y s' fun ys w _ =>
      Alike xs ys → xs.map (·.call) = ys.map (·.call) ∧ EndAlike v w

theorem keepPace_pure (a : α) (b : β) :
    KeepPace (pure a : ExceptT ε Script α) (pure b : ExceptT ε Script β) :=
  fun _ _ _ _ _ _ _ => ⟨rfl, trivial⟩

theorem keepPace_throw (e : ε) :
    KeepPace (throw e : ExceptT ε Script α) (throw e : ExceptT ε Script β) :=
  fun _ _ _ _ _ _ _ => ⟨rfl, rfl⟩

/-- **One script after another**: what the first two hand on may differ. -/
theorem KeepPace.bind {x : ExceptT ε Script α} {y : ExceptT ε Script β}
    {f : α → ExceptT ε Script γ} {g : β → ExceptT ε Script δ} (hxy : KeepPace x y)
    (hfg : ∀ a b, KeepPace (f a) (g b)) : KeepPace (x >>= f) (y >>= g) := by
  intro σ σ' p p' s s'
  refine leads_both_bind ((hxy σ σ' p p' s s').mono fun xs v t hv => hv.mono fun ys w t' hw => ?_)
  cases v with
  | error e =>
    cases w with
    | error e' => exact hw
    | ok b => exact fun halike => (hw halike.left_of_append).2.elim
  | ok a =>
    cases w with
    | error e => exact fun halike => (hw halike.append_left).2.elim
    | ok b =>
      refine (hfg a b σ σ' p p' t t').mono fun xs' v' _ hv' => ?_
      refine hv'.mono fun ys' w' _ hw' halike => ?_
      obtain ⟨hcalls, -⟩ := hw halike.left
      obtain ⟨hcalls', hend⟩ := hw' (halike.right (by simpa using congrArg List.length hcalls))
      exact ⟨by simp [hcalls, hcalls'], hend⟩

/-- What is told makes no difference. -/
theorem keepPace_tell_bind {event event' : Log.Event} {f : Unit → Work α} {g : Unit → Work β}
    (h : KeepPace (f ()) (g ())) :
    KeepPace (Work.tell event >>= f) (Work.tell event' >>= g) :=
  fun σ σ' p p' s s' => by simpa using h σ σ' p p' s s'

/-- Where it only matters what is told, each run may go either way. -/
theorem keepPace_tell_either {P Q : Prop} [Decidable P] [Decidable Q]
    {event event' other other' : Log.Event} {f : Unit → Work α} {g : Unit → Work β}
    (h : KeepPace (f ()) (g ())) :
    KeepPace (if P then Work.tell event >>= f else Work.tell other >>= f)
      (if Q then Work.tell event' >>= g else Work.tell other' >>= g) := by
  split
  · split
    · exact keepPace_tell_bind h
    · exact keepPace_tell_bind h
  · split
    · exact keepPace_tell_bind h
    · exact keepPace_tell_bind h

/-- **A call** hands on its answer, of which no more has to be the same than the text of a
failure. -/
theorem keepPace_ask_bind {c : Call} {f g : c.Answer → Work α}
    (h : ∀ a b, (c.failure? a).map (·.message) = (c.failure? b).map (·.message) →
      KeepPace (f a) (g b)) : KeepPace (Work.ask c >>= f) (Work.ask c >>= g) := by
  intro σ σ' p p' s s'
  refine leads_both_bind (Work.leads_ask.mpr (Work.leads_ask.mpr ?_))
  generalize (p.reply c s).1 = reply, p.next c s = t
  generalize (p'.reply c s').1 = reply', p'.next c s' = t'
  -- an answer and a crash are not alike
  have hdiffer {a : c.Answer} {crash : Crash} :
      Exchange.trouble? ⟨c, .ok a⟩ ≠ Exchange.trouble? ⟨c, .error crash⟩ := by
    cases hfailure : c.failure? a <;> simp [Exchange.trouble?, hfailure]
  cases reply with
  | error crash =>
    cases reply' with
    | error crash' => exact fun halike => ⟨rfl, Option.some.inj (Alike.cons_iff.mp halike).1⟩
    | ok b => exact fun halike => absurd (Alike.cons_iff.mp halike).1.symm hdiffer
  | ok a =>
    cases reply' with
    | error crash => exact fun halike => absurd (Alike.cons_iff.mp halike).1 hdiffer
    | ok b =>
      by_cases hmessage : (c.failure? a).map (·.message) = (c.failure? b).map (·.message)
      · refine (h a b hmessage σ σ' p p' t t').mono fun xs v _ hv => ?_
        refine hv.mono fun ys w _ hw halike => ?_
        obtain ⟨hcalls, hend⟩ := hw (Alike.cons_iff.mp halike).2
        exact ⟨by simp [hcalls], hend⟩
      · refine fun halike => absurd ?_ hmessage
        have htrouble := (Alike.cons_iff.mp halike).1
        cases ha : c.failure? a <;> cases hb : c.failure? b <;>
          simp_all [Exchange.trouble?]

/-- **A call that is required to succeed**, of any kind whose answers are values or failures. -/
theorem keepPace_require {c : Call} (doing : String) (toExcept : c.Answer → Except Failure α)
    (h : ∀ answer, c.failure? answer = match toExcept answer with
      | .ok _ => none
      | .error failure => some failure) :
    let required := Work.ask c >>= fun answer =>
      match toExcept answer with
      | .ok value => pure value
      | .error failure => throw (.failed (doing ++ ": " ++ failure.message))
    KeepPace required required := by
  refine keepPace_ask_bind fun a b hmessage => ?_
  rw [h, h] at hmessage
  cases ha : toExcept a with
  | ok value =>
    cases hb : toExcept b with
    | ok value' => exact keepPace_pure _ _
    | error failure => simp [ha, hb] at hmessage
  | error failure =>
    cases hb : toExcept b with
    | ok value => simp [ha, hb] at hmessage
    | error failure' =>
      have hmessage : failure.message = failure'.message := by simpa [ha, hb] using hmessage
      simpa only [hmessage] using keepPace_throw _

/-- What makes no calls makes no difference. -/
theorem KeepPace.bind_quiet {x : ExceptT ε Script α} {f : α → ExceptT ε Script β}
    (hx : KeepPace x x) (hf : ∀ a, Follows (fun _ => .start) (f a) []) :
    KeepPace (x >>= f) (x >>= f) := by
  refine hx.bind fun a b σ σ' p p' s s' => ?_
  refine (hf a σ p s).mono fun xs v _ hv => (hf b σ' p' s').mono fun ys w _ hw _ => ?_
  have hcut {stage : Stage} {zs : List Exchange} : ¬Course.CutAt [] zs stage := by
    rintro ⟨made, left, _, _, heq, -⟩
    simp at heq
  cases v with
  | error e => exact absurd hv hcut
  | ok c =>
    cases w with
    | error e => exact absurd hw hcut
    | ok d => exact ⟨hv.1.trans hw.1.symm, trivial⟩

/-- **A step** stops where its work does. -/
theorem keepPace_step {stage : Stage} {announcement : String}
    {fields : List (String × Log.Value)} {work work' : Work α} (h : KeepPace work work') :
    KeepPace (step stage announcement fields work) (step stage announcement fields work') := by
  intro σ σ' p p' s s'
  refine leads_step.mpr ((h σ σ' p p' s s').mono fun xs v _ hv => ?_)
  refine leads_step.mpr (hv.mono fun ys w _ hw halike => ?_)
  obtain ⟨hcalls, hend⟩ := hw halike
  refine ⟨hcalls, ?_⟩
  cases v with
  | error cause =>
    cases w with
    | error cause' => exact congrArg (Stop.mk stage) hend
    | ok b => exact hend
  | ok a => cases w <;> exact hend

end KeepPace

/-! ### The parts of a check -/

section Parts

theorem keepPace_runCommand (sandbox : String) (command : Command) :
    KeepPace (runCommand sandbox command) (runCommand sandbox command) := by
  refine KeepPace.bind_quiet
    (keepPace_require (c := .exec sandbox command.text) _ id fun answer => ?_) fun output => ?_
  · cases answer <;> rfl
  · split
    · split
      · exact follows_tell_bind (follows_pure _ _)
      · exact follows_pure _ _
    · exact follows_pure _ _

theorem keepPace_runTrimmed (sandbox : String) (command : Command) :
    KeepPace (runTrimmed sandbox command) (runTrimmed sandbox command) :=
  (keepPace_runCommand sandbox command).bind fun _ _ => keepPace_pure _ _

/-- A lookup hands on whatever it finds. -/
theorem keepPace_lookup (sandbox : String) :
    KeepPace (Work.ask (.getSandbox sandbox)) (Work.ask (.getSandbox sandbox)) := by
  simpa using keepPace_require (c := .getSandbox sandbox) "" .ok fun _ => rfl

namespace Plan

variable (plan : Plan)

theorem keepPace_checkRegion (sandbox : String) :
    KeepPace (plan.checkRegion sandbox) (plan.checkRegion sandbox) := by
  unfold checkRegion
  cases plan.region with
  | none => exact keepPace_pure _ _
  | some expected =>
    refine (keepPace_lookup sandbox).bind_quiet fun found => ?_
    cases found with
    | found value =>
      dsimp only
      split
      · exact fun _ _ _ => Course.completed_nil
      · exact fun _ _ _ => Course.completed_nil
    | notFound => exact fun _ _ _ => Course.completed_nil
    | transient error => exact fun _ _ _ => Course.completed_nil

theorem keepPace_createSandbox (name mount : String) :
    KeepPace (plan.createSandbox name mount) (plan.createSandbox name mount) := by
  refine (keepPace_require (c := .createSandbox (plan.sandboxRequest name mount)) _ id
    fun answer => ?_).bind fun _ _ => keepPace_tell_bind (plan.keepPace_checkRegion name)
  cases answer <;> rfl

theorem keepPace_inspect (sandbox mount : String) (identity : Bool) :
    KeepPace (plan.inspect sandbox mount identity) (plan.inspect sandbox mount identity) := by
  refine (keepPace_runTrimmed _ _).bind fun mounts mounts' => ?_
  refine keepPace_tell_either ?_
  refine (keepPace_runTrimmed _ _).bind fun listing listing' => keepPace_tell_bind ?_
  refine (keepPace_runTrimmed _ _).bind fun existence existence' => keepPace_tell_bind ?_
  refine (keepPace_runTrimmed _ _).bind fun details details' => keepPace_tell_bind ?_
  cases identity with
  | false => exact (keepPace_runCommand _ _).bind fun _ _ => keepPace_pure _ _
  | true =>
    exact (keepPace_runTrimmed _ _).bind fun user user' => keepPace_tell_bind
      ((keepPace_runCommand _ _).bind fun _ _ => keepPace_pure _ _)

/-- The steps before the wait keep pace. -/
theorem keepPace_outward :
    let outward : Steps Unit :=
      (do plan.createVolume; plan.createFirst; plan.writeFirst; plan.readFirst; plan.deleteFirst)
    KeepPace outward outward := by
  refine (keepPace_step ?_).bind fun _ _ => (keepPace_step ?_).bind fun _ _ =>
    (keepPace_step ?_).bind fun _ _ => (keepPace_step ?_).bind fun _ _ => keepPace_step ?_
  · refine (keepPace_require (c := .createVolume plan.volumeRequest) _ id fun answer => ?_).bind
      fun _ _ => keepPace_tell_bind (keepPace_pure _ _)
    cases answer <;> rfl
  · exact plan.keepPace_createSandbox _ _
  · exact (keepPace_runTrimmed _ _).bind fun _ _ => keepPace_pure _ _
  · exact (plan.keepPace_inspect _ _ _).bind fun _ _ => keepPace_tell_bind (keepPace_pure _ _)
  · refine keepPace_require (c := .deleteSandbox plan.names.firstSandbox) _ id fun answer => ?_
    cases answer <;> rfl

/-- The steps after the wait keep pace. -/
theorem keepPace_homeward :
    let homeward : Steps String := (do plan.createSecond; plan.readSecond)
    KeepPace homeward homeward :=
  (keepPace_step (plan.keepPace_createSandbox _ _)).bind fun _ _ =>
    keepPace_step ((plan.keepPace_inspect _ _ _).bind fun _ _ =>
      keepPace_tell_bind (keepPace_pure _ _))

end Plan

end Parts

/-! ### The wait -/

namespace Policy

variable (policy : Policy)

/-- Whether an exchange is a lookup that confirms an absence. -/
def confirmedBy : Exchange → Bool
  | ⟨.getSandbox _, .ok found⟩ => policy.confirms found
  | _ => false

/-- **Lookups settle alike** if they confirm the absence at the same places, as far as both
lists go. -/
def SettleAlike (xs ys : List Exchange) : Prop :=
  ∀ pair ∈ xs.zip ys, policy.confirmedBy pair.1 = policy.confirmedBy pair.2

variable {policy} {name : String} {budget : Nat} {xs ys : List Exchange}

theorem LeavesOpen.confirmedBy_eq {x : Exchange} (h : policy.LeavesOpen name x) :
    policy.confirmedBy x = false := by
  obtain ⟨found, rfl, hfound⟩ := h
  exact hfound

@[simp] theorem settleAlike_cons {x y : Exchange} :
    policy.SettleAlike (x :: xs) (y :: ys) ↔
      policy.confirmedBy x = policy.confirmedBy y ∧ policy.SettleAlike xs ys := by
  simp [SettleAlike]

/-- **What a wait ends with is up to the troubles and the findings of its lookups.** -/
theorem Waits.eq_of_alike {v w : Except Crash Bool} (hv : policy.Waits name budget xs v)
    (hw : policy.Waits name budget ys w) (halike : Alike xs ys)
    (hsettle : policy.SettleAlike xs ys) : xs.length = ys.length ∧ v = w := by
  induction xs generalizing ys budget with
  | nil =>
    obtain ⟨rfl, rfl⟩ := hv.of_nil
    cases ys with
    | nil => exact ⟨rfl, hw.of_nil.2.symm⟩
    | cons y ys => simpa using hw.calls_eq.1
  | cons x xs ih =>
    cases ys with
    | nil =>
      obtain ⟨rfl, -⟩ := hw.of_nil
      simpa using hv.calls_eq.1
    | cons y ys =>
      obtain ⟨htrouble, htroubles⟩ := Alike.cons_iff.mp halike
      obtain ⟨hfinding, hfindings⟩ := settleAlike_cons.mp hsettle
      -- a lookup leaves the matter open, settles it or crashes, and the other does the same
      rcases hv.cons_cases with
        ⟨left, rfl, ⟨found, rfl, hfound⟩, hxs⟩ |
          ⟨rfl, ⟨found, rfl, hfound, rfl⟩ | ⟨crash, rfl, rfl⟩⟩
      all_goals rcases hw.cons_cases with
        ⟨left', hleft, ⟨found', rfl, hfound'⟩, hys⟩ |
          ⟨rfl, ⟨found', rfl, hfound', rfl⟩ | ⟨crash', rfl, rfl⟩⟩
      case inl.inl =>
        obtain rfl : left = left' := by omega
        obtain ⟨hlen, hend⟩ := ih hxs hys htroubles hfindings
        exact ⟨congrArg Nat.succ hlen, hend⟩
      case inr.inl.inr.inl => exact ⟨rfl, rfl⟩
      case inr.inr.inr.inr => simpa [Exchange.trouble?] using htrouble
      all_goals simp_all [Exchange.trouble?, Call.failure?, confirmedBy]

end Policy

end RemountCheck
