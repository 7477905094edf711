import RemountCheck.Proofs.Leftovers

/-!
# Checks that run at the same time

Two checks may run on one platform at the same time, each making its calls when it gets to them.
On a platform in memory they do not notice each other if their names differ: whatever the order
of their calls, each gets the replies that it would get alone, and the platform ends in one and
the same state.

* `RemountCheck.Script.Step` – one step of a script;
* `RemountCheck.Interleaving` – two scripts on one platform, whose steps are taken in any order;
* `RemountCheck.Memory.Mirrors` – a shared state that, for one of the two, is as good as the one
  that it would be in alone;
* `RemountCheck.Memory.eq_alone_of_interleaving` – what an interleaving comes to;
* `RemountCheck.Plan.checks_do_not_interfere` – two checks under different suffixes.

| a step of | to the one itself | to the other |
|---|---|---|
| a script within its territory | the same reply, and a mirror again | nothing |

Lookups that are to fail would be used up by both: the platform must not be set up with any.
-/

namespace RemountCheck

/-! ### Scripts step by step -/

section Steps

variable {σ α β : Type}

/-- **One step of a script**: a call with its reply, an event or a pause. -/
inductive Script.Step (p : Platform σ) : Script α → σ → List Exchange → Script α → σ → Prop where
  | call (c : Call) (next : Reply c → Script α) (s : σ) :
    Step p (.call c next) s [⟨c, (p.reply c s).1⟩] (next (p.reply c s).1) (p.next c s)
  | log (event : Log.Event) (next : Script α) (s : σ) : Step p (.log event next) s [] next s
  | pause (ms : UInt64) (next : Script α) (s : σ) : Step p (.pause ms next) s [] next s

/-- **Two scripts on one platform**, whose steps are taken in any order: what each of them
exchanges with the platform and ends with, and the state that both leave. -/
inductive Interleaving (p : Platform σ) :
    Script α → Script β → σ → List Exchange → α → List Exchange → β → σ → Prop where
  /-- Both have ended. -/
  | ended (a : α) (b : β) (s : σ) : Interleaving p (.done a) (.done b) s [] a [] b s
  /-- The first takes a step. -/
  | first {x x' : Script α} {y : Script β} {s s' t : σ} {es xs ys : List Exchange} {a : α} {b : β}
    (step : x.Step p s es x' s') (rest : Interleaving p x' y s' xs a ys b t) :
    Interleaving p x y s (es ++ xs) a ys b t
  /-- The second takes a step. -/
  | second {x : Script α} {y y' : Script β} {s s' t : σ} {es xs ys : List Exchange} {a : α} {b : β}
    (step : y.Step p s es y' s') (rest : Interleaving p x y' s' xs a ys b t) :
    Interleaving p x y s xs a (es ++ ys) b t

variable {p : Platform σ} {s s' : σ}

/-- A script runs as its first step and then the rest. -/
theorem Script.Step.run_eq {x x' : Script α} {es : List Exchange} (h : x.Step p s es x' s') :
    (x.run p s).trace.exchanges = es ++ (x'.run p s').trace.exchanges ∧
      (x.run p s).value = (x'.run p s').value ∧ (x.run p s).state = (x'.run p s').state := by
  cases h with
  | call c next => exact ⟨rfl, rfl, rfl⟩
  | log event next => exact ⟨rfl, rfl, rfl⟩
  | pause ms next => exact ⟨rfl, rfl, rfl⟩

/-- One order is always possible: all of the first script, and then all of the second. -/
theorem interleaving_run (p : Platform σ) (x : Script α) (y : Script β) (s : σ) :
    let first := x.run p s
    let second := y.run p first.state
    Interleaving p x y s first.trace.exchanges first.value second.trace.exchanges second.value
      second.state := by
  induction x generalizing s with
  | done a =>
    induction y generalizing s with
    | done b => exact .ended a b s
    | call c next ih => exact .second (.call c next s) (ih _ _)
    | log event next ih => exact .second (.log event next s) (ih s)
    | pause ms next ih => exact .second (.pause ms next s) (ih s)
  | call c next ih => exact .first (.call c next s) (ih _ _)
  | log event next ih => exact .first (.log event next s) (ih s)
  | pause ms next ih => exact .first (.pause ms next s) (ih s)

end Steps

/-! ### Mirrors -/

/-- Two territories have no name in common. -/
structure Territory.Apart (t u : Territory) : Prop where
  sandboxes : ∀ name, t.sandboxes name → ¬u.sandboxes name
  volumes : ∀ name, t.volumes name → ¬u.volumes name

theorem Territory.Apart.symm {t u : Territory} (h : t.Apart u) : u.Apart t :=
  ⟨fun name hu ht => h.sandboxes name ht hu, fun name hu ht => h.volumes name ht hu⟩

/-- The names of neither of two territories. -/
def Territory.neither (t u : Territory) : Territory where
  sandboxes name := ¬t.sandboxes name ∧ ¬u.sandboxes name
  volumes name := ¬t.volumes name ∧ ¬u.volumes name

namespace Memory

/-- **A shared state mirrors another** in a territory: there the two agree, the sandboxes there
mount only what is there, and no lookup is to fail in either. -/
structure Mirrors (t : Territory) (s alone : State) : Prop where
  agree : s.AgreeOn t alone
  confined : alone.Confined t
  settled : s.transientLookups = 0
  settled_alone : alone.transientLookups = 0

section Mirrors

variable {faults : Faults} {t u : Territory} {s s' alone other : State}

/-- A call within a territory has the same reply in both states, and leaves a mirror. -/
theorem Mirrors.next (h : Mirrors t s alone) {c : Call} (hc : c.Within t) :
    ((platform faults).reply c s).1 = ((platform faults).reply c alone).1 ∧
      Mirrors t ((platform faults).next c s) ((platform faults).next c alone) := by
  have hpending := h.settled.trans h.settled_alone.symm
  obtain ⟨hreply, hagree⟩ := reply_local faults h.agree hpending (h.agree.confined h.confined) hc
  exact ⟨hreply, hagree, confined_next h.confined hc, transientLookups_next h.settled c,
    transientLookups_next h.settled_alone c⟩

/-- A call of another territory leaves a mirror as it is. -/
theorem Mirrors.next_other (h : Mirrors t s alone) (hother : Mirrors u s other)
    (hapart : t.Apart u) {c : Call} (hc : c.Within u) :
    Mirrors t ((platform faults).next c s) alone := by
  have hkept := agreeOn_outside_next faults (hother.agree.confined hother.confined) hc
  refine ⟨⟨fun name hname => ?_, fun name hname => ?_⟩, h.confined,
    transientLookups_next h.settled c, h.settled_alone⟩
  · rw [← hkept.sandboxes name (hapart.sandboxes name hname)]
    exact h.agree.sandboxes name hname
  · rw [← hkept.volumes name (hapart.volumes name hname)]
    exact h.agree.volumes name hname

/-- **A script takes the same step in both states**, if it keeps to its territory when it runs
alone, and leaves a mirror. -/
theorem Mirrors.step {α : Type} (h : Mirrors t s alone) {x x' : Script α} {es : List Exchange}
    (hstep : x.Step (platform faults) s es x' s')
    (hwithin : ∀ e ∈ (x.run (platform faults) alone).trace.exchanges, e.call.Within t) :
    ∃ alone', x.Step (platform faults) alone es x' alone' ∧ Mirrors t s' alone' ∧
      ∀ e ∈ es, e.call.Within t := by
  cases hstep with
  | call c next =>
    have hc : c.Within t := hwithin _ List.mem_cons_self
    obtain ⟨hreply, hnext⟩ := h.next hc
    rw [hreply]
    exact ⟨_, .call c next alone, hnext, by simpa using hc⟩
  | log event next => exact ⟨alone, .log event x' alone, h, by simp⟩
  | pause ms next => exact ⟨alone, .pause ms x' alone, h, by simp⟩

/-- A step of a script of another territory leaves a mirror as it is. -/
theorem Mirrors.step_other {α : Type} (h : Mirrors t s alone) (hother : Mirrors u s other)
    (hapart : t.Apart u) {x x' : Script α} {es : List Exchange}
    (hstep : x.Step (platform faults) s es x' s') (hwithin : ∀ e ∈ es, e.call.Within u) :
    Mirrors t s' alone := by
  cases hstep with
  | call c next => exact h.next_other hother hapart (by simpa using hwithin)
  | log event next => exact h
  | pause ms next => exact h

theorem State.AgreeOn.neither_left (h : s.AgreeOn t.outside s') (u : Territory) :
    s.AgreeOn (t.neither u) s' :=
  ⟨fun name hname => h.sandboxes name hname.1, fun name hname => h.volumes name hname.1⟩

theorem State.AgreeOn.neither_right (h : s.AgreeOn u.outside s') (t : Territory) :
    s.AgreeOn (t.neither u) s' :=
  ⟨fun name hname => h.sandboxes name hname.2, fun name hname => h.volumes name hname.2⟩

/-- A step of a script changes nothing outside of its territory. -/
theorem Mirrors.agreeOn_outside {α : Type} (h : Mirrors t s alone) {x x' : Script α}
    {es : List Exchange} (hstep : x.Step (platform faults) s es x' s')
    (hwithin : ∀ e ∈ es, e.call.Within t) : s.AgreeOn t.outside s' := by
  cases hstep with
  | call c next =>
    exact agreeOn_outside_next faults (h.agree.confined h.confined) (by simpa using hwithin)
  | log event next => exact .refl _ _
  | pause ms next => exact .refl _ _

end Mirrors

/-! ### What an interleaving comes to -/

section Alone

variable {α β : Type} {faults : Faults} {t u : Territory} {s s' s₁ s₂ : State} {x : Script α}
  {y : Script β} {xs ys : List Exchange} {a : α} {b : β}

/-- **What an interleaving comes to**, if both scripts keep to territories that have no name in
common: each of them exchanges with the platform what it would alone, and ends with the same
value; and the state in the end is for each what it would be alone, and elsewhere what it was. -/
theorem eq_alone_of_interleaving
    (h : Interleaving (platform faults) x y s xs a ys b s') (hapart : t.Apart u)
    (hx : Mirrors t s s₁) (hy : Mirrors u s s₂)
    (hwithin : ∀ e ∈ (x.run (platform faults) s₁).trace.exchanges, e.call.Within t)
    (hwithin' : ∀ e ∈ (y.run (platform faults) s₂).trace.exchanges, e.call.Within u) :
    let first := x.run (platform faults) s₁
    let second := y.run (platform faults) s₂
    (xs = first.trace.exchanges ∧ a = first.value) ∧
      (ys = second.trace.exchanges ∧ b = second.value) ∧
      s'.AgreeOn t first.state ∧ s'.AgreeOn u second.state ∧
      s.AgreeOn (t.neither u) s' := by
  induction h generalizing s₁ s₂ with
  | ended a b s => exact ⟨⟨rfl, rfl⟩, ⟨rfl, rfl⟩, hx.agree, hy.agree, .refl _ _⟩
  | first step rest ih =>
    obtain ⟨s₁', hstep, hx', hes⟩ := hx.step step hwithin
    obtain ⟨htrace, hvalue, hstate⟩ := hstep.run_eq
    rw [htrace] at hwithin
    obtain ⟨⟨rfl, rfl⟩, hsecond, hagree, hagree', hrest⟩ := ih hx'
      (hy.step_other hx hapart.symm step hes) (fun e he => hwithin e (List.mem_append_right _ he))
      hwithin'
    refine ⟨⟨htrace.symm, hvalue.symm⟩, hsecond, hstate ▸ hagree, hagree', .trans ?_ hrest⟩
    exact (hx.agreeOn_outside step hes).neither_left u
  | second step rest ih =>
    obtain ⟨s₂', hstep, hy', hes⟩ := hy.step step hwithin'
    obtain ⟨htrace, hvalue, hstate⟩ := hstep.run_eq
    rw [htrace] at hwithin'
    obtain ⟨hfirst, ⟨rfl, rfl⟩, hagree, hagree', hrest⟩ := ih
      (hx.step_other hy hapart step hes) hy' hwithin
      (fun e he => hwithin' e (List.mem_append_right _ he))
    refine ⟨hfirst, ⟨htrace.symm, hvalue.symm⟩, hagree, hstate ▸ hagree', .trans ?_ hrest⟩
    exact (hy.agreeOn_outside step hes).neither_right t

/-- States that agree everywhere have the same sandboxes and volumes. -/
theorem eq_of_agreeOn {s' : State} (ht : s.AgreeOn t s') (hu : s.AgreeOn u s')
    (hneither : s.AgreeOn (t.neither u) s') :
    s.volumes = s'.volumes ∧ s.sandboxes = s'.sandboxes := by
  constructor
  · refine Std.ExtTreeMap.ext_getElem? fun name => ?_
    by_cases hname : t.volumes name
    · exact ht.volumes name hname
    · by_cases hname' : u.volumes name
      · exact hu.volumes name hname'
      · exact hneither.volumes name ⟨hname, hname'⟩
  · refine Std.ExtTreeMap.ext_getElem? fun name => ?_
    by_cases hname : t.sandboxes name
    · exact ht.sandboxes name hname
    · by_cases hname' : u.sandboxes name
      · exact hu.sandboxes name hname'
      · exact hneither.sandboxes name ⟨hname, hname'⟩

/-- At the start every state mirrors itself, as a platform is set up with sandboxes that mount
nothing. -/
theorem mirrors_start (t : Territory) (existing : List String) :
    Mirrors t (.start existing 0) (.start existing 0) := by
  refine ⟨.refl _ _, fun name r _ hr b hb => ?_, transientLookups_withSandboxes existing _,
    transientLookups_withSandboxes existing _⟩
  exact absurd ⟨r, hr, b, hb, rfl⟩ (not_holds_start existing 0 name)

end Alone

end Memory

/-! ### Two checks -/

/-- **Names tell their suffix**, whatever comes before it. -/
theorem Names.append_suffix_inj {name suffix suffix' : String}
    (h : name ++ "-" ++ suffix = name ++ "-" ++ suffix') : suffix = suffix' := by
  have h := congrArg String.toList h
  simp only [String.toList_append, List.append_cancel_left_eq] at h
  exact String.toList_inj.mp h

/-- The name of a first sandbox is not that of a second. -/
theorem Names.withSuffix_firstSandbox_ne (suffix suffix' : String) :
    (withSuffix suffix).firstSandbox ≠ (withSuffix suffix').secondSandbox := by
  intro heq
  have h := congrArg (fun name : String => name.toList.head?) heq
  simp [withSuffix, fixed] at h

namespace Plan

open Memory

variable {plan₁ plan₂ : Plan} {suffix₁ suffix₂ : String}

/-- Checks under different suffixes have no name in common. -/
theorem apart_of_withSuffix (hsuffix : suffix₁ ≠ suffix₂)
    (h₁ : plan₁.names = .withSuffix suffix₁) (h₂ : plan₂.names = .withSuffix suffix₂) :
    plan₁.territory.Apart plan₂.territory := by
  have hfirst : (Names.withSuffix suffix₁).firstSandbox ≠ (Names.withSuffix suffix₂).firstSandbox :=
    fun heq => hsuffix (Names.append_suffix_inj heq)
  have hsecond :
      (Names.withSuffix suffix₁).secondSandbox ≠ (Names.withSuffix suffix₂).secondSandbox :=
    fun heq => hsuffix (Names.append_suffix_inj heq)
  have hvolume : (Names.withSuffix suffix₁).volume ≠ (Names.withSuffix suffix₂).volume :=
    fun heq => hsuffix (Names.append_suffix_inj heq)
  constructor
  · rintro name hname hname'
    simp only [territory, h₁, h₂] at hname hname'
    obtain rfl | rfl := hname
    · exact hname'.elim hfirst (Names.withSuffix_firstSandbox_ne _ _)
    · exact hname'.elim (Names.withSuffix_firstSandbox_ne _ _).symm hsecond
  · rintro name hname hname'
    simp only [territory, h₁, h₂] at hname hname'
    exact hvolume (hname.symm.trans hname')

/-- **Checks under different suffixes do not interfere.** On a platform in memory, as it is set up,
with any faults but no lookups that are to fail, and in whatever order the calls of both are
made: each check gets the replies that it gets alone and ends with the report that it ends with
alone; and the platform ends with the volumes and sandboxes that it ends with when one check
follows the other. -/
theorem checks_do_not_interfere (plan₁ plan₂ : Plan) (faults : Faults) (existing : List String)
    (hsuffix : suffix₁ ≠ suffix₂) (h₁ : plan₁.names = .withSuffix suffix₁)
    (h₂ : plan₂.names = .withSuffix suffix₂) :
    let p := platform faults
    let start : State := .start existing 0
    let alone₁ := plan₁.check.runOn p start
    let alone₂ := plan₂.check.runOn p start
    let sequence := plan₂.check.runOn p alone₁.state
    ∃ report₁ report₂, alone₁.value = .ok report₁ ∧ alone₂.value = .ok report₂ ∧
      ∀ {xs ys : List Exchange} {a b : Except Crash Report} {s : State},
        Interleaving p plan₁.check.run plan₂.check.run start xs a ys b s →
          xs = alone₁.trace.exchanges ∧ a = .ok report₁ ∧
          ys = alone₂.trace.exchanges ∧ b = .ok report₂ ∧
          s.volumes = sequence.state.volumes ∧ s.sandboxes = sequence.state.sandboxes := by
  intro p start alone₁ alone₂ sequence
  obtain ⟨report₁, hreport₁⟩ := plan₁.exists_report faults start
  obtain ⟨report₂, hreport₂⟩ := plan₂.exists_report faults start
  have happly {xs ys : List Exchange} {a b : Except Crash Report} {s : State}
      (h : Interleaving p plan₁.check.run plan₂.check.run start xs a ys b s) :=
    eq_alone_of_interleaving h (apart_of_withSuffix hsuffix h₁ h₂) (mirrors_start _ existing)
      (mirrors_start _ existing) (plan₁.within_check p start) (plan₂.within_check p start)
  -- that one check follows the other is one of the orders
  obtain ⟨-, -, hagree₁, hagree₂, hneither⟩ :=
    happly (interleaving_run p plan₁.check.run plan₂.check.run start)
  refine ⟨report₁, report₂, hreport₁, hreport₂, fun {xs ys a b s} h => ?_⟩
  obtain ⟨⟨hxs, ha⟩, ⟨hys, hb⟩, hagree₁', hagree₂', hneither'⟩ := happly h
  exact ⟨hxs, ha.trans hreport₁, hys, hb.trans hreport₂,
    eq_of_agreeOn (hagree₁'.trans hagree₁.symm) (hagree₂'.trans hagree₂.symm)
      (hneither'.symm.trans hneither)⟩

/-- One of the checks may find its first sandbox there already, and be crashed by its commands. -/
theorem checks_do_not_interfere_with_one_aborted :
    let plan₁ : Plan := { names := .withSuffix "1", image := "image" }
    let plan₂ : Plan := { names := .withSuffix "2", image := "image" }
    let p := platform { deletionLag := 3, volatile := true, crashingExec := some "whoami" }
    let start : State := .start ["first-sandbox-2"] 0
    let alone₁ := plan₁.check.runOn p start
    let alone₂ := plan₂.check.runOn p start
    let sequence := plan₂.check.runOn p alone₁.state
    "1" ≠ "2" ∧
      ∃ report₁ report₂, alone₁.value = .ok report₁ ∧ alone₂.value = .ok report₂ ∧
        ∀ {xs ys : List Exchange} {a b : Except Crash Report} {s : State},
          Interleaving p plan₁.check.run plan₂.check.run start xs a ys b s →
            xs = alone₁.trace.exchanges ∧ a = .ok report₁ ∧
            ys = alone₂.trace.exchanges ∧ b = .ok report₂ ∧
            s.volumes = sequence.state.volumes ∧ s.sandboxes = sequence.state.sandboxes :=
  ⟨by decide, checks_do_not_interfere _ _ _ _ (by decide) rfl rfl⟩

end Plan

end RemountCheck
