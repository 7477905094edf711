import RemountCheck.Check.Run
import RemountCheck.Proofs.Residents
import RemountCheck.Proofs.Shell

/-!
# Runs that succeed

A run may stop at every call. On a platform in memory it can be said when it does not: this module
follows the parts of a check through the state of such a platform, and says of each what it
needs to succeed and what it leaves.

* `RemountCheck.Succeeds` – a script whose run does not stop, with what then holds of its value
  and of the state after it;
* `RemountCheck.Memory.succeeds_runCommand`, `RemountCheck.Memory.succeeds_inspect` – commands in
  a sandbox that is in use;
* `RemountCheck.Memory.succeeds_createSandbox` – a sandbox under a name that is free;
* `RemountCheck.Memory.succeeds_probe` – a wait with enough lookups.

The record of calls grows with every call, and no call reads it. States are therefore compared up
to their records.
-/

namespace RemountCheck

/-! ### Scripts that do not stop -/

section Succeeds

variable {σ α β ε : Type} {p : Platform σ} {s : σ}

/-- **A script succeeds**: its run does not stop, and the value that it ends with and the state
that it leaves have a property. -/
def Succeeds (p : Platform σ) (x : ExceptT ε Script α) (s : σ) (Q : α → σ → Prop) : Prop :=
  Leads p x s fun _ v s' =>
    match v with
    | .ok a => Q a s'
    | .error _ => False

theorem Succeeds.exists_value {x : ExceptT ε Script α} {Q : α → σ → Prop} (h : Succeeds p x s Q) :
    let r := x.run.run p s
    ∃ a, r.value = .ok a ∧ Q a r.state := by
  simp only [Succeeds, Leads] at h
  cases hvalue : (x.run.run p s).value with
  | ok a => exact ⟨a, hvalue, by simpa [hvalue] using h⟩
  | error e => simp [hvalue] at h

theorem Succeeds.mono {x : ExceptT ε Script α} {Q R : α → σ → Prop} (h : Succeeds p x s Q)
    (hQR : ∀ a s', Q a s' → R a s') : Succeeds p x s R := by
  refine Leads.mono h fun _ v s' hv => ?_
  cases v with
  | ok a => exact hQR a s' hv
  | error e => exact hv

theorem succeeds_pure {a : α} {Q : α → σ → Prop} (h : Q a s) :
    Succeeds p (pure a : ExceptT ε Script α) s Q := h

theorem Succeeds.bind {x : ExceptT ε Script α} {f : α → ExceptT ε Script β} {Q : α → σ → Prop}
    {R : β → σ → Prop} (hx : Succeeds p x s Q) (hf : ∀ a s', Q a s' → Succeeds p (f a) s' R) :
    Succeeds p (x >>= f) s R := by
  refine leads_bind.mpr (Leads.mono hx fun _ v s' hv => ?_)
  cases v with
  | ok a => exact hf a s' hv
  | error e => exact hv

theorem Succeeds.ite {P : Prop} [Decidable P] {x y : ExceptT ε Script α} {Q : α → σ → Prop}
    (hx : Succeeds p x s Q) (hy : Succeeds p y s Q) : Succeeds p (if P then x else y) s Q := by
  split
  · exact hx
  · exact hy

/-- What is told changes nothing. -/
theorem Routine.succeeds_tell_bind {event : Log.Event} {f : Unit → Routine β} {R : β → σ → Prop}
    (h : Succeeds p (f ()) s R) : Succeeds p (Routine.tell event >>= f) s R :=
  leads_bind.mpr (Routine.leads_tell.mpr h)

theorem Routine.succeeds_pause_bind {ms : UInt64} {f : Unit → Routine β} {R : β → σ → Prop}
    (h : Succeeds p (f ()) s R) : Succeeds p (Routine.pause ms >>= f) s R :=
  leads_bind.mpr (Routine.leads_pause.mpr h)

theorem Work.succeeds_tell_bind {event : Log.Event} {f : Unit → Work β} {R : β → σ → Prop}
    (h : Succeeds p (f ()) s R) : Succeeds p (Work.tell event >>= f) s R :=
  leads_bind.mpr (Work.leads_tell.mpr h)

theorem Work.succeeds_tell {event : Log.Event} {R : Unit → σ → Prop} (h : R () s) :
    Succeeds p (Work.tell event) s R :=
  Work.leads_tell.mpr h

theorem Work.succeeds_ofRoutine {routine : Routine α} {Q : α → σ → Prop}
    (h : Succeeds p routine s Q) : Succeeds p (Work.ofRoutine routine) s Q := by
  refine Work.leads_ofRoutine.mpr (Leads.mono h fun _ v s' hv => ?_)
  cases v with
  | ok a => exact hv
  | error crash => exact hv

theorem succeeds_step {stage : Stage} {announcement : String} {fields : List (String × Log.Value)}
    {work : Work α} {Q : α → σ → Prop} (h : Succeeds p work s Q) :
    Succeeds p (step stage announcement fields work) s Q := by
  refine leads_step.mpr (Leads.mono h fun _ v s' hv => ?_)
  cases v with
  | ok a => exact hv
  | error cause => exact hv

/-- What is required to succeed, and does, ends with its value. -/
theorem Work.succeeds_require {doing : String} {work : Work (Except Failure α)} {a : α} {s₁ : σ}
    (h : Succeeds p work s fun v s' => v = .ok a ∧ s' = s₁) :
    Succeeds p (Work.require doing work) s fun a' s' => a' = a ∧ s' = s₁ := by
  refine Succeeds.bind h fun v s' hv => ?_
  obtain ⟨rfl, rfl⟩ := hv
  exact succeeds_pure ⟨rfl, rfl⟩

end Succeeds

namespace Memory

variable {faults : Faults} {s : State} {name : String}

/-- A call that does not crash ends with its answer. -/
theorem succeeds_ask {c : Call} {a : c.Answer} {s₁ : State} (hcrash : crash? faults c = none)
    (h : answer faults c (s.recording c) = (a, s₁)) :
    Succeeds (platform faults) (Routine.ask c) s fun a' s' => a' = a ∧ s' = s₁ := by
  have hreply : ((platform faults).reply c s).1 = .ok a := by
    change (reply faults c s).1 = _
    rw [reply, hcrash]
    exact congrArg (Except.ok ·.1) h
  have hnext : (platform faults).next c s = s₁ := by
    rw [next_eq, hcrash]
    exact congrArg Prod.snd h
  refine Routine.leads_ask.mpr ?_
  rw [hreply, hnext]
  exact ⟨rfl, rfl⟩

variable {resident : Resident}

theorem crash?_exec (hcrash : faults.crashingExec = none) (name text : String) :
    crash? faults (.exec name text) = none := by
  simp [crash?, concerns, hcrash]

/-- **A command runs** in a sandbox that is in use, unless commands are told to fail. -/
theorem exec_eq (hexec : faults.failingExec = none) (h : s.sandboxes[name]? = some resident)
    (hlive : resident.deleting = none) (text : String) :
    let run := (Line.ofText text.toList).run s.volumes resident.sandbox.spec.volumes
    exec faults name text s =
      (.ok (.structured
          { logs := some run.1, exitCode := some 0, status := some "completed" }),
        { s with volumes := run.2 }) := by
  obtain ⟨sandbox, deleting⟩ := resident
  obtain rfl : deleting = none := hlive
  simp [exec, concerns, hexec, h]

/-- **A command is answered** with what the shell prints. -/
theorem reply_exec (hexec : faults.failingExec = none) (hcrash : faults.crashingExec = none)
    (h : s.sandboxes[name]? = some resident) (hlive : resident.deleting = none) (text : String) :
    ((platform faults).reply (.exec name text) s).1 =
      .ok (.ok (.structured
        { logs := some ((Line.ofText text.toList).run s.volumes resident.sandbox.spec.volumes).1
          exitCode := some 0, status := some "completed" })) := by
  have hanswer := exec_eq (s := s.recording (.exec name text)) hexec h hlive text
  change (reply faults (.exec name text) s).1 = _
  rw [reply, crash?_exec hcrash]
  exact congrArg (Except.ok ·.1) hanswer

/-- **Running a command** ends with what the shell prints, and leaves the volumes as the shell
does. -/
theorem succeeds_runCommand (command : Command) (hexec : faults.failingExec = none)
    (hcrash : faults.crashingExec = none) (h : s.sandboxes[name]? = some resident)
    (hlive : resident.deleting = none) :
    let run := (Line.ofText command.text.toList).run s.volumes resident.sandbox.spec.volumes
    Succeeds (platform faults) (runCommand name command) s fun output s' =>
      output.raw = run.1 ∧ ∃ record, s' = { s with volumes := run.2, record } := by
  intro run
  have hanswer := exec_eq (s := s.recording (.exec name command.text)) hexec h hlive command.text
  have hask := succeeds_ask (crash?_exec hcrash name command.text) hanswer
  refine (Work.succeeds_require (Work.succeeds_ofRoutine hask)).bind ?_
  rintro output s' ⟨rfl, rfl⟩
  exact succeeds_pure ⟨rfl, _, rfl⟩

theorem succeeds_runTrimmed (command : Command) (hexec : faults.failingExec = none)
    (hcrash : faults.crashingExec = none) (h : s.sandboxes[name]? = some resident)
    (hlive : resident.deleting = none) :
    let run := (Line.ofText command.text.toList).run s.volumes resident.sandbox.spec.volumes
    Succeeds (platform faults) (runTrimmed name command) s fun _ s' =>
      ∃ record, s' = { s with volumes := run.2, record } :=
  (succeeds_runCommand command hexec hcrash h hlive).bind fun _ _ hs' => succeeds_pure hs'.2

/-- A command that is no write changes nothing but the record. -/
theorem succeeds_diagnose {command : Command} (hexec : faults.failingExec = none)
    (hcrash : faults.crashingExec = none) (h : s.sandboxes[name]? = some resident)
    (hlive : resident.deleting = none)
    (hread : ∀ content path, command ≠ .write content path) :
    Succeeds (platform faults) (runTrimmed name command) s fun _ s' =>
      ∃ record, s' = { s with record } := by
  have hrun := succeeds_runTrimmed command hexec hcrash h hlive
  rw [Line.run_eq_output (Line.ofText_text_ne_write hread)] at hrun
  exact hrun

/-- **An inspection** changes nothing but the record, and ends with what the file was written
with, as far as the sandbox can read it. -/
theorem succeeds_inspect (plan : Plan) (mount : String) (identity : Bool)
    (hexec : faults.failingExec = none) (hcrash : faults.crashingExec = none)
    (h : s.sandboxes[name]? = some resident) (hlive : resident.deleting = none) :
    Succeeds (platform faults) (plan.inspect name mount identity) s fun content s' =>
      (∃ record, s' = { s with record }) ∧
        content = writtenContent ((Line.read (filePath mount plan.fileName).toList).output
          s.volumes resident.sandbox.spec.volumes) := by
  have diagnose {command : Command} (hread : ∀ content path, command ≠ .write content path)
      (record : List Call) :
      Succeeds (platform faults) (runTrimmed name command) { s with record } fun _ s' =>
        ∃ record, s' = { s with record } :=
    succeeds_diagnose (s := { s with record }) hexec hcrash h hlive hread
  have final (record : List Call) :
      Succeeds (platform faults)
        (do return writtenContent (← runCommand name (.read (filePath mount plan.fileName))).raw)
        { s with record } fun content s' =>
          (∃ record, s' = { s with record }) ∧
            content = writtenContent ((Line.read (filePath mount plan.fileName).toList).output
              s.volumes resident.sandbox.spec.volumes) := by
    refine (succeeds_runCommand (s := { s with record }) _ hexec hcrash h hlive).bind ?_
    rintro output s' ⟨hraw, record', rfl⟩
    rw [Line.ofText_read] at hraw ⊢
    exact succeeds_pure ⟨⟨record', rfl⟩, by rw [hraw]; rfl⟩
  unfold Plan.inspect
  refine (diagnose (by simp) s.record).bind ?_
  rintro mounts s' ⟨r₁, rfl⟩
  refine .ite (Work.succeeds_tell_bind ?rest) (Work.succeeds_tell_bind ?rest)
  refine (diagnose (by simp) r₁).bind ?_
  rintro listing s' ⟨r₂, rfl⟩
  refine Work.succeeds_tell_bind ((diagnose (by simp) r₂).bind ?_)
  rintro existence s' ⟨r₃, rfl⟩
  refine Work.succeeds_tell_bind ((diagnose (by simp) r₃).bind ?_)
  rintro details s' ⟨r₄, rfl⟩
  refine Work.succeeds_tell_bind ?_
  cases identity with
  | false => exact final r₄
  | true =>
    refine (diagnose (by simp) r₄).bind ?_
    rintro user s' ⟨r₅, rfl⟩
    exact Work.succeeds_tell_bind (final r₅)

/-- A lookup of a sandbox that is in use changes nothing but the record and the number of
lookups that are to fail, which does not grow. -/
theorem succeeds_checkRegion (plan : Plan) (h : s.sandboxes[name]? = some resident)
    (hlive : resident.deleting = none) :
    Succeeds (platform faults) (plan.checkRegion name) s fun _ s' =>
      ∃ record pending, pending ≤ s.transientLookups ∧
        s' = { s with transientLookups := pending, record } := by
  unfold Plan.checkRegion
  cases plan.region with
  | none => exact succeeds_pure ⟨_, _, Nat.le_refl _, rfl⟩
  | some region =>
    obtain ⟨found, pending, hpending, hanswer⟩ : ∃ found pending, pending ≤ s.transientLookups ∧
        getSandbox faults name (s.recording (.getSandbox name)) =
          (found, { s.recording (.getSandbox name) with transientLookups := pending }) := by
      rcases getSandbox_cases faults name (s.recording (.getSandbox name)) with
        ⟨pending, error, hpending, heq⟩ | ⟨-, ⟨hnone, -⟩ | ⟨r, -, -, heq⟩ | ⟨r, hr, hlast, -⟩ |
          ⟨r, left, hr, hlast, -⟩⟩
      · have hpending : s.transientLookups = pending + 1 := hpending
        exact ⟨_, pending, by omega, heq⟩
      · cases h.symm.trans hnone
      · exact ⟨_, s.transientLookups, Nat.le_refl _, heq⟩
      · cases h.symm.trans hr
        cases hlive.symm.trans hlast
      · cases h.symm.trans hr
        cases hlive.symm.trans hlast
    refine (Work.succeeds_ofRoutine (succeeds_ask (c := .getSandbox name) rfl hanswer)).bind ?_
    rintro _ s' ⟨rfl, rfl⟩
    have hleft : ∃ record pending', pending' ≤ s.transientLookups ∧
        ({ s.recording (.getSandbox name) with transientLookups := pending } : State) =
          { s with transientLookups := pending', record } := ⟨_, pending, hpending, rfl⟩
    split
    · exact .ite (Work.succeeds_tell hleft) (Work.succeeds_tell hleft)
    · exact Work.succeeds_tell hleft
    · exact Work.succeeds_tell hleft

/-- **Creating a sandbox** succeeds where the platform creates it. -/
theorem succeeds_createSandbox_of_eq (plan : Plan) {mount : String}
    (h : Memory.createSandbox (plan.sandboxRequest name mount)
        (s.recording (.createSandbox (plan.sandboxRequest name mount))) =
      (.ok (deployed (plan.sandboxRequest name mount)).sandbox,
        { s.recording (.createSandbox (plan.sandboxRequest name mount)) with
          sandboxes := s.sandboxes.insert name (deployed (plan.sandboxRequest name mount)) })) :
    Succeeds (platform faults) (plan.createSandbox name mount) s fun _ s' =>
      ∃ record pending, pending ≤ s.transientLookups ∧
        s' =
          { s with
            sandboxes := s.sandboxes.insert name (deployed (plan.sandboxRequest name mount))
            transientLookups := pending
            record } := by
  refine (Work.succeeds_require (Work.succeeds_ofRoutine (succeeds_ask
    (c := .createSandbox (plan.sandboxRequest name mount)) rfl h))).bind ?_
  rintro _ s' ⟨rfl, rfl⟩
  have hdeployed : (s.sandboxes.insert name (deployed (plan.sandboxRequest name mount)))[name]? =
      some (deployed (plan.sandboxRequest name mount)) := Std.ExtTreeMap.getElem?_insert_self
  refine Work.succeeds_tell_bind ((succeeds_checkRegion plan hdeployed rfl).mono ?_)
  rintro _ s' ⟨record, pending, hpending, rfl⟩
  exact ⟨record, pending, hpending, rfl⟩

/-- **Creating a sandbox** under a name that is free, with a volume that exists. -/
theorem succeeds_createSandbox (plan : Plan) {mount : String} (hfree : s.sandboxes[name]? = none)
    (hvolume : plan.names.volume ∈ s.volumes) :
    Succeeds (platform faults) (plan.createSandbox name mount) s fun _ s' =>
      ∃ record pending, pending ≤ s.transientLookups ∧
        s' =
          { s with
            sandboxes := s.sandboxes.insert name (deployed (plan.sandboxRequest name mount))
            transientLookups := pending
            record } := by
  refine succeeds_createSandbox_of_eq plan (createSandbox_eq (plan.sandboxRequest name mount) hfree
    fun b hb => ?_)
  obtain rfl := List.mem_singleton.mp hb
  exact hvolume

/-- **A wait with enough lookups ends with an absence.** Each lookup is one of those that are to
fail, or one that a deleted sandbox still answers, or finds none. -/
theorem succeeds_probe {policy : Policy} {lag made left : Nat} (hstuck : name ∉ faults.stuck)
    (h : s.sandboxes[name]? = some { resident with deleting := some lag })
    (hpolicy : s.transientLookups = 0 ∨ policy.onFailure = .countAsAttempt)
    (hbudget : s.transientLookups + lag < left) :
    Succeeds (platform faults) (policy.probe name made left) s fun gone s' =>
      gone = true ∧ s'.sandboxes[name]? = none ∧
        (∀ other ≠ name, s'.sandboxes[other]? = s.sandboxes[other]?) ∧ s'.volumes = s.volumes ∧
        s'.transientLookups = 0 := by
  induction left generalizing s lag made with
  | zero => omega
  | succ left ih =>
    unfold Policy.probe
    cases hpending : s.transientLookups with
    | succ pending =>
      -- a lookup that fails
      have honFailure : policy.onFailure = .countAsAttempt := by simpa [hpending] using hpolicy
      obtain ⟨error, hanswer⟩ := getSandbox_pending faults name
        (s := s.recording (.getSandbox name)) hpending
      refine (succeeds_ask (c := .getSandbox name) rfl hanswer).bind ?_
      rintro _ s' ⟨rfl, rfl⟩
      simp only [honFailure]
      refine Routine.succeeds_tell_bind (Routine.succeeds_pause_bind ?_)
      exact ih h (.inr honFailure) (show pending + lag < left by omega)
    | zero =>
      cases lag with
      | zero =>
        -- the lookup that finds none
        have hanswer :=
          getSandbox_vanishing (s := s.recording (.getSandbox name)) hpending h rfl hstuck
        refine (succeeds_ask (c := .getSandbox name) rfl hanswer).bind ?_
        rintro _ s' ⟨rfl, rfl⟩
        refine Routine.succeeds_tell_bind
          (succeeds_pure ⟨rfl, ?_, fun other hother => ?_, rfl, hpending⟩)
        · simp
        · simp [Std.ExtTreeMap.getElem?_erase, hother.symm, State.recording]
      | succ lag =>
        -- a lookup that the sandbox still answers
        have hanswer :=
          getSandbox_lingering (s := s.recording (.getSandbox name)) hpending h rfl hstuck
        refine (succeeds_ask (c := .getSandbox name) rfl hanswer).bind ?_
        rintro _ s' ⟨rfl, rfl⟩
        refine Routine.succeeds_tell_bind (Routine.succeeds_pause_bind ?_)
        have hlinger : (s.sandboxes.insert name { resident with deleting := some lag })[name]? =
            some { resident with deleting := some lag } := Std.ExtTreeMap.getElem?_insert_self
        refine Succeeds.mono (ih hlinger (.inl hpending)
          (show s.transientLookups + lag < left by omega)) ?_
        rintro gone s' ⟨hgone, habsent, hothers, hvolumes, hnone⟩
        refine ⟨hgone, habsent, fun other hother => ?_, hvolumes, hnone⟩
        rw [hothers other hother]
        simp [Std.ExtTreeMap.getElem?_insert, hother.symm, State.recording]

/-- The same of the whole wait. -/
theorem succeeds_await {policy : Policy} {lag : Nat} (hstuck : name ∉ faults.stuck)
    (h : s.sandboxes[name]? = some { resident with deleting := some lag })
    (hpolicy : s.transientLookups = 0 ∨ policy.onFailure = .countAsAttempt)
    (hbudget : s.transientLookups + lag < policy.maxAttempts.toNat) :
    Succeeds (platform faults) (policy.await name) s fun gone s' =>
      gone = true ∧ s'.sandboxes[name]? = none ∧
        (∀ other ≠ name, s'.sandboxes[other]? = s.sandboxes[other]?) ∧ s'.volumes = s.volumes ∧
        s'.transientLookups = 0 :=
  Routine.succeeds_tell_bind (succeeds_probe hstuck h hpolicy hbudget)

end Memory

end RemountCheck
