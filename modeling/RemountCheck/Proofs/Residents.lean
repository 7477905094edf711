import RemountCheck.Memory.Platform
import RemountCheck.Proofs.Exchange

/-!
# The residents of a platform in memory

What each call does to the sandboxes that a platform in memory knows of. Only a creation adds
one, and only a lookup that finds none takes one away; a deletion makes one linger, and no call
changes what a sandbox is.

* `RemountCheck.Memory.State.start` – the states in which a platform is set up: sandboxes that it
  already knows of, and lookups that are to fail;
* `RemountCheck.Memory.Passage` – what a call may do to what stands under a name, and
  `RemountCheck.Memory.passage_next`, that it does nothing else;
* `RemountCheck.Memory.resident_of_next` – where a sandbox comes from that is there after a call;
* `RemountCheck.Memory.absent_of_notFound` – a lookup that finds none leaves none;
* `RemountCheck.Memory.State.Holds` – a sandbox that mounts a volume, also while it lingers. Who
  holds a volume held it before or was created since (`RemountCheck.Memory.holds_of_after`).
-/

namespace RemountCheck

/-- The request of a call that creates a sandbox. -/
def Call.sandboxRequest? : Call → Option SandboxRequest
  | .createSandbox request => some request
  | _ => none

theorem Call.sandboxRequest?_eq_some {c : Call} {request : SandboxRequest} :
    c.sandboxRequest? = some request ↔ c = .createSandbox request := by
  cases c <;> simp [sandboxRequest?]

namespace Memory

/-! ### Where a platform starts -/

/-- **The state of a platform as it is set up**: it has no volumes, and it already knows of
some sandboxes. -/
def State.start (existing : List String) (transientLookups : Nat) : State :=
  existing.foldl State.withSandbox { transientLookups }

theorem volumes_withSandboxes (existing : List String) (s : State) :
    (existing.foldl State.withSandbox s).volumes = s.volumes := by
  induction existing generalizing s with
  | nil => rfl
  | cons name existing ih => exact ih _

theorem transientLookups_withSandboxes (existing : List String) (s : State) :
    (existing.foldl State.withSandbox s).transientLookups = s.transientLookups := by
  induction existing generalizing s with
  | nil => rfl
  | cons name existing ih => exact ih _

theorem sandboxes_withSandboxes (existing : List String) (s : State) (name : String) :
    (existing.foldl State.withSandbox s).sandboxes[name]? =
      if name ∈ existing then some { sandbox := .named name } else s.sandboxes[name]? := by
  induction existing generalizing s with
  | nil => rfl
  | cons other existing ih =>
    rw [List.foldl_cons, ih]
    by_cases hname : name ∈ existing
    · simp [hname]
    · by_cases hother : other = name
      · subst hother
        simp [hname, State.withSandbox]
      · simp [hname, hother, Ne.symm hother, State.withSandbox, Std.ExtTreeMap.getElem?_insert]

/-- At the start a platform knows of the sandboxes that it was set up with, and of no more
than their names. -/
theorem sandboxes_start (existing : List String) (transientLookups : Nat) (name : String) :
    (State.start existing transientLookups).sandboxes[name]? =
      if name ∈ existing then some { sandbox := .named name } else none := by
  simp [State.start, sandboxes_withSandboxes]

/-! ### What each call does to the residents -/

section Calls

variable {faults : Faults} {s : State} {name : String}

/-- A sandbox as it is deployed for a request. -/
def deployed (request : SandboxRequest) : Resident where
  sandbox :=
    { metadata := request.metadata, spec := request.spec, status := some "DEPLOYED" }

/-- A sandbox is created under a name that is free, with volumes that exist. -/
theorem createSandbox_eq (request : SandboxRequest)
    (hfree : s.sandboxes[request.name]? = none)
    (hvolumes : ∀ b ∈ request.spec.volumes, b.volume ∈ s.volumes) :
    createSandbox request s =
      (.ok (deployed request).sandbox,
        { s with sandboxes := s.sandboxes.insert request.name (deployed request) }) := by
  have hname : request.name ∉ s.sandboxes := by simpa using hfree
  have hnone : (request.spec.volumes.find? fun b => b.volume ∉ s.volumes) = none := by
    simpa using hvolumes
  rw [createSandbox, if_neg hname, hnone]
  rfl

/-- **Creating a sandbox** fails and changes nothing, or adds it under a name that was free. -/
theorem createSandbox_cases (request : SandboxRequest) (s : State) :
    (∃ failure, createSandbox request s = (.error failure, s)) ∨
      s.sandboxes[request.name]? = none ∧
        createSandbox request s =
          (.ok (deployed request).sandbox,
            { s with sandboxes := s.sandboxes.insert request.name (deployed request) }) := by
  by_cases hname : request.name ∈ s.sandboxes
  · exact .inl ⟨_, by rw [createSandbox, if_pos hname]⟩
  · have hfree := Std.ExtTreeMap.getElem?_eq_none hname
    by_cases hvolumes : ∀ b ∈ request.spec.volumes, b.volume ∈ s.volumes
    · exact .inr ⟨hfree, createSandbox_eq request hfree hvolumes⟩
    · have hmissing : (request.spec.volumes.find? fun b => b.volume ∉ s.volumes).isSome := by
        simpa using hvolumes
      obtain ⟨b, hb⟩ := Option.isSome_iff_exists.mp hmissing
      exact .inl ⟨_, by rw [createSandbox, if_neg hname, hb]⟩

/-- A lookup that is to fail does, and leaves one less to fail. -/
theorem getSandbox_pending (faults : Faults) (name : String) {pending : Nat}
    (h : s.transientLookups = pending + 1) :
    ∃ error, getSandbox faults name s =
      (.transient error, { s with transientLookups := pending }) :=
  ⟨_, by rw [getSandbox, h]⟩

/-- A sandbox that lingers no longer is taken away with the lookup that finds none. -/
theorem getSandbox_vanishing {r : Resident} (hnone : s.transientLookups = 0)
    (hr : s.sandboxes[name]? = some r) (hdeleting : r.deleting = some 0)
    (hstuck : name ∉ faults.stuck) :
    getSandbox faults name s = (.notFound, { s with sandboxes := s.sandboxes.erase name }) := by
  simp [getSandbox, hnone, hr, hdeleting, hstuck]

/-- A sandbox that lingers is found, and counted down. -/
theorem getSandbox_lingering {r : Resident} {left : Nat} (hnone : s.transientLookups = 0)
    (hr : s.sandboxes[name]? = some r) (hdeleting : r.deleting = some (left + 1))
    (hstuck : name ∉ faults.stuck) :
    getSandbox faults name s =
      (.found r.sandbox,
        { s with sandboxes := s.sandboxes.insert name { r with deleting := some left } }) := by
  simp [getSandbox, hnone, hr, hdeleting, hstuck]

/-- **A lookup** fails as often as it is told to. Else it changes at most what stands under its
name: a sandbox that lingers is counted down, and is taken away with the lookup that finds
none. -/
theorem getSandbox_cases (faults : Faults) (name : String) (s : State) :
    (∃ pending error, s.transientLookups = pending + 1 ∧
      getSandbox faults name s = (.transient error, { s with transientLookups := pending })) ∨
    s.transientLookups = 0 ∧
      ((s.sandboxes[name]? = none ∧ getSandbox faults name s = (.notFound, s)) ∨
      (∃ r, s.sandboxes[name]? = some r ∧ (r.deleting = none ∨ name ∈ faults.stuck) ∧
        getSandbox faults name s = (.found r.sandbox, s)) ∨
      (∃ r, s.sandboxes[name]? = some r ∧ r.deleting = some 0 ∧ name ∉ faults.stuck ∧
        getSandbox faults name s = (.notFound, { s with sandboxes := s.sandboxes.erase name })) ∨
      ∃ r left, s.sandboxes[name]? = some r ∧ r.deleting = some (left + 1) ∧
        name ∉ faults.stuck ∧
        getSandbox faults name s =
          (.found r.sandbox,
            { s with sandboxes := s.sandboxes.insert name { r with deleting := some left } })) := by
  rcases Nat.eq_zero_or_eq_succ_pred s.transientLookups with hnone | hpending
  · refine .inr ⟨hnone, ?_⟩
    cases hr : s.sandboxes[name]? with
    | none => exact .inl ⟨rfl, by simp [getSandbox, hnone, hr]⟩
    | some r =>
      refine .inr ?_
      cases hdeleting : r.deleting with
      | none => exact .inl ⟨r, rfl, .inl hdeleting, by simp [getSandbox, hnone, hr, hdeleting]⟩
      | some left =>
        by_cases hstuck : name ∈ faults.stuck
        · exact .inl ⟨r, rfl, .inr hstuck, by simp [getSandbox, hnone, hr, hdeleting, hstuck]⟩
        · cases left with
          | zero =>
            exact .inr (.inl
              ⟨r, rfl, hdeleting, hstuck, getSandbox_vanishing hnone hr hdeleting hstuck⟩)
          | succ left =>
            exact .inr (.inr
              ⟨r, left, rfl, hdeleting, hstuck, getSandbox_lingering hnone hr hdeleting hstuck⟩)
  · obtain ⟨error, heq⟩ := getSandbox_pending faults name hpending
    exact .inl ⟨_, error, hpending, heq⟩

/-- **Deleting a sandbox** fails and changes nothing, or finds it lingering and changes nothing,
or makes it linger; volatile volumes that it mounts are then wiped. -/
theorem deleteSandbox_cases (faults : Faults) (name : String) (s : State) :
    (∃ failure, deleteSandbox faults name s = (.error failure, s)) ∨
      (∃ r left, s.sandboxes[name]? = some r ∧ r.deleting = some left ∧
        deleteSandbox faults name s = (.ok (), s)) ∨
      ∃ r, s.sandboxes[name]? = some r ∧ r.deleting = none ∧
        deleteSandbox faults name s =
          (.ok (),
            { s with
              sandboxes := s.sandboxes.insert name { r with deleting := some faults.deletionLag }
              volumes :=
                if faults.volatile then
                  (r.sandbox.spec.volumes.map (·.volume)).foldl wipe s.volumes
                else s.volumes }) := by
  unfold deleteSandbox
  split
  · exact .inl ⟨_, rfl⟩
  · cases hr : s.sandboxes[name]? with
    | none => exact .inl ⟨_, rfl⟩
    | some r =>
      refine .inr ?_
      cases hdeleting : r.deleting with
      | none => exact .inr ⟨r, rfl, hdeleting, by simp [hdeleting]⟩
      | some left => exact .inl ⟨r, left, rfl, hdeleting, by simp [hdeleting]⟩

/-- There is no sandbox to delete. -/
theorem deleteSandbox_of_absent (hname : name ∉ faults.failingDelete)
    (h : s.sandboxes[name]? = none) :
    deleteSandbox faults name s = (.error (.notFound ("sandbox " ++ name)), s) := by
  rw [deleteSandbox, if_neg hname, h]

/-- A sandbox that lingers is deleted once more. -/
theorem deleteSandbox_of_lingering {r : Resident} {left : Nat}
    (hname : name ∉ faults.failingDelete) (h : s.sandboxes[name]? = some r)
    (hdeleting : r.deleting = some left) : deleteSandbox faults name s = (.ok (), s) := by
  rw [deleteSandbox, if_neg hname, h]
  simp only [hdeleting]

/-- There is no volume to delete. -/
theorem deleteVolume_of_absent (hname : name ∉ faults.failingDelete)
    (h : s.volumes[name]? = none) :
    deleteVolume faults name s = (.error (.notFound ("volume " ++ name)), s) := by
  rw [deleteVolume, if_neg hname, if_neg (by simpa using h)]

/-- A sandbox that lingers from now on, or goes on lingering. -/
def Resident.lingering (r : Resident) (lag : Nat) : Resident :=
  { r with deleting := some (r.deleting.getD lag) }

/-- **A deletion that is not refused** is accepted if there is a sandbox, which then lingers. -/
theorem deleteSandbox_eq {r : Resident} (hname : name ∉ faults.failingDelete)
    (hr : s.sandboxes[name]? = some r) :
    ∃ volumes, deleteSandbox faults name s =
      (.ok (), { s with
        sandboxes := s.sandboxes.insert name (r.lingering faults.deletionLag)
        volumes }) := by
  rw [deleteSandbox, if_neg hname, hr]
  cases hdeleting : r.deleting with
  | none => exact ⟨_, by simp only [Resident.lingering, hdeleting, Option.getD_none]; rfl⟩
  | some left =>
    -- what is put in its place is what was there
    have hr' : r.lingering faults.deletionLag = r := by
      rw [Resident.lingering, hdeleting, Option.getD_some, ← hdeleting]
    have hsame : s.sandboxes.insert name r = s.sandboxes := by
      refine Std.ExtTreeMap.ext_getElem? fun other => ?_
      rw [Std.ExtTreeMap.getElem?_insert]
      split
      · rename_i hother
        rw [← hr, show name = other by simpa using hother]
      · rfl
    exact ⟨s.volumes, by simp [hdeleting, hr', hsame]⟩

/-- A command does not change the sandboxes. -/
theorem sandboxes_exec (faults : Faults) (name command : String) (s : State) :
    (exec faults name command s).2.sandboxes = s.sandboxes := by
  unfold exec
  split
  · rfl
  · split <;> rfl

/-- Creating a volume does not change the sandboxes. -/
theorem sandboxes_createVolume (faults : Faults) (request : VolumeRequest) (s : State) :
    (createVolume faults request s).2.sandboxes = s.sandboxes := by
  unfold createVolume
  split
  · rfl
  · split <;> rfl

/-- Deleting a volume does not change the sandboxes. -/
theorem sandboxes_deleteVolume (faults : Faults) (name : String) (s : State) :
    (deleteVolume faults name s).2.sandboxes = s.sandboxes := by
  unfold deleteVolume
  split
  · rfl
  · split <;> rfl

end Calls

/-! ### Where residents come from and go to -/

section Next

variable {faults : Faults} {s : State} {name : String}

/-- A crash changes nothing; any other call has the effect of its answer. -/
theorem next_eq (c : Call) :
    (platform faults).next c s =
      if (crash? faults c).isSome then s else (answer faults c (s.recording c)).2 := by
  change (reply faults c s).2 = _
  unfold reply
  cases crash? faults c <;> rfl

/-- A call crashes where it is told to, and nowhere else. -/
theorem crash?_of_repliesWith {xs : List Exchange} (h : (platform faults).RepliesWith xs s) :
    ∀ x ∈ xs, x.crash? = crash? faults x.call := by
  induction xs generalizing s with
  | nil => exact fun x hx => absurd hx List.not_mem_nil
  | cons x xs ih =>
    obtain ⟨hreply, hrest⟩ := h
    refine List.forall_mem_cons.mpr ⟨?_, ih hrest⟩
    obtain ⟨c, r⟩ := x
    change (reply faults c s).1 = r at hreply
    rw [← hreply, reply]
    cases crash? faults c <;> rfl

/-- A lookup that finds nothing leaves nothing under its name. -/
theorem absent_of_notFound
    (h : ((platform faults).reply (.getSandbox name) s).1 = .ok .notFound) :
    ((platform faults).next (.getSandbox name) s).sandboxes[name]? = none := by
  have h : (getSandbox faults name (s.recording (.getSandbox name))).1 = .notFound :=
    Except.ok.inj h
  change (getSandbox faults name (s.recording (.getSandbox name))).2.sandboxes[name]? = none
  rcases getSandbox_cases faults name (s.recording (.getSandbox name)) with
    ⟨pending, error, -, heq⟩ | ⟨-, ⟨hnone, heq⟩ | ⟨r, -, -, heq⟩ | ⟨r, -, -, -, heq⟩ |
      ⟨r, left, -, -, -, heq⟩⟩
  · simp [heq] at h
  · simpa [heq] using hnone
  · simp [heq] at h
  · simp [heq]
  · simp [heq] at h

/-- **What a call does to what stands under a name**, from before the call to after it. -/
inductive Passage (faults : Faults) (name : String) (c : Call) (before after : Option Resident) :
    Prop where
  /-- Nothing happens to it. -/
  | kept (h : after = before)
  /-- A sandbox is created. -/
  | created (request : SandboxRequest) (hc : c = .createSandbox request)
    (hname : request.name = name) (hbefore : before = none)
    (hafter : after = some (deployed request))
  /-- The sandbox begins to linger. -/
  | deleted (sandbox : Sandbox) (hc : c = .deleteSandbox name)
    (hbefore : before = some ⟨sandbox, none⟩)
    (hafter : after = some ⟨sandbox, some faults.deletionLag⟩)
  /-- The sandbox lingers and is found once more. -/
  | counted (sandbox : Sandbox) (left : Nat) (hc : c = .getSandbox name)
    (hbefore : before = some ⟨sandbox, some (left + 1)⟩)
    (hafter : after = some ⟨sandbox, some left⟩)
  /-- The sandbox has lingered long enough. -/
  | vanished (sandbox : Sandbox) (hc : c = .getSandbox name)
    (hbefore : before = some ⟨sandbox, some 0⟩) (hafter : after = none)

/-- **One step of a resident.** -/
theorem passage_next (faults : Faults) (name : String) (s : State) (c : Call) :
    Passage faults name c s.sandboxes[name]? ((platform faults).next c s).sandboxes[name]? := by
  rw [next_eq]
  split
  · exact .kept rfl
  · cases c with
    | createVolume request => exact .kept (by rw [answer, sandboxes_createVolume]; rfl)
    | deleteVolume volume => exact .kept (by rw [answer, sandboxes_deleteVolume]; rfl)
    | exec sandbox command => exact .kept (by rw [answer, sandboxes_exec]; rfl)
    | createSandbox request =>
      rcases createSandbox_cases request (s.recording (.createSandbox request)) with
        ⟨failure, heq⟩ | ⟨hfree, heq⟩ <;> rw [answer, heq]
      · exact .kept rfl
      · by_cases hname : request.name = name
        · subst hname
          exact .created request rfl rfl hfree Std.ExtTreeMap.getElem?_insert_self
        · exact .kept (by simp [Std.ExtTreeMap.getElem?_insert, hname, State.recording])
    | getSandbox other =>
      by_cases hname : other = name
      · subst hname
        rcases getSandbox_cases faults other (s.recording (.getSandbox other)) with
          ⟨pending, error, -, heq⟩ | ⟨-, ⟨-, heq⟩ | ⟨r, -, -, heq⟩ |
            ⟨⟨sandbox, deleting⟩, hr, hlast, -, heq⟩ |
            ⟨⟨sandbox, deleting⟩, left, hr, hlast, -, heq⟩⟩ <;> rw [answer, heq]
        · exact .kept rfl
        · exact .kept rfl
        · exact .kept rfl
        · obtain rfl : deleting = some 0 := hlast
          exact .vanished sandbox rfl hr (by simp)
        · obtain rfl : deleting = some (left + 1) := hlast
          exact .counted sandbox left rfl hr Std.ExtTreeMap.getElem?_insert_self
      · -- a lookup is of no other sandbox
        rcases getSandbox_cases faults other (s.recording (.getSandbox other)) with
          ⟨pending, error, -, heq⟩ | ⟨-, ⟨-, heq⟩ | ⟨r, -, -, heq⟩ | ⟨r, -, -, -, heq⟩ |
            ⟨r, left, -, -, -, heq⟩⟩ <;> rw [answer, heq]
        · exact .kept rfl
        · exact .kept rfl
        · exact .kept rfl
        · exact .kept (by simp [Std.ExtTreeMap.getElem?_erase, hname, State.recording])
        · exact .kept (by simp [Std.ExtTreeMap.getElem?_insert, hname, State.recording])
    | deleteSandbox other =>
      rcases deleteSandbox_cases faults other (s.recording (.deleteSandbox other)) with
        ⟨failure, heq⟩ | ⟨r, left, -, -, heq⟩ | ⟨⟨sandbox, deleting⟩, hr, hlive, heq⟩ <;>
          rw [answer, heq]
      · exact .kept rfl
      · exact .kept rfl
      · obtain rfl : deleting = none := hlive
        by_cases hname : other = name
        · subst hname
          exact .deleted sandbox rfl hr Std.ExtTreeMap.getElem?_insert_self
        · exact .kept (by simp [Std.ExtTreeMap.getElem?_insert, hname, State.recording])

/-- **A deletion that is not refused** makes its sandbox linger, and no other. -/
theorem sandboxes_next_deleteSandbox (hname : name ∉ faults.failingDelete) (other : String) :
    ((platform faults).next (.deleteSandbox name) s).sandboxes[other]? =
      if name = other then s.sandboxes[other]?.map (·.lingering faults.deletionLag)
      else s.sandboxes[other]? := by
  change (deleteSandbox faults name (s.recording (.deleteSandbox name))).2.sandboxes[other]? = _
  cases hr : s.sandboxes[name]? with
  | none =>
    rw [deleteSandbox_of_absent (s := s.recording (.deleteSandbox name)) hname hr]
    split
    · rename_i hother
      rw [← hother, hr]
      exact hr
    · rfl
  | some r =>
    obtain ⟨volumes, heq⟩ := deleteSandbox_eq (s := s.recording (.deleteSandbox name)) hname hr
    rw [heq]
    dsimp only
    rw [Std.ExtTreeMap.getElem?_insert]
    by_cases hother : name = other
    · subst hother
      simp [hr]
    · simp [hother, State.recording]

/-- **Where a sandbox comes from** that is there after a call: it was there before, or the
call created it. -/
theorem resident_of_next {c : Call} {r : Resident}
    (h : ((platform faults).next c s).sandboxes[name]? = some r) :
    (∃ r₀, s.sandboxes[name]? = some r₀ ∧ r₀.sandbox = r.sandbox) ∨
      ∃ request, c = .createSandbox request ∧ request.name = name ∧ r = deployed request := by
  rcases passage_next faults name s c with hkept | ⟨request, hc, hname, -, hafter⟩ |
    ⟨sandbox, -, hbefore, hafter⟩ | ⟨sandbox, left, -, hbefore, hafter⟩ | ⟨sandbox, -, -, hafter⟩
  · exact .inl ⟨r, hkept ▸ h, rfl⟩
  · exact .inr ⟨request, hc, hname, Option.some.inj (h.symm.trans hafter)⟩
  · obtain rfl := Option.some.inj (h.symm.trans hafter)
    exact .inl ⟨_, hbefore, rfl⟩
  · obtain rfl := Option.some.inj (h.symm.trans hafter)
    exact .inl ⟨_, hbefore, rfl⟩
  · cases h.symm.trans hafter

end Next

/-! ### Who holds a volume -/

/-- **A sandbox holds a volume**: the platform knows of it, and it mounts the volume. A sandbox
that lingers does so too. -/
def State.Holds (s : State) (name volume : String) : Prop :=
  ∃ r : Resident, s.sandboxes[name]? = some r ∧ ∃ b ∈ r.sandbox.spec.volumes, b.volume = volume

section Holds

variable {faults : Faults} {s : State} {name volume : String}

/-- At the start no sandbox holds anything. -/
theorem not_holds_start (existing : List String) (transientLookups : Nat) (name : String) :
    ¬(State.start existing transientLookups).Holds name volume := by
  rintro ⟨r, hr, b, hb, -⟩
  rw [sandboxes_start] at hr
  split at hr
  · cases hr
    exact absurd hb List.not_mem_nil
  · cases hr

theorem holds_of_next {c : Call} (h : ((platform faults).next c s).Holds name volume) :
    s.Holds name volume ∨ ∃ request, c = .createSandbox request ∧ request.name = name := by
  obtain ⟨r, hr, hb⟩ := h
  obtain ⟨r₀, hr₀, heq⟩ | ⟨request, hc, hname, -⟩ := resident_of_next hr
  · exact .inl ⟨r₀, hr₀, heq ▸ hb⟩
  · exact .inr ⟨request, hc, hname⟩

/-- **Who holds a volume** after some calls held it before, or was created by one of them. -/
theorem holds_of_after {cs : List Call}
    (h : ((platform faults).after cs s).Holds name volume) :
    s.Holds name volume ∨ ∃ request, .createSandbox request ∈ cs ∧ request.name = name := by
  induction cs generalizing s with
  | nil => exact .inl h
  | cons c cs ih =>
    obtain hheld | ⟨request, hmem, hname⟩ := ih h
    · obtain hbefore | ⟨request, rfl, hname⟩ := holds_of_next hheld
      · exact .inl hbefore
      · exact .inr ⟨request, List.mem_cons_self, hname⟩
    · exact .inr ⟨request, List.mem_cons_of_mem c hmem, hname⟩

end Holds

end Memory

end RemountCheck
