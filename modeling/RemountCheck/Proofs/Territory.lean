import RemountCheck.Proofs.Cleanup
import RemountCheck.Proofs.Mounts
import RemountCheck.Proofs.Residents

/-!
# The territory of a call

Each call names what it is about. On a platform in memory it looks at nothing else and changes
nothing else, with one exception: a command looks at the volumes that its sandbox mounts, and the
deletion of a sandbox may wipe them. So a set of names is a territory of its own as long as its
sandboxes mount only volumes of the territory.

* `RemountCheck.Territory` – some names of sandboxes and of volumes, and `RemountCheck.Call.Within`,
  the calls that keep to them;
* `RemountCheck.Memory.State.AgreeOn` – two states that are alike in a territory;
* `RemountCheck.Memory.State.Confined` – a state whose sandboxes in a territory mount only
  volumes of it, which calls within the territory leave so (`RemountCheck.Memory.confined_next`);
* `RemountCheck.Memory.reply_local` – a call within a territory depends on nothing outside of it;
* `RemountCheck.Memory.agreeOn_outside_next` – and changes nothing outside of it.

What all territories share is the number of lookups that are still to fail: every lookup, of
whatever name, uses one up if it fails (`RemountCheck.Memory.transientLookups_next_add`). They share
the record too, which nothing looks at.
-/

namespace RemountCheck

/-! ### Territories -/

/-- **A territory**: some names of sandboxes and some of volumes. -/
structure Territory where
  sandboxes : String → Prop
  volumes : String → Prop

/-- All names that are not of a territory. -/
def Territory.outside (t : Territory) : Territory where
  sandboxes name := ¬t.sandboxes name
  volumes name := ¬t.volumes name

/-- **A call keeps to a territory**: what it names is of the territory, and so are the volumes that
a new sandbox is to mount. -/
def Call.Within (t : Territory) : Call → Prop
  | .createVolume request => t.volumes request.name
  | .deleteVolume name => t.volumes name
  | .createSandbox request =>
    t.sandboxes request.name ∧ ∀ b ∈ request.spec.volumes, t.volumes b.volume
  | .getSandbox name => t.sandboxes name
  | .deleteSandbox name => t.sandboxes name
  | .exec sandbox _ => t.sandboxes sandbox

namespace Memory

/-! ### Commands and their mounts -/

section Lines

variable {volumes volumes' : Volumes} {bindings : List Binding}

/-- A path lies in no other volumes than those that are mounted. -/
theorem exists_of_resolve? {path : List Char} {volume key : String}
    (h : resolve? bindings path = some (volume, key)) : ∃ b ∈ bindings, b.volume = volume := by
  obtain ⟨b, hb, hvolume, -⟩ := resolve?_eq_some_iff.mp h
  exact ⟨b, hb.mem, hvolume⟩

/-- A write changes the volume that its path lies in, and that is mounted. -/
theorem exists_of_written? {path content : List Char} (h : written? volumes bindings path content =
    some volumes') : ∃ b ∈ bindings, ∃ files, volumes' = volumes.insert b.volume files := by
  obtain ⟨⟨volume, key⟩, hresolve, hfiles⟩ := Option.bind_eq_some_iff.mp h
  obtain ⟨files, -, rfl⟩ := Option.map_eq_some_iff.mp hfiles
  obtain ⟨b, hb, rfl⟩ := exists_of_resolve? hresolve
  exact ⟨b, hb, _, rfl⟩

/-- **A command changes no other volumes than those that are mounted.** -/
theorem Line.run_frame (line : Line) {volume : String} (h : ∀ b ∈ bindings, b.volume ≠ volume) :
    (line.run volumes bindings).2[volume]? = volumes[volume]? := by
  by_cases hline : ∃ word path, line = .write word path
  · obtain ⟨word, path, rfl⟩ := hline
    rw [run]
    cases Text.Quoted.decode? word with
    | none => rfl
    | some content =>
      cases hwritten : written? volumes bindings path content with
      | none => simp [hwritten]
      | some volumes' =>
        obtain ⟨b, hb, files, rfl⟩ := exists_of_written? hwritten
        simp [hwritten, Std.ExtTreeMap.getElem?_insert, h b hb]
  · rw [run_eq_output fun word path hwrite => hline ⟨word, path, hwrite⟩]

/-- The volume that a path lies in has the same files wherever the mounted volumes do. -/
theorem getElem?_of_resolve? (h : ∀ b ∈ bindings, volumes[b.volume]? = volumes'[b.volume]?)
    {path : List Char} {found : String × String} (hfound : resolve? bindings path = some found) :
    volumes[found.1]? = volumes'[found.1]? := by
  obtain ⟨volume, key⟩ := found
  obtain ⟨b, hb, rfl⟩ := exists_of_resolve? hfound
  exact h b hb

theorem contentAt?_congr (h : ∀ b ∈ bindings, volumes[b.volume]? = volumes'[b.volume]?)
    (path : List Char) : contentAt? volumes bindings path = contentAt? volumes' bindings path := by
  unfold contentAt?
  cases hfound : resolve? bindings path with
  | none => rfl
  | some found => simp [getElem?_of_resolve? h hfound]

theorem namesAt?_congr (h : ∀ b ∈ bindings, volumes[b.volume]? = volumes'[b.volume]?)
    (path : List Char) : namesAt? volumes bindings path = namesAt? volumes' bindings path := by
  unfold namesAt?
  cases hfound : resolve? bindings path with
  | none => rfl
  | some found => simp [getElem?_of_resolve? h hfound]

/-- What a command prints is up to the mounted volumes. -/
theorem Line.output_congr (h : ∀ b ∈ bindings, volumes[b.volume]? = volumes'[b.volume]?)
    (line : Line) : line.output volumes bindings = line.output volumes' bindings := by
  cases line with
  | read path => simp only [output, contentAt?_congr h]
  | existence path => simp only [output, contentAt?_congr h]
  | listing path => simp only [output, namesAt?_congr h]
  | details path => simp only [output, contentAt?_congr h]
  | _ => rfl

/-- **A command prints what the mounted volumes determine**, and leaves alike what was alike. -/
theorem Line.run_local (line : Line)
    (h : ∀ b ∈ bindings, volumes[b.volume]? = volumes'[b.volume]?) :
    (line.run volumes bindings).1 = (line.run volumes' bindings).1 ∧
      ∀ volume : String, volumes[volume]? = volumes'[volume]? →
        (line.run volumes bindings).2[volume]? = (line.run volumes' bindings).2[volume]? := by
  by_cases hline : ∃ word path, line = .write word path
  · obtain ⟨word, path, rfl⟩ := hline
    simp only [run, written?]
    cases Text.Quoted.decode? word with
    | none => exact ⟨rfl, fun volume heq => heq⟩
    | some content =>
      cases hfound : resolve? bindings path with
      | none => exact ⟨rfl, fun volume heq => heq⟩
      | some found =>
        have hsame := getElem?_of_resolve? h hfound
        simp only [Option.bind_some, ← hsame]
        cases volumes[found.1]? with
        | none => exact ⟨rfl, fun volume heq => heq⟩
        | some files =>
          refine ⟨rfl, fun volume heq => ?_⟩
          simp [Std.ExtTreeMap.getElem?_insert, heq]
  · have hoff : ∀ word path, line ≠ .write word path :=
      fun word path hwrite => hline ⟨word, path, hwrite⟩
    rw [run_eq_output hoff, run_eq_output hoff]
    exact ⟨output_congr h line, fun volume heq => heq⟩

end Lines

/-! ### Volumes that are wiped -/

/-- A volume that is wiped keeps its name and loses its files. -/
theorem getElem?_wipe (volumes : Volumes) (name volume : String) :
    (wipe volumes name)[volume]? =
      if name = volume then volumes[volume]?.map fun _ => ∅ else volumes[volume]? := by
  by_cases hname : name = volume
  · subst hname
    simp [wipe]
  · simp [wipe, Std.ExtTreeMap.getElem?_modify, hname]

theorem getElem?_foldl_wipe (volumes : Volumes) (names : List String) (volume : String) :
    (names.foldl wipe volumes)[volume]? =
      if volume ∈ names then volumes[volume]?.map fun _ => ∅ else volumes[volume]? := by
  induction names generalizing volumes with
  | nil => rfl
  | cons name names ih =>
    rw [List.foldl_cons, ih, getElem?_wipe]
    by_cases hname : name = volume
    · subst hname
      by_cases hmem : name ∈ names <;> simp [hmem, Function.comp_def]
    · simp [hname, Ne.symm hname]

/-! ### States that agree -/

/-- What is alike in two maps stays so when both get one more value. -/
theorem getElem?_insert_congr {α : Type} {m m' : Std.ExtTreeMap String α} {name : String}
    (h : m[name]? = m'[name]?) (key : String) (value : α) :
    (m.insert key value)[name]? = (m'.insert key value)[name]? := by
  rw [Std.ExtTreeMap.getElem?_insert, Std.ExtTreeMap.getElem?_insert, h]

/-- What is alike in two maps stays so when both lose a value. -/
theorem getElem?_erase_congr {α : Type} {m m' : Std.ExtTreeMap String α} {name : String}
    (h : m[name]? = m'[name]?) (key : String) : (m.erase key)[name]? = (m'.erase key)[name]? := by
  rw [Std.ExtTreeMap.getElem?_erase, Std.ExtTreeMap.getElem?_erase, h]

/-- **Two states agree on a territory**: they know of the same sandboxes and volumes there. -/
structure State.AgreeOn (t : Territory) (s s' : State) : Prop where
  sandboxes : ∀ name : String, t.sandboxes name → s.sandboxes[name]? = s'.sandboxes[name]?
  volumes : ∀ name : String, t.volumes name → s.volumes[name]? = s'.volumes[name]?

/-- **A state is confined to a territory** as far as the sandboxes there mount only volumes of
the territory. -/
def State.Confined (t : Territory) (s : State) : Prop :=
  ∀ (name : String) (r : Resident), t.sandboxes name → s.sandboxes[name]? = some r →
    ∀ b ∈ r.sandbox.spec.volumes, t.volumes b.volume

namespace State.AgreeOn

variable {t u : Territory} {s s' s'' : State}

theorem refl (t : Territory) (s : State) : s.AgreeOn t s := ⟨fun _ _ => rfl, fun _ _ => rfl⟩

theorem symm (h : s.AgreeOn t s') : s'.AgreeOn t s :=
  ⟨fun name hname => (h.sandboxes name hname).symm, fun name hname => (h.volumes name hname).symm⟩

theorem trans (h : s.AgreeOn t s') (h' : s'.AgreeOn t s'') : s.AgreeOn t s'' :=
  ⟨fun name hname => (h.sandboxes name hname).trans (h'.sandboxes name hname),
    fun name hname => (h.volumes name hname).trans (h'.volumes name hname)⟩

/-- States that agree are confined together. -/
theorem confined (h : s.AgreeOn t s') (hs : s'.Confined t) : s.Confined t :=
  fun name r hname hr => hs name r hname (h.sandboxes name hname ▸ hr)

theorem mem_volumes (h : s.AgreeOn t s') {name : String} (hname : t.volumes name) :
    name ∈ s.volumes ↔ name ∈ s'.volumes := by
  rw [Std.ExtTreeMap.mem_iff_isSome_getElem?, Std.ExtTreeMap.mem_iff_isSome_getElem?,
    h.volumes name hname]

theorem mem_sandboxes (h : s.AgreeOn t s') {name : String} (hname : t.sandboxes name) :
    name ∈ s.sandboxes ↔ name ∈ s'.sandboxes := by
  rw [Std.ExtTreeMap.mem_iff_isSome_getElem?, Std.ExtTreeMap.mem_iff_isSome_getElem?,
    h.sandboxes name hname]

end State.AgreeOn

/-! ### Nothing outside of a territory counts -/

section Local

variable {faults : Faults} {t : Territory} {s s' : State} {name : String}

theorem createVolume_local (h : s.AgreeOn t s') {request : VolumeRequest}
    (hname : t.volumes request.name) :
    (createVolume faults request s).1 = (createVolume faults request s').1 ∧
      (createVolume faults request s).2.AgreeOn t (createVolume faults request s').2 := by
  simp only [createVolume, h.mem_volumes hname]
  split
  · exact ⟨rfl, h⟩
  · split
    · exact ⟨rfl, h⟩
    · refine ⟨rfl, h.sandboxes, fun other hother => ?_⟩
      exact getElem?_insert_congr (h.volumes other hother) ..

theorem deleteVolume_local (h : s.AgreeOn t s') (hname : t.volumes name) :
    (deleteVolume faults name s).1 = (deleteVolume faults name s').1 ∧
      (deleteVolume faults name s).2.AgreeOn t (deleteVolume faults name s').2 := by
  simp only [deleteVolume, h.mem_volumes hname]
  split
  · exact ⟨rfl, h⟩
  · split
    · refine ⟨rfl, h.sandboxes, fun other hother => ?_⟩
      exact getElem?_erase_congr (h.volumes other hother) _
    · exact ⟨rfl, h⟩

theorem createSandbox_local (h : s.AgreeOn t s') {request : SandboxRequest}
    (hname : t.sandboxes request.name) (hvolumes : ∀ b ∈ request.spec.volumes, t.volumes b.volume) :
    (createSandbox request s).1 = (createSandbox request s').1 ∧
      (createSandbox request s).2.AgreeOn t (createSandbox request s').2 := by
  have hmissing : (request.spec.volumes.find? fun b => b.volume ∉ s.volumes) =
      request.spec.volumes.find? fun b => b.volume ∉ s'.volumes := by
    rw [← List.head?_filter, ← List.head?_filter, List.filter_congr fun b hb => ?_]
    simp only [h.mem_volumes (hvolumes b hb)]
  simp only [createSandbox, h.mem_sandboxes hname, hmissing]
  split
  · exact ⟨rfl, h⟩
  · split
    · exact ⟨rfl, h⟩
    · refine ⟨rfl, fun other hother => ?_, h.volumes⟩
      exact getElem?_insert_congr (h.sandboxes other hother) ..

theorem getSandbox_local (h : s.AgreeOn t s') (hpending : s.transientLookups = s'.transientLookups)
    (hname : t.sandboxes name) :
    (getSandbox faults name s).1 = (getSandbox faults name s').1 ∧
      (getSandbox faults name s).2.AgreeOn t (getSandbox faults name s').2 := by
  simp only [getSandbox, ← hpending, ← h.sandboxes name hname]
  split
  · exact ⟨rfl, h.sandboxes, h.volumes⟩
  · split
    · exact ⟨rfl, h⟩
    · split
      · exact ⟨rfl, h⟩
      · split
        · exact ⟨rfl, h⟩
        · split
          · exact ⟨rfl, fun other hother => getElem?_erase_congr (h.sandboxes other hother) _,
              h.volumes⟩
          · exact ⟨rfl, fun other hother => getElem?_insert_congr (h.sandboxes other hother) ..,
              h.volumes⟩

theorem deleteSandbox_local (h : s.AgreeOn t s') (hname : t.sandboxes name) :
    (deleteSandbox faults name s).1 = (deleteSandbox faults name s').1 ∧
      (deleteSandbox faults name s).2.AgreeOn t (deleteSandbox faults name s').2 := by
  simp only [deleteSandbox, ← h.sandboxes name hname]
  split
  · exact ⟨rfl, h⟩
  · split
    · exact ⟨rfl, h⟩
    · split
      · exact ⟨rfl, h⟩
      · refine ⟨rfl, fun other hother => getElem?_insert_congr (h.sandboxes other hother) ..,
          fun volume hvolume => ?_⟩
        dsimp only
        split
        · rw [getElem?_foldl_wipe, getElem?_foldl_wipe, h.volumes volume hvolume]
        · exact h.volumes volume hvolume

/-- A command depends on its sandbox and on the volumes that it mounts. -/
theorem exec_local (h : s.AgreeOn t s') (hconfined : s.Confined t) (hname : t.sandboxes name)
    (command : String) :
    (exec faults name command s).1 = (exec faults name command s').1 ∧
      (exec faults name command s).2.AgreeOn t (exec faults name command s').2 := by
  simp only [exec, ← h.sandboxes name hname]
  split
  · exact ⟨rfl, h⟩
  · split
    · rename_i sandbox hr
      have hmounted : ∀ b ∈ sandbox.spec.volumes, s.volumes[b.volume]? = s'.volumes[b.volume]? :=
        fun b hb => h.volumes b.volume (hconfined name _ hname hr b hb)
      obtain ⟨hlogs, hvolumes⟩ := (Line.ofText command.toList).run_local hmounted
      refine ⟨by simp [hlogs], h.sandboxes, fun volume hvolume => ?_⟩
      exact hvolumes volume (h.volumes volume hvolume)
    · exact ⟨rfl, h⟩

variable (faults) in
/-- **A call within a territory depends on nothing outside of it**: in two states that agree there
it has the same reply and leaves states that agree there. -/
theorem reply_local (h : s.AgreeOn t s') (hpending : s.transientLookups = s'.transientLookups)
    (hconfined : s.Confined t) {c : Call} (hc : c.Within t) :
    ((platform faults).reply c s).1 = ((platform faults).reply c s').1 ∧
      ((platform faults).next c s).AgreeOn t ((platform faults).next c s') := by
  change (reply faults c s).1 = (reply faults c s').1 ∧
    (reply faults c s).2.AgreeOn t (reply faults c s').2
  unfold reply
  cases crash? faults c with
  | some crash => exact ⟨rfl, h⟩
  | none =>
    -- the record, in which the two may differ, is never looked at
    have h : (s.recording c).AgreeOn t (s'.recording c) := ⟨h.sandboxes, h.volumes⟩
    have hlocal : (answer faults c (s.recording c)).1 = (answer faults c (s'.recording c)).1 ∧
        (answer faults c (s.recording c)).2.AgreeOn t (answer faults c (s'.recording c)).2 := by
      cases c with
      | createVolume request => exact createVolume_local h hc
      | deleteVolume name => exact deleteVolume_local h hc
      | createSandbox request => exact createSandbox_local h hc.1 hc.2
      | getSandbox name => exact getSandbox_local h hpending hc
      | deleteSandbox name => exact deleteSandbox_local h hc
      | exec name command => exact exec_local h hconfined hc command
    exact ⟨congrArg Except.ok hlocal.1, hlocal.2⟩

end Local

/-! ### Nothing outside of a territory is changed -/

section Outside

variable {faults : Faults} {t : Territory} {s : State}

/-- A change at one name of a territory is none outside of it. -/
theorem getElem?_insert_outside {α : Type} {P : String → Prop} (m : Std.ExtTreeMap String α)
    {key : String} (hkey : P key) (value : α) {name : String} (hname : ¬P name) :
    m[name]? = (m.insert key value)[name]? := by
  have hne : key ≠ name := fun heq => hname (heq ▸ hkey)
  simp [Std.ExtTreeMap.getElem?_insert, hne]

theorem getElem?_erase_outside {α : Type} {P : String → Prop} (m : Std.ExtTreeMap String α)
    {key : String} (hkey : P key) {name : String} (hname : ¬P name) :
    m[name]? = (m.erase key)[name]? := by
  have hne : key ≠ name := fun heq => hname (heq ▸ hkey)
  simp [Std.ExtTreeMap.getElem?_erase, hne]

variable (faults) in
/-- **A call within a territory changes nothing outside of it.** -/
theorem agreeOn_outside_next (hconfined : s.Confined t) {c : Call} (hc : c.Within t) :
    s.AgreeOn t.outside ((platform faults).next c s) := by
  rw [next_eq]
  split
  · exact .refl _ _
  · have kept (s' : State) (h : (s.recording c).AgreeOn t.outside s') : s.AgreeOn t.outside s' :=
      ⟨h.sandboxes, h.volumes⟩
    refine kept _ ?_
    cases c with
    | createVolume request =>
      simp only [answer, createVolume]
      split
      · exact .refl _ _
      · split
        · exact .refl _ _
        · exact ⟨fun _ _ => rfl, fun other hother => getElem?_insert_outside _ hc _ hother⟩
    | deleteVolume name =>
      simp only [answer, deleteVolume]
      split
      · exact .refl _ _
      · split
        · exact ⟨fun _ _ => rfl, fun other hother => getElem?_erase_outside _ hc hother⟩
        · exact .refl _ _
    | createSandbox request =>
      rcases createSandbox_cases request (s.recording (.createSandbox request)) with
        ⟨failure, heq⟩ | ⟨-, heq⟩
      · simp only [answer, heq]
        exact .refl _ _
      · simp only [answer, heq]
        exact ⟨fun other hother => getElem?_insert_outside _ hc.1 _ hother, fun _ _ => rfl⟩
    | getSandbox name =>
      rcases getSandbox_cases faults name (s.recording (.getSandbox name)) with
        ⟨pending, error, -, heq⟩ | ⟨-, ⟨-, heq⟩ | ⟨r, -, -, heq⟩ | ⟨r, -, -, -, heq⟩ |
          ⟨r, left, -, -, -, heq⟩⟩ <;> simp only [answer, heq]
      · exact ⟨fun _ _ => rfl, fun _ _ => rfl⟩
      · exact .refl _ _
      · exact .refl _ _
      · exact ⟨fun other hother => getElem?_erase_outside _ hc hother, fun _ _ => rfl⟩
      · exact ⟨fun other hother => getElem?_insert_outside _ hc _ hother, fun _ _ => rfl⟩
    | deleteSandbox name =>
      rcases deleteSandbox_cases faults name (s.recording (.deleteSandbox name)) with
        ⟨failure, heq⟩ | ⟨r, left, -, -, heq⟩ | ⟨r, hr, -, heq⟩ <;> simp only [answer, heq]
      · exact .refl _ _
      · exact .refl _ _
      · refine ⟨fun other hother => getElem?_insert_outside _ hc _ hother, fun volume hvolume => ?_⟩
        dsimp only
        split
        · -- the volumes that are wiped are mounted, and so of the territory
          have hmounted : volume ∉ r.sandbox.spec.volumes.map (·.volume) := by
            rintro hmem
            obtain ⟨b, hb, rfl⟩ := List.mem_map.mp hmem
            exact hvolume (hconfined name r hc hr b hb)
          simp [getElem?_foldl_wipe, hmounted]
        · rfl
    | exec name command =>
      simp only [answer, exec]
      split
      · exact .refl _ _
      · split
        · rename_i sandbox hr
          refine ⟨fun _ _ => rfl, fun volume hvolume => (Line.run_frame _ fun b hb => ?_).symm⟩
          rintro rfl
          exact hvolume (hconfined name _ hc hr b hb)
        · exact .refl _ _

/-- **A call within a territory leaves a state confined to it.** -/
theorem confined_next (hconfined : s.Confined t) {c : Call} (hc : c.Within t) :
    ((platform faults).next c s).Confined t := by
  intro name r hname hr b hb
  obtain ⟨r₀, hr₀, hsame⟩ | ⟨request, rfl, -, rfl⟩ := resident_of_next hr
  · exact hconfined name r₀ hname hr₀ b (hsame ▸ hb)
  · exact hc.2 b hb

/-- **Calls within a territory** change nothing outside of it and leave a state confined to it. -/
theorem agreeOn_outside_after (hconfined : s.Confined t) {cs : List Call}
    (hcs : ∀ c ∈ cs, c.Within t) :
    s.AgreeOn t.outside ((platform faults).after cs s) ∧
      ((platform faults).after cs s).Confined t := by
  induction cs generalizing s with
  | nil => exact ⟨.refl _ _, hconfined⟩
  | cons c cs ih =>
    obtain ⟨hc, hcs⟩ := List.forall_mem_cons.mp hcs
    obtain ⟨hagree, hafter⟩ := ih (confined_next hconfined hc) hcs
    exact ⟨(agreeOn_outside_next faults hconfined hc).trans hagree, hafter⟩

end Outside

/-! ### Lookups that are to fail, and the record

These two are counted for the platform as a whole, and each call does to them what it does
whatever it is about. -/

section Counted

variable {faults : Faults} {s : State}

/-- What comes with an answer does not touch the record, and a lookup that fails uses up one of
those that are to fail. -/
theorem counted_answer (faults : Faults) (c : Call) (s : State) :
    (answer faults c s).2.record = s.record ∧
      (answer faults c s).2.transientLookups +
        (Exchange.isTransient ⟨c, .ok (answer faults c s).1⟩).toNat = s.transientLookups := by
  cases c with
  | createVolume request =>
    simp only [answer, createVolume]
    split
    · exact ⟨rfl, rfl⟩
    · split <;> exact ⟨rfl, rfl⟩
  | deleteVolume name =>
    simp only [answer, deleteVolume]
    split
    · exact ⟨rfl, rfl⟩
    · split <;> exact ⟨rfl, rfl⟩
  | createSandbox request =>
    rcases createSandbox_cases request s with ⟨failure, heq⟩ | ⟨-, heq⟩
    all_goals rw [answer, heq]; exact ⟨rfl, rfl⟩
  | getSandbox name =>
    rcases getSandbox_cases faults name s with
      ⟨pending, error, hpending, heq⟩ | ⟨-, ⟨-, heq⟩ | ⟨r, -, -, heq⟩ | ⟨r, -, -, -, heq⟩ |
        ⟨r, left, -, -, -, heq⟩⟩
    · rw [answer, heq]
      exact ⟨rfl, hpending.symm⟩
    all_goals rw [answer, heq]; exact ⟨rfl, rfl⟩
  | deleteSandbox name =>
    rcases deleteSandbox_cases faults name s with
      ⟨failure, heq⟩ | ⟨r, left, -, -, heq⟩ | ⟨r, -, -, heq⟩
    all_goals rw [answer, heq]; exact ⟨rfl, rfl⟩
  | exec name command =>
    simp only [answer, exec]
    split
    · exact ⟨rfl, rfl⟩
    · split <;> exact ⟨rfl, rfl⟩

/-- **A call is recorded** unless it crashes. -/
theorem record_next (faults : Faults) (c : Call) (s : State) :
    ((platform faults).next c s).record =
      if (crash? faults c).isSome then s.record else s.record ++ [c] := by
  rw [next_eq]
  split
  · rfl
  · exact (counted_answer faults c (s.recording c)).1

/-- **Every lookup that fails uses up one** of those that are to fail, and no other call does. -/
theorem transientLookups_next_add (faults : Faults) (c : Call) (s : State) :
    ((platform faults).next c s).transientLookups +
        (Exchange.isTransient ⟨c, ((platform faults).reply c s).1⟩).toNat = s.transientLookups := by
  change (reply faults c s).2.transientLookups +
    (Exchange.isTransient ⟨c, (reply faults c s).1⟩).toNat = s.transientLookups
  unfold reply
  cases crash? faults c with
  | some crash => cases c <;> rfl
  | none => exact (counted_answer faults c (s.recording c)).2

/-- Where no lookup is to fail, none is after a call. -/
theorem transientLookups_next (h : s.transientLookups = 0) (c : Call) :
    ((platform faults).next c s).transientLookups = 0 := by
  have hadd := transientLookups_next_add faults c s
  omega

end Counted

end Memory

/-! ### The territory of a check -/

namespace Plan

variable (plan : Plan)

/-- **The territory of a check**: its two sandboxes and its volume. -/
def territory : Territory where
  sandboxes name := name = plan.names.firstSandbox ∨ name = plan.names.secondSandbox
  volumes name := name = plan.names.volume

variable {plan}

theorem within_sandboxRequest {name mount : String} (h : plan.territory.sandboxes name) :
    (Call.createSandbox (plan.sandboxRequest name mount)).Within plan.territory := by
  refine ⟨h, fun b hb => ?_⟩
  obtain rfl := List.mem_singleton.mp hb
  rfl

theorem within_regionLookup {sandbox : String} (h : plan.territory.sandboxes sandbox) :
    ∀ c ∈ plan.regionLookup sandbox, c.Within plan.territory := by
  unfold regionLookup
  cases plan.region with
  | none => exact fun c hc => absurd hc List.not_mem_nil
  | some region => exact fun c hc => List.mem_singleton.mp hc ▸ h

theorem within_inspection {sandbox mount : String} {identity : Bool}
    (h : plan.territory.sandboxes sandbox) :
    ∀ c ∈ plan.inspection sandbox mount identity, c.Within plan.territory := by
  intro c hc
  obtain ⟨command, -, rfl⟩ := List.mem_map.mp hc
  exact h

variable (plan) in
/-- The calls of a course keep to the territory of the check. -/
theorem within_course (lookups : Nat) :
    ∀ c ∈ (plan.course lookups).calls, c.Within plan.territory := by
  have hfirst : plan.territory.sandboxes plan.names.firstSandbox := .inl rfl
  have hsecond : plan.territory.sandboxes plan.names.secondSandbox := .inr rfl
  intro c hc
  simp only [course, outward, waiting, homeward, Course.calls_append, Course.calls_ofStep,
    List.mem_append, List.mem_cons, List.not_mem_nil, or_false, List.mem_replicate] at hc
  rcases hc with ((rfl | (rfl | hc) | rfl | hc | rfl) | ⟨-, rfl⟩) | (rfl | hc) | hc
  · rfl
  · exact within_sandboxRequest hfirst
  · exact within_regionLookup hfirst c hc
  · exact hfirst
  · exact within_inspection hfirst c hc
  · exact hfirst
  · exact hfirst
  · exact within_sandboxRequest hsecond
  · exact within_regionLookup hsecond c hc
  · exact within_inspection hsecond c hc

/-- The calls of a cleanup keep to the territory of the check. -/
theorem within_disposals {xs : List Exchange}
    {v : Except Crash (List (Resource × Teardown.Fate))}
    (h : Teardown.Disposals plan.policy plan.teardown.resources xs v) :
    ∀ x ∈ xs, x.call.Within plan.territory := by
  intro x hx
  obtain ⟨r, hr, hcall⟩ := h.call_cases x hx
  simp only [teardown_eq, List.mem_cons, List.not_mem_nil, or_false] at hr
  rcases hr with rfl | rfl | rfl
  · obtain hcall | ⟨-, hcall⟩ := hcall <;> rw [hcall] <;> exact .inl rfl
  · obtain hcall | ⟨-, hcall⟩ := hcall <;> rw [hcall] <;> exact .inr rfl
  · obtain hcall | ⟨hconfirmed, -⟩ := hcall
    · rw [hcall]
      rfl
    · cases hconfirmed

/-- **A check keeps to its territory**, on every platform. -/
theorem within_check (plan : Plan) {σ : Type} (p : Platform σ) (s : σ) :
    ∀ x ∈ (plan.check.runOn p s).trace.exchanges, x.call.Within plan.territory := by
  obtain ⟨ys, w, hxs, hdisposals, -⟩ := plan.leads_check (p := p) (s := s)
  have hxs : (plan.check.runOn p s).trace.exchanges = _ := hxs
  obtain ⟨lookups, htrail⟩ := plan.trail_judge p s
  intro x hx
  rw [hxs] at hx
  rcases List.mem_append.mp hx with hx | hx
  · exact plan.within_course lookups x.call
      (htrail.calls_isPrefix.2.subset (List.mem_map_of_mem hx))
  · exact within_disposals hdisposals x hx

end Plan

end RemountCheck
