import RemountCheck.Proofs.Countdown
import RemountCheck.Proofs.Files
import RemountCheck.Proofs.Repetition

/-!
# The integrity of a platform in memory

What a platform in memory holds is kept in maps, and the maps are kept in order: whatever calls are
made, with whatever names, requests and commands, what stands under a name belongs there. This
module states that order, proves that every call keeps it, and says which calls may add and take
away.

* `RemountCheck.Memory.InOrder` – files that are lines, under keys that are relative paths;
* `RemountCheck.Memory.State.Consistent` – the order of a state, kept by every call
  (`RemountCheck.Memory.consistent_next`);
* `RemountCheck.Memory.Effect` – what one call adds, takes away and uses up;
* `RemountCheck.Memory.transientLookups_after_add` – the lookups that are to fail, over many calls;
* `RemountCheck.Memory.calls_keep_integrity` – all of it, in every state that a platform can come
  to.

| what | is added by | is taken away by |
|---|---|---|
| a volume | its creation | its deletion |
| a sandbox | its creation | a lookup that does not find it |
| a lookup that is to fail | nothing | a lookup that fails |

The deletion of a sandbox is in no row: it only makes the sandbox linger.
-/

namespace RemountCheck

namespace Memory

/-! ### What is in order -/

/-- **Files are in order**: each holds whole lines, and its key does not begin with a slash. -/
def InOrder (files : Files) : Prop :=
  ∀ key content : String, files[key]? = some content →
    content.toList.getLast? = some '\n' ∧ key.toList.head? ≠ some '/'

/-- **A state is consistent**: each sandbox stands under its own name, none lingers longer than one
whose deletion has just been accepted, and the files of every volume are in order. -/
structure State.Consistent (s : State) (faults : Faults) : Prop where
  names : ∀ (name : String) (r : Resident), s.sandboxes[name]? = some r → r.sandbox.name = name
  countdowns : s.WithinLag faults
  files : ∀ (volume : String) (files : Files), s.volumes[volume]? = some files → InOrder files

section Consistent

variable {faults : Faults} {s : State}

theorem inOrder_empty : InOrder ∅ := by
  intro key content hcontent
  simp at hcontent

/-- A line may be written to any key that is in order. -/
theorem InOrder.insert {files : Files} (h : InOrder files) {key : String}
    (hkey : key.toList.head? ≠ some '/') (content : String) :
    InOrder (files.insert key (content ++ "\n")) := by
  intro other text htext
  rw [Std.ExtTreeMap.getElem?_insert] at htext
  split at htext
  · rename_i hother
    obtain rfl : key = other := by simpa using hother
    obtain rfl := Option.some.inj htext
    exact ⟨by simp, hkey⟩
  · exact h other text htext

/-- What is left without the slashes at its start does not begin with one. -/
theorem head?_dropLeading_ne (c : Char) (s : List Char) :
    (Text.dropLeading c s).head? ≠ some c := by
  intro hhead
  have hdropped := List.head?_dropWhile_not (· == c) s
  rw [show (s.dropWhile (· == c)).head? = some c from hhead] at hdropped
  simp at hdropped

/-- **A path leads to a key that is in order.** -/
theorem head?_ne_of_resolve? {bindings : List Binding} {path : List Char} {volume key : String}
    (h : resolve? bindings path = some (volume, key)) : key.toList.head? ≠ some '/' := by
  obtain ⟨b, -, -, rfl⟩ := resolve?_eq_some_iff.mp h
  rw [Binding.keyOf, String.toList_ofList]
  exact head?_dropLeading_ne '/' _

/-- A platform is set up in a consistent state. -/
theorem consistent_start (faults : Faults) (existing : List String) (transientLookups : Nat) :
    (State.start existing transientLookups).Consistent faults where
  names name r hr := by
    rw [sandboxes_start] at hr
    split at hr
    · cases hr
      rfl
    · cases hr
  countdowns := withinLag_start existing transientLookups
  files volume files hfiles := by
    rw [State.start, volumes_withSandboxes] at hfiles
    simp at hfiles

/-- **Every call keeps a state consistent.** -/
theorem consistent_next (h : s.Consistent faults) (c : Call) :
    ((platform faults).next c s).Consistent faults where
  names name r hr := by
    rcases resident_of_next hr with ⟨r₀, hr₀, hsame⟩ | ⟨request, -, hname, rfl⟩
    · rw [← hsame]
      exact h.names name r₀ hr₀
    · exact hname
  countdowns := withinLag_next h.countdowns c
  files volume files hfiles := by
    rcases volumePassage_next faults volume s c with hkept | ⟨request, -, -, -, hafter⟩ |
      ⟨-, -, hafter⟩ | ⟨mounting, sandbox, -, -, -, -, -, hafter⟩ |
      ⟨writer, command, key, content, -, hwrites, hafter⟩
    · exact h.files volume files (hkept ▸ hfiles)
    · obtain rfl := Option.some.inj (hfiles.symm.trans hafter)
      exact inOrder_empty
    · cases hfiles.symm.trans hafter
    · obtain ⟨old, -, rfl⟩ := Option.map_eq_some_iff.mp (hafter.symm.trans hfiles)
      exact inOrder_empty
    · -- the key that is written was found by way of a mount
      obtain ⟨old, hold, rfl⟩ := Option.map_eq_some_iff.mp (hafter.symm.trans hfiles)
      obtain ⟨word, path, -, -, -, -, sandbox, -, hresolve⟩ := hwrites
      exact (h.files volume old hold).insert (head?_ne_of_resolve? hresolve) content

theorem consistent_after (h : s.Consistent faults) (cs : List Call) :
    ((platform faults).after cs s).Consistent faults := by
  induction cs generalizing s with
  | nil => exact h
  | cons c cs ih => exact ih (consistent_next h c)

end Consistent

/-! ### What is added and taken away -/

/-- **What one call adds, takes away and uses up**, from the state before to the state after. -/
structure Effect (x : Exchange) (before after : State) : Prop where
  /-- A volume is added by its creation. -/
  volume_added : ∀ name : String, name ∉ before.volumes → name ∈ after.volumes →
    ∃ request, x.call = .createVolume request ∧ request.name = name
  /-- A volume is taken away by its deletion. -/
  volume_removed : ∀ name : String, name ∈ before.volumes → name ∉ after.volumes →
    x.call = .deleteVolume name
  /-- A sandbox is added by its creation. -/
  sandbox_added : ∀ name : String, name ∉ before.sandboxes → name ∈ after.sandboxes →
    ∃ request, x.call = .createSandbox request ∧ request.name = name
  /-- A sandbox is taken away by a lookup that does not find it. -/
  sandbox_removed : ∀ name : String, name ∈ before.sandboxes → name ∉ after.sandboxes →
    x = ⟨.getSandbox name, .ok .notFound⟩
  /-- A lookup that fails uses up one of those that are to fail, and nothing else does. -/
  pending : after.transientLookups + x.isTransient.toNat = before.transientLookups

section Effect

variable {faults : Faults} {s : State} {name : String} {c : Call}

/-- A lookup that takes a sandbox away does not find it. -/
theorem reply_of_vanished {sandbox : Sandbox} (h : s.sandboxes[name]? = some ⟨sandbox, some 0⟩)
    (hafter : ((platform faults).next (.getSandbox name) s).sandboxes[name]? = none) :
    ((platform faults).reply (.getSandbox name) s).1 = .ok .notFound := by
  rcases tick_next (x := ⟨_, ((platform faults).reply (.getSandbox name) s).1⟩) h rfl with
    ⟨-, hkept⟩ | ⟨-, -, hkept⟩ | ⟨fewer, -, -, -, hkept⟩ | ⟨-, -, hsettled, -⟩
  · cases hafter.symm.trans hkept
  · cases hafter.symm.trans hkept
  · cases hafter.symm.trans hkept
  · generalize ((platform faults).reply (.getSandbox name) s).1 = reply at hsettled
    cases reply with
    | error crash => cases hsettled
    | ok found =>
      rw [settled?] at hsettled
      split at hsettled
      · rw [Option.some.inj hsettled]
      · cases hsettled

/-- **Whether there is a volume of a name** is changed by its creation and by its deletion. -/
theorem mem_volumes_next_cases (faults : Faults) (s : State) (c : Call) (name : String) :
    (name ∈ ((platform faults).next c s).volumes ↔ name ∈ s.volumes) ∨
      (∃ request, c = .createVolume request ∧ request.name = name ∧ name ∉ s.volumes) ∨
      (c = .deleteVolume name ∧ name ∉ ((platform faults).next c s).volumes) := by
  simp only [Std.ExtTreeMap.mem_iff_isSome_getElem?]
  rcases volumePassage_next faults name s c with hkept | ⟨request, hc, hname, hbefore, -⟩ |
    ⟨hc, -, hafter⟩ | ⟨mounting, sandbox, -, -, -, -, -, hafter⟩ |
    ⟨writer, command, key, content, -, -, hafter⟩
  · exact .inl (by rw [hkept])
  · exact .inr (.inl ⟨request, hc, hname, by simp [hbefore]⟩)
  · exact .inr (.inr ⟨hc, by simp [hafter]⟩)
  · exact .inl (by simp [hafter])
  · exact .inl (by simp [hafter])

/-- **Whether there is a sandbox of a name** is changed by its creation and by a lookup that does
not find it any more. -/
theorem mem_sandboxes_next_cases (faults : Faults) (s : State) (c : Call) (name : String) :
    (name ∈ ((platform faults).next c s).sandboxes ↔ name ∈ s.sandboxes) ∨
      (∃ request, c = .createSandbox request ∧ request.name = name ∧ name ∉ s.sandboxes) ∨
      ((⟨c, ((platform faults).reply c s).1⟩ : Exchange) = ⟨.getSandbox name, .ok .notFound⟩ ∧
        name ∉ ((platform faults).next c s).sandboxes) := by
  simp only [Std.ExtTreeMap.mem_iff_isSome_getElem?]
  rcases passage_next faults name s c with hkept | ⟨request, hc, hname, hbefore, -⟩ |
    ⟨sandbox, -, hbefore, hafter⟩ | ⟨sandbox, left, -, hbefore, hafter⟩ |
    ⟨sandbox, rfl, hbefore, hafter⟩
  · exact .inl (by rw [hkept])
  · exact .inr (.inl ⟨request, hc, hname, by simp [hbefore]⟩)
  · exact .inl (by simp [hbefore, hafter])
  · exact .inl (by simp [hbefore, hafter])
  · exact .inr (.inr ⟨by rw [reply_of_vanished hbefore hafter], by simp [hafter]⟩)

/-- **What a call adds, takes away and uses up.** -/
theorem effect_next (faults : Faults) (s : State) (c : Call) :
    Effect ⟨c, ((platform faults).reply c s).1⟩ s ((platform faults).next c s) where
  volume_added name hno hyes := by
    rcases mem_volumes_next_cases faults s c name with hsame | ⟨request, hc, hname, -⟩ | ⟨-, hgone⟩
    · exact absurd (hsame.mp hyes) hno
    · exact ⟨request, hc, hname⟩
    · exact absurd hyes hgone
  volume_removed name hyes hno := by
    rcases mem_volumes_next_cases faults s c name with hsame | ⟨request, -, -, hnew⟩ | ⟨hc, -⟩
    · exact absurd (hsame.mpr hyes) hno
    · exact absurd hyes hnew
    · exact hc
  sandbox_added name hno hyes := by
    rcases mem_sandboxes_next_cases faults s c name with hsame | ⟨request, hc, hname, -⟩ |
      ⟨-, hgone⟩
    · exact absurd (hsame.mp hyes) hno
    · exact ⟨request, hc, hname⟩
    · exact absurd hyes hgone
  sandbox_removed name hyes hno := by
    rcases mem_sandboxes_next_cases faults s c name with hsame | ⟨request, -, -, hnew⟩ | ⟨hx, -⟩
    · exact absurd (hsame.mpr hyes) hno
    · exact absurd hyes hnew
    · exact hx
  pending := transientLookups_next_add faults c s

/-- **Over many calls, every lookup that fails uses up one** of those that are to fail. -/
theorem transientLookups_after_add (faults : Faults) (cs : List Call) (s : State) :
    ((platform faults).after cs s).transientLookups +
      ((platform faults).exchanges cs s).countP (·.isTransient) = s.transientLookups := by
  induction cs generalizing s with
  | nil => rfl
  | cons c cs ih =>
    have hstep := transientLookups_next_add faults c s
    have hrest := ih ((platform faults).next c s)
    rw [Platform.after_cons, Platform.exchanges_cons, List.countP_cons]
    rcases hx : Exchange.isTransient ⟨c, ((platform faults).reply c s).1⟩ with _ | _
    · simp [hx] at hstep ⊢
      omega
    · simp [hx] at hstep ⊢
      omega

end Effect

/-- **Whatever calls are made, a platform in memory keeps its order.** However it was set up and
whatever its faults: after any calls its state is consistent, as many of its lookups have failed as
there are fewer to fail, and the next call, whatever it is, adds, takes away and uses up no more
than calls of its kind do. -/
theorem calls_keep_integrity (faults : Faults) (existing : List String) (transientLookups : Nat)
    (cs : List Call) :
    let p := platform faults
    let start := State.start existing transientLookups
    let s := p.after cs start
    s.Consistent faults ∧
      s.transientLookups + (p.exchanges cs start).countP (·.isTransient) = transientLookups ∧
      ∀ c, Effect ⟨c, (p.reply c s).1⟩ s (p.next c s) := by
  intro p start s
  have hpending : start.transientLookups = transientLookups :=
    transientLookups_withSandboxes existing _
  refine ⟨consistent_after (consistent_start faults existing transientLookups) cs, ?_,
    effect_next faults s⟩
  rw [← hpending]
  exact transientLookups_after_add faults cs start

end Memory

end RemountCheck
