import Mathlib.Data.List.TakeWhile
import RemountCheck.Proofs.Shell

/-!
# The mount that holds a path

`RemountCheck.Memory.resolve?` finds the volume of a path by measuring every binding against it and
keeping the deepest match. This module says which binding that is without measuring: the path lies
under some mount points, all of them beginnings of it and so one below the other, and the lowest of
them holds it.

* `RemountCheck.Binding.point`, `RemountCheck.Binding.Covers` – the mount point of a binding, and
  when a path lies under it;
* `RemountCheck.Binding.Decides` – the binding that holds a path: of those that cover it the one
  with the longest mount point, and of several with that mount point the last;
* `RemountCheck.Memory.resolve?_eq_some_iff`, `RemountCheck.Memory.resolve?_eq_none_iff` – what is
  found for a path;
* `RemountCheck.Memory.volume_of_slashes` – slashes after a directory do not change its volume;
* `RemountCheck.Memory.deepest_mount_holds_path` – the law of mounts.

Comparing lengths is enough because two beginnings of one path that are equally long are equal
(`RemountCheck.Binding.point_eq_of_length_eq`). Without that, a mount at `/ab` could be taken for a
better match than one at `/a` for a path that only the latter covers.
-/

namespace RemountCheck

/-! ### Slashes at the ends -/

namespace Text

variable {c : Char} {s : List Char}

/-- A text is what is left of it without the run at its end, and that run. -/
theorem exists_eq_dropTrailing_append (c : Char) (s : List Char) :
    ∃ n, s = dropTrailing c s ++ List.replicate n c := by
  let run := s.reverse.takeWhile (· == c)
  have hrun : run = List.replicate run.length c :=
    List.eq_replicate_iff.mpr ⟨rfl, fun d hd => by simpa using List.mem_takeWhile_imp hd⟩
  refine ⟨run.length, ?_⟩
  calc s = (run ++ s.reverse.dropWhile (· == c)).reverse := by
        rw [List.takeWhile_append_dropWhile, List.reverse_reverse]
    _ = dropTrailing c s ++ run.reverse := List.reverse_append
    _ = dropTrailing c s ++ List.replicate run.length c := by rw [hrun, List.reverse_replicate,
        List.length_replicate]

/-- What is left without the run at its end does not end in it. -/
theorem getLast?_dropTrailing_ne (c : Char) (s : List Char) :
    (dropTrailing c s).getLast? ≠ some c := by
  intro hlast
  rw [dropTrailing, List.getLast?_reverse] at hlast
  have hdropped := List.head?_dropWhile_not (· == c) s.reverse
  rw [hlast] at hdropped
  simp at hdropped

end Text

/-! ### Which bindings a path lies under -/

namespace Binding

variable {b c : Binding} {path : List Char}

/-- **The mount point** of a binding: its mount path without the slashes at its end. -/
def point (b : Binding) : List Char := Text.dropTrailing '/' b.mountPath.toList

/-- **A binding covers a path**: its mount point is the path, or a beginning of the path that a
slash follows. -/
def Covers (b : Binding) (path : List Char) : Prop := b.point = path ∨ b.point ++ ['/'] <+: path

/-- The path below the mount point, without the slashes at its start. -/
def keyOf (b : Binding) (path : List Char) : String :=
  String.ofList (Text.dropLeading '/' (path.drop b.point.length))

/-- The binding with more slashes at the end of its mount path. -/
def slashed (b : Binding) (n : Nat) : Binding :=
  { b with mountPath := b.mountPath ++ String.ofList (List.replicate n '/') }

theorem point_slashed (b : Binding) (n : Nat) : (b.slashed n).point = b.point := by
  simp [point, slashed, Text.dropTrailing_append_replicate]

/-- Every mount point that covers a path is a beginning of it. -/
theorem Covers.point_isPrefix (h : b.Covers path) : b.point <+: path := by
  rcases h with heq | hslash
  · exact heq ▸ List.prefix_rfl
  · exact (List.prefix_append b.point ['/']).trans hslash

/-- **Two equally long mount points of one path are the same.** -/
theorem point_eq_of_length_eq (hb : b.Covers path) (hc : c.Covers path)
    (h : b.point.length = c.point.length) : b.point = c.point :=
  have hprefix := List.prefix_of_prefix_length_le hb.point_isPrefix hc.point_isPrefix h.le
  hprefix.eq_of_length h

/-- What is left of a covered path is nothing, or begins with a slash. -/
theorem covers_iff_exists_rest :
    b.Covers path ↔ ∃ rest, path = b.point ++ rest ∧ (rest = [] ∨ ∃ s, rest = '/' :: s) := by
  constructor
  · rintro (heq | ⟨s, hs⟩)
    · exact ⟨[], by simp [heq], .inl rfl⟩
    · exact ⟨'/' :: s, by simp [← hs], .inr ⟨s, rfl⟩⟩
  · rintro ⟨rest, rfl, rfl | ⟨s, rfl⟩⟩
    · exact .inl (by simp)
    · exact .inr ⟨s, by simp⟩

/-- **Slashes after a slash change nothing**: a mount point ends in none. -/
theorem covers_concat_slash_iff (h : path.getLast? = some '/') :
    b.Covers (path ++ ['/']) ↔ b.Covers path := by
  have hne {t : List Char} (ht : t.getLast? = some '/') : b.point ≠ t := fun heq =>
    Text.getLast?_dropTrailing_ne '/' b.mountPath.toList (by rw [← ht, ← heq, point])
  have hlonger : b.point ≠ path ++ ['/'] := hne (by simp)
  have hconcat : b.point ++ ['/'] ≠ path ++ ['/'] := fun heq => hne h (List.append_cancel_right heq)
  rw [Covers, Covers, List.prefix_concat_iff]
  simp [hlonger, hconcat, hne h]

/-- **The binding that holds a path**: it covers the path, no mount point that covers it is longer,
and of the bindings at its own mount point it is the last. -/
structure Decides (b : Binding) (bindings : List Binding) (path : List Char) : Prop where
  covers : b.Covers path
  deepest : ∀ c ∈ bindings, c.Covers path → c.point.length ≤ b.point.length
  last : ∃ before after, bindings = before ++ b :: after ∧
    ∀ c ∈ after, c.Covers path → c.point ≠ b.point

theorem Decides.mem {bindings : List Binding} (h : b.Decides bindings path) : b ∈ bindings := by
  obtain ⟨before, after, rfl, -⟩ := h.last
  simp

/-- **What decides is the length of the mount points**, and where they are equally long, the order
of the bindings. -/
theorem decides_iff {bindings : List Binding} :
    b.Decides bindings path ↔ b.Covers path ∧ ∃ before after, bindings = before ++ b :: after ∧
      (∀ c ∈ before, c.Covers path → c.point.length ≤ b.point.length) ∧
      ∀ c ∈ after, c.Covers path → c.point.length < b.point.length := by
  constructor
  · rintro ⟨hb, hdeepest, before, after, rfl, hlast⟩
    refine ⟨hb, before, after, rfl, fun c hmem => hdeepest c (by simp [hmem]),
      fun c hmem hc => ?_⟩
    have hle := hdeepest c (by simp [hmem]) hc
    have hne : c.point.length ≠ b.point.length := fun heq =>
      hlast c hmem hc (point_eq_of_length_eq hc hb heq)
    omega
  · rintro ⟨hb, before, after, rfl, hbefore, hafter⟩
    refine ⟨hb, fun c hmem hc => ?_, before, after, rfl, fun c hmem hc heq => ?_⟩
    · rcases List.mem_append.mp hmem with hmem | hmem
      · exact hbefore c hmem hc
      · rcases List.mem_cons.mp hmem with rfl | hmem
        · exact Nat.le_refl _
        · exact (hafter c hmem hc).le
    · have hlt := hafter c hmem hc
      rw [heq] at hlt
      exact Nat.lt_irrefl _ hlt

/-- Paths that lie under the same mount points are held by the same binding. -/
theorem decides_congr {bindings : List Binding} {path' : List Char}
    (h : ∀ c ∈ bindings, c.Covers path ↔ c.Covers path') :
    b.Decides bindings path ↔ b.Decides bindings path' := by
  rw [decides_iff, decides_iff]
  constructor
  · rintro ⟨hb, before, after, rfl, hbefore, hafter⟩
    exact ⟨(h b (by simp)).mp hb, before, after, rfl,
      fun c hmem hc => hbefore c hmem ((h c (by simp [hmem])).mpr hc),
      fun c hmem hc => hafter c hmem ((h c (by simp [hmem])).mpr hc)⟩
  · rintro ⟨hb, before, after, rfl, hbefore, hafter⟩
    exact ⟨(h b (by simp)).mpr hb, before, after, rfl,
      fun c hmem hc => hbefore c hmem ((h c (by simp [hmem])).mp hc),
      fun c hmem hc => hafter c hmem ((h c (by simp [hmem])).mp hc)⟩

end Binding

namespace Memory

open Binding

variable {bindings : List Binding} {b : Binding} {path : List Char} {volume key : String}

/-! ### The deepest match -/

section Deepest

variable {ms : List MountMatch} {m : MountMatch}

theorem belowMount?_eq_some_iff {mount rest : List Char} :
    belowMount? mount path = some rest ↔
      path = mount ++ rest ∧ (rest = [] ∨ ∃ s, rest = '/' :: s) := by
  rw [belowMount?, @eq_comm _ path, ← List.isPrefixOf?_eq_some_iff_append_eq]
  rcases hrest : mount.isPrefixOf? path with _ | _ | ⟨c, s⟩
  · simp
  · grind
  · by_cases hc : c = '/' <;> grind

/-- **How a path lies under a binding**: at the depth of the mount point, if the binding covers
it. -/
theorem match?_eq_some_iff :
    b.match? path = some m ↔ b.Covers path ∧ m = ⟨b.point.length, b.volume, b.keyOf path⟩ := by
  rw [Binding.match?, Option.map_eq_some_iff, covers_iff_exists_rest]
  simp only [belowMount?_eq_some_iff]
  constructor
  · rintro ⟨rest, ⟨hpath, hrest⟩, rfl⟩
    refine ⟨⟨rest, hpath, hrest⟩, ?_⟩
    rw [keyOf, hpath, point, List.drop_left]
  · rintro ⟨⟨rest, hpath, hrest⟩, rfl⟩
    refine ⟨rest, ⟨hpath, hrest⟩, ?_⟩
    rw [keyOf, hpath, point, List.drop_left]

theorem match?_eq_none_iff : b.match? path = none ↔ ¬b.Covers path := by
  rw [Option.eq_none_iff_forall_ne_some]
  simp only [ne_eq, match?_eq_some_iff]
  exact ⟨fun h hcovers => h _ ⟨hcovers, rfl⟩, fun h m hm => h hm.1⟩

theorem deepest?_eq_none_iff : deepest? ms = none ↔ ms = [] := by
  cases ms with
  | nil => exact iff_of_true rfl rfl
  | cons n ms =>
    refine iff_of_false ?_ (List.cons_ne_nil n ms)
    rw [deepest?]
    cases deepest? ms <;> exact Option.some_ne_none _

/-- All of several matches lie above a depth if the deepest does. -/
theorem forall_depth_lt_iff {depth : Nat} :
    (∀ n ∈ ms, n.depth < depth) ↔ ∀ best, deepest? ms = some best → best.depth < depth := by
  induction ms with
  | nil => simp [deepest?]
  | cons n ms ih =>
    rw [List.forall_mem_cons, ih, deepest?]
    cases deepest? ms with
    | none => simp
    | some best =>
      simp only [Option.some.injEq, forall_eq']
      split <;> omega

/-- One more match is the deepest if it is deeper than all others; if not, theirs stays the
deepest. -/
theorem deepest?_cons_eq_some_iff {n : MountMatch} :
    deepest? (n :: ms) = some m ↔
      (n = m ∧ ∀ k ∈ ms, k.depth < m.depth) ∨ (n.depth ≤ m.depth ∧ deepest? ms = some m) := by
  rw [forall_depth_lt_iff, deepest?]
  cases deepest? ms with
  | none => simp
  | some best =>
    simp only [Option.some.injEq, forall_eq']
    -- of two equally deep matches the later one stays, which is why only `<` is asked of the first
    split <;> grind

/-- **The deepest of several matches** is as deep as any before it, and deeper than any after
it. -/
theorem deepest?_eq_some_iff :
    deepest? ms = some m ↔ ∃ before after, ms = before ++ m :: after ∧
      (∀ n ∈ before, n.depth ≤ m.depth) ∧ ∀ n ∈ after, n.depth < m.depth := by
  induction ms with
  | nil => simp [deepest?]
  | cons n ms ih =>
    rw [deepest?_cons_eq_some_iff, ih]
    constructor
    · rintro (⟨rfl, hafter⟩ | ⟨hn, before, after, rfl, hbefore, hafter⟩)
      · exact ⟨[], ms, rfl, by simp, hafter⟩
      · exact ⟨n :: before, after, rfl, List.forall_mem_cons.mpr ⟨hn, hbefore⟩, hafter⟩
    · rintro ⟨before, after, heq, hbefore, hafter⟩
      rcases List.cons_eq_append_iff.mp heq with ⟨rfl, hcons⟩ | ⟨rest, rfl, rfl⟩
      · obtain ⟨rfl, rfl⟩ := List.cons.inj hcons
        exact .inl ⟨rfl, hafter⟩
      · obtain ⟨hn, hrest⟩ := List.forall_mem_cons.mp hbefore
        exact .inr ⟨hn, rest, after, rfl, hrest, hafter⟩

end Deepest

/-! ### What is found for a path -/

/-- **The deepest match is that of the binding that holds the path.** -/
theorem deepest?_filterMap_eq_some_iff {m : MountMatch} :
    deepest? (bindings.filterMap (·.match? path)) = some m ↔
      ∃ b : Binding, b.Decides bindings path ∧ b.match? path = some m := by
  simp only [deepest?_eq_some_iff, decides_iff]
  constructor
  · rintro ⟨before, after, heq, hbefore, hafter⟩
    -- the bindings are cut where the matches are, and those that are skipped do not cover the path
    obtain ⟨left, right, rfl, rfl, hright⟩ := List.filterMap_eq_append_iff.mp heq
    obtain ⟨skipped, b, rest, rfl, hskipped, hb, rfl⟩ := List.filterMap_eq_cons_iff.mp hright
    obtain ⟨hcovers, rfl⟩ := match?_eq_some_iff.mp hb
    refine ⟨b, ⟨hcovers, left ++ skipped, rest, by simp, fun c hmem hc => ?_, fun c hmem hc => ?_⟩,
      hb⟩
    · rcases List.mem_append.mp hmem with hmem | hmem
      · exact hbefore _ (List.mem_filterMap.mpr ⟨c, hmem, match?_eq_some_iff.mpr ⟨hc, rfl⟩⟩)
      · exact absurd hc (match?_eq_none_iff.mp (hskipped c hmem))
    · exact hafter _ (List.mem_filterMap.mpr ⟨c, hmem, match?_eq_some_iff.mpr ⟨hc, rfl⟩⟩)
  · rintro ⟨b, ⟨-, before, after, rfl, hbefore, hafter⟩, hb⟩
    obtain ⟨-, rfl⟩ := match?_eq_some_iff.mp hb
    refine ⟨before.filterMap (·.match? path), after.filterMap (·.match? path), by simp [hb],
      fun n hn => ?_, fun n hn => ?_⟩
    · obtain ⟨c, hmem, hc⟩ := List.mem_filterMap.mp hn
      obtain ⟨hcovers, rfl⟩ := match?_eq_some_iff.mp hc
      exact hbefore c hmem hcovers
    · obtain ⟨c, hmem, hc⟩ := List.mem_filterMap.mp hn
      obtain ⟨hcovers, rfl⟩ := match?_eq_some_iff.mp hc
      exact hafter c hmem hcovers

/-- **What is found for a path**: the volume of the binding that holds it, and the path below its
mount point. -/
theorem resolve?_eq_some_iff :
    resolve? bindings path = some (volume, key) ↔
      ∃ b : Binding, b.Decides bindings path ∧ b.volume = volume ∧ b.keyOf path = key := by
  rw [resolve?, Option.map_eq_some_iff]
  simp only [deepest?_filterMap_eq_some_iff]
  constructor
  · rintro ⟨m, ⟨b, hb, hm⟩, heq⟩
    obtain ⟨-, rfl⟩ := match?_eq_some_iff.mp hm
    exact ⟨b, hb, Prod.ext_iff.mp heq⟩
  · rintro ⟨b, hb, rfl, rfl⟩
    exact ⟨_, ⟨b, hb, match?_eq_some_iff.mpr ⟨hb.covers, rfl⟩⟩, rfl⟩

/-- **Nothing is found for a path that no binding covers**, and only then. -/
theorem resolve?_eq_none_iff :
    resolve? bindings path = none ↔ ∀ b ∈ bindings, ¬b.Covers path := by
  rw [resolve?, Option.map_eq_none_iff, deepest?_eq_none_iff, List.filterMap_eq_nil_iff]
  simp only [match?_eq_none_iff]

/-! ### Slashes -/

theorem match?_slashed (b : Binding) (n : Nat) (path : List Char) :
    (b.slashed n).match? path = b.match? path := by
  refine Option.ext fun m => ?_
  rw [match?_eq_some_iff, match?_eq_some_iff, Covers, Covers, keyOf, keyOf, point_slashed]
  exact Iff.rfl

/-- **Slashes at the end of mount paths are not looked at.** -/
theorem resolve?_slashed (marked : List (Binding × Nat)) (path : List Char) :
    resolve? (marked.map fun (b, n) => b.slashed n) path =
      resolve? (marked.map fun (b, _) => b) path := by
  simp [resolve?, List.filterMap_map, match?_slashed]

/-- **Slashes after a directory do not change its volume.** -/
theorem volume_of_slashes (bindings : List Binding) {path : List Char}
    (h : path.getLast? = some '/') (n : Nat) :
    (resolve? bindings (path ++ List.replicate n '/')).map Prod.fst =
      (resolve? bindings path).map Prod.fst := by
  have hcovers (b : Binding) : b.Covers (path ++ List.replicate n '/') ↔ b.Covers path := by
    induction n with
    | zero => simp
    | succ n ih =>
      rw [List.replicate_succ', ← List.append_assoc, covers_concat_slash_iff, ih]
      -- before the first of them stands the slash of the directory, before another one of their own
      cases n <;> simp [h, List.getLast?_append, List.getLast?_replicate]
  refine Option.ext fun volume => ?_
  simp only [Option.map_eq_some_iff, Prod.exists, resolve?_eq_some_iff,
    decides_congr fun c _ => hcovers c]
  grind

/-- **The law of mounts.** For a path that no binding covers nothing is found, and for any other the
volume of a binding: of those that cover the path the one with the longest mount point, and of
several with that mount point the last. With it comes what is left of the path, without the slashes
at its start. Slashes at the end of mount paths change nothing. Where there is one binding, the path
of a file under its mount leads to its volume and to the file. -/
theorem deepest_mount_holds_path :
    (∀ (bindings : List Binding) (path : List Char),
      (resolve? bindings path = none ↔ ∀ b ∈ bindings, ¬b.Covers path) ∧
      ∀ volume key, resolve? bindings path = some (volume, key) ↔
        ∃ b : Binding, b.Decides bindings path ∧ b.volume = volume ∧ b.keyOf path = key) ∧
    (∀ (marked : List (Binding × Nat)) (path : List Char),
      resolve? (marked.map fun (b, n) => b.slashed n) path =
        resolve? (marked.map fun (b, _) => b) path) ∧
    ∀ (b : Binding) (file : String),
      resolve? [b] (filePath b.mountPath file).toList = some (b.volume, fileKey file) :=
  ⟨fun _ _ => ⟨resolve?_eq_none_iff, fun _ _ => resolve?_eq_some_iff⟩, resolve?_slashed,
    resolve?_filePath⟩

end Memory

end RemountCheck
