import Mathlib.Data.List.Basic
import Mathlib.Tactic.SplitIfs
import RemountCheck.Http.Path
import RemountCheck.Http.Scheme

/-!
# Texts that a path keeps

A text that is put after a slash in a URL is resolved and encoded with the rest of the path. Some
texts come through that as they are, and then it does not matter what stands before them: the path
of the whole is the path of what stands before, with the text at its end.

* `RemountCheck.Http.IsPathText` – **the texts that are kept**: nothing in them is encoded, there
  is no backslash, and no segment of dots;
* `RemountCheck.Http.isPathText_iff` – they are the texts that a path keeps;
* `RemountCheck.Http.segmentPath_append` – **such a text stays at the end of a path**.

What resolving does to the segments before the last slash is of no interest here: whatever it is,
it is the same with the text and without (`RemountCheck.Http.resolve_append`).
-/

namespace RemountCheck

namespace Text

variable {separates separates' : Char → Bool} {s : List Char}

/-! ### Pieces -/

theorem pieces_ne_nil (separates : Char → Bool) (s : List Char) : pieces separates s ≠ [] := by
  cases s with
  | nil => exact List.cons_ne_nil _ _
  | cons c s =>
    rw [pieces, List.foldr_cons]
    split
    · exact List.cons_ne_nil _ _
    · split <;> exact List.cons_ne_nil _ _

theorem pieces_cons_of_separates {c : Char} (hc : separates c = true) (s : List Char) :
    pieces separates (c :: s) = [] :: pieces separates s := by
  rw [pieces, List.foldr_cons, if_pos hc]
  rfl

theorem pieces_cons_of_not {c : Char} (hc : separates c = false) {piece : List Char}
    {rest : List (List Char)} (h : pieces separates s = piece :: rest) :
    pieces separates (c :: s) = (c :: piece) :: rest := by
  rw [pieces] at h ⊢
  rw [List.foldr_cons, h, if_neg (by simp [hc])]

/-- **A separator separates**: the pieces before it, and the pieces after it. -/
theorem pieces_append {c : Char} (hc : separates c = true) (s t : List Char) :
    pieces separates (s ++ c :: t) = pieces separates s ++ pieces separates t := by
  induction s with
  | nil => exact pieces_cons_of_separates hc t
  | cons d s ih =>
    cases hd : separates d with
    | true =>
      rw [List.cons_append, pieces_cons_of_separates hd, ih, pieces_cons_of_separates hd]
      rfl
    | false =>
      obtain ⟨piece, rest, hpieces⟩ := List.exists_cons_of_ne_nil (pieces_ne_nil separates s)
      have happend : pieces separates (s ++ c :: t) = piece :: (rest ++ pieces separates t) := by
        rw [ih, hpieces]
        rfl
      rw [List.cons_append, pieces_cons_of_not hd happend, pieces_cons_of_not hd hpieces]
      rfl

theorem pieces_congr (h : ∀ c ∈ s, separates c = separates' c) :
    pieces separates s = pieces separates' s := by
  induction s with
  | nil => rfl
  | cons c s ih =>
    rw [List.forall_mem_cons] at h
    have hs := ih h.2
    cases hc : separates c with
    | true =>
      rw [pieces_cons_of_separates hc, pieces_cons_of_separates (h.1 ▸ hc), hs]
    | false =>
      obtain ⟨piece, rest, hpieces⟩ := List.exists_cons_of_ne_nil (pieces_ne_nil separates s)
      rw [pieces_cons_of_not hc hpieces, pieces_cons_of_not (h.1 ▸ hc) (hs ▸ hpieces)]

/-- The characters of the pieces are those of the text that do not separate. -/
theorem mem_of_mem_pieces {piece : List Char} (hpiece : piece ∈ pieces separates s) {c : Char}
    (hc : c ∈ piece) : c ∈ s ∧ separates c = false := by
  induction s generalizing piece with
  | nil =>
    rw [List.mem_singleton.1 hpiece] at hc
    cases hc
  | cons d s ih =>
    cases hd : separates d with
    | true =>
      rw [pieces_cons_of_separates hd] at hpiece
      rcases List.mem_cons.1 hpiece with rfl | hpiece
      · cases hc
      · exact (ih hpiece hc).imp_left (List.mem_cons_of_mem d)
    | false =>
      obtain ⟨first, rest, hpieces⟩ := List.exists_cons_of_ne_nil (pieces_ne_nil separates s)
      rw [pieces_cons_of_not hd hpieces] at hpiece
      rw [hpieces] at ih
      rcases List.mem_cons.1 hpiece with rfl | hpiece
      · rcases List.mem_cons.1 hc with rfl | hc
        · exact ⟨List.mem_cons_self, hd⟩
        · exact (ih List.mem_cons_self hc).imp_left (List.mem_cons_of_mem d)
      · exact (ih (List.mem_cons_of_mem _ hpiece) hc).imp_left (List.mem_cons_of_mem d)

end Text

namespace Http

/-! ### Segments and slashes -/

/-- The segments between the slashes of a text. -/
abbrev segmentsOf (s : List Char) : List (List Char) := Text.pieces (· = '/') s

@[simp] theorem joined_append (segments segments' : List (List Char)) :
    joined (segments ++ segments') = joined segments ++ joined segments' := by simp [joined]

/-- The segments of a text, joined, are the text. -/
theorem joined_segmentsOf (s : List Char) : joined (segmentsOf s) = '/' :: s := by
  induction s with
  | nil => rfl
  | cons c s ih =>
    by_cases hc : c = '/'
    · subst hc
      rw [segmentsOf, Text.pieces_cons_of_separates (by simp), joined, List.flatMap_cons]
      exact congrArg (['/'] ++ ·) ih
    · obtain ⟨piece, rest, hpieces⟩ := List.exists_cons_of_ne_nil (Text.pieces_ne_nil (· = '/') s)
      rw [segmentsOf, hpieces, joined, List.flatMap_cons] at ih
      rw [segmentsOf, Text.pieces_cons_of_not (by simp [hc]) hpieces, joined, List.flatMap_cons]
      rw [List.cons_append, List.cons_inj_right] at ih
      rw [List.cons_append, List.cons_append, ih]

/-- Segments without slashes are the segments of what they are joined to. -/
theorem segmentsOf_of_joined_eq {segments : List (List Char)}
    (hslash : ∀ segment ∈ segments, '/' ∉ segment) {s : List Char}
    (h : joined segments = '/' :: s) : segmentsOf s = segments := by
  induction segments generalizing s with
  | nil => cases h
  | cons segment rest ih =>
    rw [List.forall_mem_cons] at hslash
    have hplain : ∀ c ∈ segment, decide (c = '/') = false := by
      intro c hc
      simpa using fun heq : c = '/' => hslash.1 (heq ▸ hc)
    rw [joined, List.flatMap_cons, List.cons_append, List.cons_inj_right] at h
    cases rest with
    | nil =>
      rw [List.flatMap_nil, List.append_nil] at h
      rw [← h]
      exact Text.pieces_eq_self hplain
    | cons next rest =>
      rw [List.flatMap_cons, List.cons_append] at h
      have hrest := ih hslash.2 (s := next ++ rest.flatMap ('/' :: ·)) rfl
      rw [← h, segmentsOf, Text.pieces_append (by simp), Text.pieces_eq_self hplain]
      exact congrArg ([segment] ++ ·) hrest

/-! ### Texts that are kept -/

/-- Whether a segment is one of dots, which resolving takes out. -/
def IsDots (segment : List Char) : Prop :=
  plainDots segment = ['.', '.'] ∨ plainDots segment = ['.']

instance : DecidablePred IsDots := fun _ => inferInstanceAs (Decidable (_ ∨ _))

/-- **A text that a path keeps.** -/
structure IsPathText (s : List Char) : Prop where
  plain : ∀ c ∈ s, inPathSet c = false
  noBackslash : '\\' ∉ s
  noDots : ∀ segment ∈ segmentsOf s, ¬IsDots segment

instance (s : List Char) : Decidable (IsPathText s) :=
  decidable_of_iff
    (s.all (!inPathSet ·) = true ∧ '\\' ∉ s ∧ ∀ segment ∈ segmentsOf s, ¬IsDots segment)
    ⟨fun ⟨hplain, hslash, hdots⟩ => ⟨by simpa using hplain, hslash, hdots⟩,
      fun h => ⟨by simpa using h.plain, h.noBackslash, h.noDots⟩⟩

theorem not_isDots_nil : ¬IsDots [] := by simp [IsDots, plainDots]

/-- Nothing is a text that a path keeps. -/
theorem isPathText_nil : IsPathText [] := by
  refine ⟨nofun, nofun, fun segment h => ?_⟩
  rw [List.mem_singleton.1 h]
  exact not_isDots_nil

/-- Two such texts with a slash between them are one. -/
theorem IsPathText.slash {s t : List Char} (hs : IsPathText s) (ht : IsPathText t) :
    IsPathText (s ++ '/' :: t) := by
  refine ⟨?_, ?_, ?_⟩
  · simp only [List.forall_mem_append, List.forall_mem_cons]
    exact ⟨hs.plain, by decide, ht.plain⟩
  · simp [hs.noBackslash, ht.noBackslash]
  · rw [segmentsOf, Text.pieces_append (by simp)]
    exact List.forall_mem_append.2 ⟨hs.noDots, ht.noDots⟩

/-! ### Resolving -/

/-- A segment that is not the last. -/
abbrev placedBefore (before : List (List Char)) (segment : List Char) : List (List Char) :=
  placed before segment false

/-- **The segments before the last are resolved whatever follows them.** -/
theorem resolve_append (before segments : List (List Char)) {rest : List (List Char)}
    (hne : rest ≠ []) :
    resolve before (segments ++ rest) = resolve (segments.foldl placedBefore before) rest := by
  induction segments generalizing before with
  | nil => rfl
  | cons segment segments ih =>
    have hlast : (segments ++ rest).isEmpty = false := by simp [hne]
    rw [List.cons_append, resolve, hlast, ih, List.foldl_cons]

theorem placed_of_plain {segment : List Char} (hdots : ¬IsDots segment)
    (hplain : ∀ c ∈ segment, inPathSet c = false) (before : List (List Char)) (isLast : Bool) :
    placed before segment isLast = segment :: before := by
  rw [IsDots, not_or] at hdots
  simp only [placed]
  rw [if_neg hdots.1, if_neg hdots.2, percentEncode_eq_self hplain]

/-- Segments that are plain are not changed. -/
theorem resolve_of_plain {segments : List (List Char)}
    (h : ∀ segment ∈ segments, ¬IsDots segment ∧ ∀ c ∈ segment, inPathSet c = false)
    (before : List (List Char)) : resolve before segments = before.reverse ++ segments := by
  induction segments generalizing before with
  | nil => rw [resolve, List.append_nil]
  | cons segment segments ih =>
    rw [List.forall_mem_cons] at h
    rw [resolve, placed_of_plain h.1.1 h.1.2, ih h.2, List.reverse_cons, List.append_assoc]
    rfl

/-- The segments of a text that is kept are plain. -/
theorem IsPathText.segments {s : List Char} (h : IsPathText s) :
    ∀ segment ∈ segmentsOf s, ¬IsDots segment ∧ ∀ c ∈ segment, inPathSet c = false :=
  fun segment hsegment => ⟨h.noDots segment hsegment,
    fun c hc => h.plain c (Text.mem_of_mem_pieces hsegment hc).1⟩

section Slash

variable {isSlash : Char → Bool}

/-- What tells slashes: a slash is one, and besides it at most the backslash. -/
structure TellsSlash (isSlash : Char → Bool) : Prop where
  slash : isSlash '/' = true
  other : ∀ c, isSlash c = true → c = '/' ∨ c = '\\'

theorem tellsSlash (scheme : String) : TellsSlash (Scheme.isSlash scheme) where
  slash := by simp [Scheme.isSlash]
  other c h := by
    simp only [Scheme.isSlash, Bool.or_eq_true, Bool.and_eq_true, decide_eq_true_eq] at h
    exact h.imp_right And.right

/-- Where there is no backslash, there is one way to tell slashes. -/
theorem TellsSlash.pieces_eq (hslash : TellsSlash isSlash) {s : List Char} (h : '\\' ∉ s) :
    Text.pieces isSlash s = segmentsOf s := by
  refine Text.pieces_congr fun c hc => ?_
  cases hc' : isSlash c with
  | true =>
    rcases hslash.other c hc' with rfl | rfl
    · simp
    · exact absurd hc h
  | false =>
    have hne : c ≠ '/' := fun heq => by simp [heq, hslash.slash] at hc'
    simp [hne]

/-- **A text that is kept stays at the end of a path**, whatever stands before its slash. -/
theorem segmentPath_append (hslash : TellsSlash isSlash) (before : List Char) {s : List Char}
    (hs : IsPathText s) :
    segmentPath isSlash (before ++ '/' :: s) =
      segmentPath isSlash (before ++ ['/']) ++ String.ofList s := by
  -- What stands before the last slash is resolved to the same segments with any text after it.
  have hafter : ∃ segments : List (List Char), ∀ t, Text.pieces isSlash
      (afterSlash isSlash (before ++ '/' :: t)) = segments ++ Text.pieces isSlash t := by
    cases before with
    | nil => exact ⟨[], fun t => by rw [List.nil_append, afterSlash, if_pos hslash.slash]; rfl⟩
    | cons c before =>
      cases hc : isSlash c with
      | true =>
        refine ⟨Text.pieces isSlash before, fun t => ?_⟩
        rw [List.cons_append, afterSlash, if_pos hc, Text.pieces_append hslash.slash]
      | false =>
        refine ⟨Text.pieces isSlash (c :: before), fun t => ?_⟩
        rw [List.cons_append, afterSlash, if_neg (by simp [hc]), ← List.cons_append,
          Text.pieces_append hslash.slash]
  obtain ⟨segments, hafter⟩ := hafter
  have hpath {t : List Char} (ht : IsPathText t) : segmentPath isSlash (before ++ '/' :: t) =
      String.ofList (joined (segments.foldl placedBefore []).reverse ++ '/' :: t) := by
    rw [segmentPath, hafter, resolve_append _ _ (Text.pieces_ne_nil isSlash t),
      hslash.pieces_eq ht.noBackslash, resolve_of_plain ht.segments, joined_append,
      joined_segmentsOf]
  rw [hpath hs, hpath isPathText_nil, ← String.ofList_append, List.append_assoc]
  rfl

end Slash

/-! ### No other text is kept -/

/-- What is encoded holds none of the characters that are encoded, and no slash or backslash that
was not there. -/
theorem of_mem_percentEncode {s : List Char} {c : Char} (h : c ∈ percentEncode inPathSet s) :
    inPathSet c = false ∧ (c = '/' ∨ c = '\\' → c ∈ s) := by
  obtain ⟨d, hd, hc⟩ := List.mem_flatMap.1 h
  split at hc
  · have hdigit : ∀ n, n < 16 → inPathSet (Text.upperHex n) = false ∧
        ¬(Text.upperHex n = '/' ∨ Text.upperHex n = '\\') := by decide
    obtain ⟨b, -, hc⟩ := List.mem_flatMap.1 hc
    have hb : b.toNat < 256 := b.toNat_lt
    rw [encodedByte] at hc
    simp only [List.mem_cons, List.not_mem_nil, or_false] at hc
    rcases hc with rfl | rfl | rfl
    · exact ⟨by decide, fun hmark => absurd hmark (by decide)⟩
    · exact (hdigit _ (by omega)).imp_right fun hnot h => absurd h hnot
    · exact (hdigit _ (by omega)).imp_right fun hnot h => absurd h hnot
  · rename_i hplain
    obtain rfl := List.mem_singleton.1 hc
    exact ⟨by simpa using hplain, fun _ => hd⟩

/-- What one segment leaves are the segments before it, an empty one, or itself if it is no
dots. -/
theorem of_mem_placed {before : List (List Char)} {segment first : List Char} {last : Bool}
    (h : segment ∈ placed before first last) :
    segment ∈ before ∨ segment = [] ∨ ¬IsDots first ∧ segment = percentEncode inPathSet first := by
  have hshortened : ∀ segment ∈ shortened before, segment ∈ before := by
    intro segment hsegment
    unfold shortened at hsegment
    split at hsegment
    · exact hsegment
    · split at hsegment
      · exact hsegment
      · exact List.mem_cons_of_mem _ hsegment
  unfold placed at h
  simp only at h
  split_ifs at h with hparent hlast hself hlast
  · exact (List.mem_cons.1 h).elim (fun h => .inr (.inl h)) fun h => .inl (hshortened _ h)
  · exact .inl (hshortened _ h)
  · exact (List.mem_cons.1 h).elim (fun h => .inr (.inl h)) .inl
  · exact .inl h
  · exact (List.mem_cons.1 h).elim (fun h => .inr (.inr ⟨not_or.2 ⟨hparent, hself⟩, h⟩)) .inl

/-- What resolving leaves are the segments before, empty ones, and ones that are no dots. -/
theorem of_mem_resolve {before segments : List (List Char)} {segment : List Char}
    (h : segment ∈ resolve before segments) :
    segment ∈ before ∨ segment = [] ∨
      ∃ source ∈ segments, ¬IsDots source ∧ segment = percentEncode inPathSet source := by
  induction segments generalizing before with
  | nil => exact .inl (List.mem_reverse.1 h)
  | cons first rest ih =>
    rw [resolve] at h
    rcases ih h with hplaced | hnil | ⟨source, hsource, hrest⟩
    · rcases of_mem_placed hplaced with hbefore | hnil | hfirst
      · exact .inl hbefore
      · exact .inr (.inl hnil)
      · exact .inr (.inr ⟨first, List.mem_cons_self, hfirst⟩)
    · exact .inr (.inl hnil)
    · exact .inr (.inr ⟨source, List.mem_cons_of_mem _ hsource, hrest⟩)

section Kept

variable {isSlash : Char → Bool} {s : List Char}

/-- What is left of a text is empty, or is what a piece of it that is no dots is encoded as. -/
theorem of_mem_resolve_pieces {segment : List Char}
    (h : segment ∈ resolve [] (Text.pieces isSlash s)) :
    segment = [] ∨ ∃ source ∈ Text.pieces isSlash s,
      ¬IsDots source ∧ segment = percentEncode inPathSet source := by
  simpa using of_mem_resolve h

/-- Nothing in what is left of a text has to be encoded or separates. -/
theorem clean_of_mem_resolve_pieces (hslash : TellsSlash isSlash) (hbackslash : isSlash '\\' = true)
    {segment : List Char} (hsegment : segment ∈ resolve [] (Text.pieces isSlash s)) {c : Char}
    (hc : c ∈ segment) : inPathSet c = false ∧ c ≠ '/' ∧ c ≠ '\\' := by
  rcases of_mem_resolve_pieces hsegment with rfl | ⟨source, hsource, -, rfl⟩
  · cases hc
  · obtain ⟨hplain, hmem⟩ := of_mem_percentEncode hc
    -- a separator was there before the encoding, but pieces hold none
    have hno (hmark : c = '/' ∨ c = '\\') : isSlash c = false :=
      (Text.mem_of_mem_pieces hsource (hmem hmark)).2
    refine ⟨hplain, fun heq => ?_, fun heq => ?_⟩
    · have hnot := hno (.inl heq)
      rw [heq, hslash.slash] at hnot
      cases hnot
    · have hnot := hno (.inr heq)
      rw [heq, hbackslash] at hnot
      cases hnot

/-- A text that a path keeps is left as it is. -/
theorem IsPathText.segmentPath_eq (hslash : TellsSlash isSlash) (h : IsPathText s) :
    segmentPath isSlash ('/' :: s) = String.ofList ('/' :: s) := by
  have hafter : afterSlash isSlash ('/' :: s) = s := by rw [afterSlash, if_pos hslash.slash]
  rw [segmentPath, hafter, hslash.pieces_eq h.noBackslash, resolve_of_plain h.segments,
    List.reverse_nil, List.nil_append, joined_segmentsOf]

/-- **The texts that a path keeps**, where a backslash is a slash. -/
theorem isPathText_iff (hslash : TellsSlash isSlash) (hbackslash : isSlash '\\' = true)
    (s : List Char) :
    IsPathText s ↔ segmentPath isSlash ('/' :: s) = String.ofList ('/' :: s) := by
  refine ⟨fun h => h.segmentPath_eq hslash, fun h => ?_⟩
  have hafter : afterSlash isSlash ('/' :: s) = s := by rw [afterSlash, if_pos hslash.slash]
  rw [segmentPath, hafter, String.ofList_inj] at h
  have hchars : ∀ c ∈ s, inPathSet c = false ∧ c ≠ '\\' := by
    intro c hc
    have hjoined : c ∈ joined (resolve [] (Text.pieces isSlash s)) :=
      h ▸ List.mem_cons_of_mem _ hc
    obtain ⟨segment, hsegment, hc⟩ := List.mem_flatMap.1 hjoined
    rcases List.mem_cons.1 hc with rfl | hc
    · decide
    · exact (clean_of_mem_resolve_pieces hslash hbackslash hsegment hc).imp_right And.right
  -- so the pieces are the segments, and resolving has left each as it was
  have hpieces := hslash.pieces_eq fun hc => (hchars _ hc).2 rfl
  have hsegments := segmentsOf_of_joined_eq (fun segment hsegment hc =>
    (clean_of_mem_resolve_pieces hslash hbackslash hsegment hc).2.1 rfl) h
  refine ⟨fun c hc => (hchars c hc).1, fun hc => (hchars _ hc).2 rfl, fun segment hsegment => ?_⟩
  rw [hsegments] at hsegment
  rcases of_mem_resolve_pieces hsegment with rfl | ⟨source, hsource, hdots, rfl⟩
  · exact not_isDots_nil
  · rw [hpieces] at hsource
    rw [percentEncode_eq_self fun c hc => (hchars c (Text.mem_of_mem_pieces hsource hc).1).1]
    exact hdots

end Kept

end Http

end RemountCheck
