/-!
# Affixes of a text

Texts are taken apart at their ends and at separators here, as lists of
characters, so that every function is a recursion on the list and computes by
plain unfolding:

* `RemountCheck.Text.dropTrailing`, `RemountCheck.Text.dropLeading` – a text
  without the run of one character at its end, or at its start;
* `RemountCheck.Text.pieces` – a text cut at every separating character;
* `RemountCheck.Text.splitLast?` – a text cut at the **last** occurrence of a
  separator;
* `RemountCheck.Text.contains` – whether one text occurs inside another.

A beginning is taken off with `List.isPrefixOf?` of the standard library.
-/

namespace RemountCheck

namespace Text

/-! ### Runs at the ends -/

/-- The text without the run of `c` at its end. -/
def dropTrailing (c : Char) (s : List Char) : List Char :=
  (s.reverse.dropWhile (· == c)).reverse

/-- The text without the run of `c` at its start. -/
def dropLeading (c : Char) (s : List Char) : List Char :=
  s.dropWhile (· == c)

@[simp] theorem dropTrailing_nil (c : Char) : dropTrailing c [] = [] := rfl

/-- A run of `c` put at the end is taken off again. -/
theorem dropTrailing_append_replicate (c : Char) (s : List Char) (n : Nat) :
    dropTrailing c (s ++ List.replicate n c) = dropTrailing c s := by
  induction n with
  | zero => simp
  | succ n ih =>
    rw [List.replicate_succ', ← List.append_assoc]
    simp [dropTrailing] at ih ⊢

/-! ### Separators -/

/-- **The pieces of a text** between the characters that separate. There is one
piece more than there are separators, so a text without any is its only piece. -/
def pieces (separates : Char → Bool) (s : List Char) : List (List Char) :=
  s.foldr
    (fun c rest =>
      if separates c then [] :: rest
      else
        match rest with
        | [] => [[c]]
        | piece :: rest => (c :: piece) :: rest)
    [[]]

/-- A text without separators is its only piece. -/
theorem pieces_eq_self {separates : Char → Bool} {s : List Char}
    (h : ∀ c ∈ s, separates c = false) : pieces separates s = [s] := by
  induction s with
  | nil => rfl
  | cons c s ih =>
    have hs : pieces separates s = [s] := ih fun d hd => h d (by simp [hd])
    simp only [pieces] at hs
    simp [pieces, h c (by simp), hs]

/-- **The last cut**: what stands before and after the last occurrence of `sep`
in the text, or nothing where `sep` does not occur. -/
def splitLast? (sep : List Char) : List Char → Option (List Char × List Char)
  | [] => (sep.isPrefixOf? []).map (([], ·))
  | c :: s =>
    match splitLast? sep s with
    | some (before, after) => some (c :: before, after)
    | none => (sep.isPrefixOf? (c :: s)).map (([], ·))

/-- Whether `needle` occurs in the text; the empty text occurs everywhere. -/
def contains (needle : List Char) : List Char → Bool
  | [] => needle.isEmpty
  | c :: s => needle.isPrefixOf (c :: s) || contains needle s

end Text

end RemountCheck
