/-!
# Blank characters

* `RemountCheck.Text.isBlank` – the characters with Unicode's `White_Space`
  property: the ASCII blanks from tab to carriage return, the space, and the
  spaces and separators of the other blocks. The zero-width characters, the
  byte-order mark and the ASCII information separators are *not* among them;
* `RemountCheck.Text.trim` – a text without the blanks at its ends;
* `RemountCheck.Text.firstWord` – the first run of characters that are not blank.
-/

namespace RemountCheck

namespace Text

/-- **Unicode's `White_Space`**, by code point. -/
def isBlank (c : Char) : Bool :=
  let n := c.toNat
  (0x09 ≤ n && n ≤ 0x0D) || n == 0x20 || n == 0x85 || n == 0xA0 || n == 0x1680 ||
    (0x2000 ≤ n && n ≤ 0x200A) || n == 0x2028 || n == 0x2029 || n == 0x202F || n == 0x205F ||
    n == 0x3000

/-- The text without the blanks at its start and at its end. -/
def trim (s : List Char) : List Char :=
  ((s.dropWhile isBlank).reverse.dropWhile isBlank).reverse

/-- The first run of characters that are not blank; empty where all are. -/
def firstWord (s : List Char) : List Char :=
  (s.dropWhile isBlank).takeWhile (!isBlank ·)

/-- A text without blanks is its own first word, whatever blank text follows. -/
theorem firstWord_append_blank {s : List Char} (h : ∀ c ∈ s, isBlank c = false) (hs : s ≠ [])
    (b : Char) (hb : isBlank b = true) (rest : List Char) : firstWord (s ++ b :: rest) = s := by
  have take : ∀ t : List Char, (∀ c ∈ t, isBlank c = false) →
      (t ++ b :: rest).takeWhile (!isBlank ·) = t := by
    intro t ht
    induction t with
    | nil => simp [hb]
    | cons c t ih => simp [ht c (by simp), ih (fun d hd => ht d (by simp [hd]))]
  cases s with
  | nil => exact absurd rfl hs
  | cons c s =>
    have hc : isBlank c = false := h c (by simp)
    rw [firstWord, List.cons_append, List.dropWhile_cons_of_neg (by simp [hc]), ← List.cons_append]
    exact take _ h

end Text

end RemountCheck
