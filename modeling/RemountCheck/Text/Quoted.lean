/-!
# Quoted shell words

A shell takes text between single quotes as it stands; a single quote itself can
only be written outside of them, after a backslash. A text is therefore written
as `'…'` with each of its quotes as `'\''`: the quotes close, one escaped quote
follows, the quotes open again.

* `RemountCheck.Text.Quoted.encode` – the quoted form of a text;
* `RemountCheck.Text.Quoted.decode?` – the text that a word means, if the word is
  made of escaped quotes and quoted stretches and of nothing else.

Reading a quoted text gives it back (`RemountCheck.Text.Quoted.decode?_encode`),
and words written side by side mean their texts side by side
(`RemountCheck.Text.Quoted.decode?_append`).
-/

namespace RemountCheck

namespace Text

namespace Quoted

/-! ### Writing -/

/-- The inside of a quoted text: each quote closes, is escaped and opens again. -/
def inside : List Char → List Char
  | [] => []
  | '\'' :: s => '\'' :: '\\' :: '\'' :: '\'' :: inside s
  | c :: s => c :: inside s

/-- **The quoted form** of a text. -/
def encode (s : List Char) : List Char := '\'' :: (inside s ++ ['\''])

/-! ### Reading -/

/-- What is read of a word from a point outside of quotes (`open?` is `none`) or
inside a quoted stretch (`open?` holds what stands in it so far, last first). A
stretch left open, and anything else outside of quotes, is no word. -/
def decodeFrom? : Option (List Char) → List Char → Option (List Char)
  | none, [] => some []
  | none, '\\' :: '\'' :: s => (decodeFrom? none s).map ('\'' :: ·)
  | none, '\'' :: s => decodeFrom? (some []) s
  | none, _ => none
  | some _, [] => none
  | some seen, '\'' :: s => (decodeFrom? none s).map (seen.reverse ++ ·)
  | some seen, c :: s => decodeFrom? (some (c :: seen)) s

/-- **The text that a word means**: the concatenation of its escaped quotes and
its quoted stretches. -/
def decode? (word : List Char) : Option (List Char) := decodeFrom? none word

/-! ### Reading back -/

/-- A word followed by more text means its own text, followed by the meaning of
the rest. -/
theorem decodeFrom?_append {st : Option (List Char)} {a t : List Char}
    (h : decodeFrom? st a = some t) (b : List Char) :
    decodeFrom? st (a ++ b) = (decode? b).map (t ++ ·) := by
  fun_induction decodeFrom? st a generalizing t with
  | case1 => simp_all [decode?]
  | case2 s ih =>
    obtain ⟨u, hu, rfl⟩ := Option.map_eq_some_iff.1 h
    simp only [List.cons_append, decodeFrom?, ih hu, Option.map_map]
    rfl
  | case3 s ih => simpa [decodeFrom?] using ih h
  | case4 => simp at h
  | case5 => simp at h
  | case6 seen s ih =>
    obtain ⟨u, hu, rfl⟩ := Option.map_eq_some_iff.1 h
    simp only [List.cons_append, decodeFrom?, ih hu, Option.map_map]
    congr 1
    funext v
    simp
  | case7 seen c s hc ih => simpa [decodeFrom?, hc] using ih h

/-- **Words side by side mean their texts side by side.** -/
theorem decode?_append {a t : List Char} (h : decode? a = some t) (b : List Char) :
    decode? (a ++ b) = (decode? b).map (t ++ ·) :=
  decodeFrom?_append h b

/-- Inside of quotes, the inside of a quoted text and the closing quote are read
as that text. -/
theorem decodeFrom?_inside (seen s : List Char) :
    decodeFrom? (some seen) (inside s ++ ['\'']) = some (seen.reverse ++ s) := by
  fun_induction inside s generalizing seen with
  | case1 => simp [decodeFrom?]
  | case2 s ih => simp [decodeFrom?, ih]
  | case3 c s _ ih => simp [decodeFrom?, ih]

/-- **A quoted text means itself.** -/
theorem decode?_encode (s : List Char) : decode? (encode s) = some s := by
  simpa [decode?, encode, decodeFrom?] using decodeFrom?_inside [] s

end Quoted

end Text

end RemountCheck
