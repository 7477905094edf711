import RemountCheck.Check.Command

/-!
# The grammar of quoted words

`RemountCheck.Text.Quoted` writes a text by replacing each of its quotes, and reads a word one
character at a time. Neither says what a word is. This module says it by a grammar, and proves that
the reading accepts the words of the grammar and nothing else.

* `RemountCheck.Text.Quoted.Token` – an escaped quote, or a quoted stretch of text without quotes;
* `RemountCheck.Text.Quoted.wordOf`, `RemountCheck.Text.Quoted.meaningOf` – what tokens are written
  as, and what they mean;
* `RemountCheck.Text.Quoted.read?` – the token that a word begins with, if it begins with one;
* `RemountCheck.Text.Quoted.readAll` – the reading as a loop, which takes one token off the word in
  each turn until nothing is left;
* `RemountCheck.Text.Quoted.decode?_reads_tokens` – the law of quoted words.

| token | its word | its meaning |
|---|---|---|
| an escaped quote | `\'` | a quote |
| a stretch | `'…'` | what stands between the quotes |

All rests on one fact: a word begins with a token in at most one way
(`RemountCheck.Text.Quoted.read?_eq_some_iff`), since its first character tells the kind of the
token, and a stretch ends with the first quote that follows. So a word is made of tokens in at most
one way, and whoever takes off one token after the other finds it.
-/

namespace RemountCheck

namespace Text

namespace Quoted

/-! ### Tokens -/

/-- **A plain text**: one without quotes. -/
abbrev Plain := { text : List Char // '\'' ∉ text }

namespace Plain

/-- The empty text. -/
def nil : Plain := ⟨[], List.not_mem_nil⟩

/-- A plain text with one more character before it. -/
def cons (c : Char) (hc : c ≠ '\'') (text : Plain) : Plain :=
  ⟨c :: text.1, by
    rw [List.mem_cons, not_or]
    exact ⟨hc.symm, text.2⟩⟩

@[simp] theorem val_nil : nil.1 = [] := rfl

@[simp] theorem val_cons (c : Char) (hc : c ≠ '\'') (text : Plain) :
    (cons c hc text).1 = c :: text.1 := rfl

/-- Plain texts are built up from the empty one. -/
theorem induction {motive : Plain → Prop} (nil : motive nil)
    (cons : ∀ (c : Char) (hc : c ≠ '\'') (text : Plain), motive text → motive (cons c hc text))
    (text : Plain) : motive text := by
  obtain ⟨text, hplain⟩ := text
  induction text with
  | nil => exact nil
  | cons c text ih =>
    rw [List.mem_cons, not_or] at hplain
    exact cons c (Ne.symm hplain.1) ⟨text, hplain.2⟩ (ih hplain.2)

end Plain

/-- **A token** of a word. -/
inductive Token where
  /-- A quote, outside of quotes and after a backslash. -/
  | escaped
  /-- A plain text between quotes, which may be empty. -/
  | stretch (text : Plain)

namespace Token

/-- What a token is written as. -/
def word : Token → List Char
  | escaped => ['\\', '\'']
  | stretch text => '\'' :: (text.1 ++ ['\''])

/-- What a token means. -/
def meaning : Token → List Char
  | escaped => ['\'']
  | stretch text => text.1

theorem two_le_length_word (token : Token) : 2 ≤ token.word.length := by
  cases token <;> simp [word]

end Token

/-- **What tokens are written as**, side by side. -/
def wordOf (tokens : List Token) : List Char := tokens.flatMap Token.word

/-- **What tokens mean**, side by side. -/
def meaningOf (tokens : List Token) : List Char := tokens.flatMap Token.meaning

@[simp] theorem wordOf_nil : wordOf [] = [] := rfl

@[simp] theorem wordOf_cons (token : Token) (tokens : List Token) :
    wordOf (token :: tokens) = token.word ++ wordOf tokens := rfl

@[simp] theorem meaningOf_nil : meaningOf [] = [] := rfl

@[simp] theorem meaningOf_cons (token : Token) (tokens : List Token) :
    meaningOf (token :: tokens) = token.meaning ++ meaningOf tokens := rfl

/-! ### Reading one token -/

/-- What stands before the first quote, and what stands after it. -/
def untilQuote? : List Char → Option (Plain × List Char)
  | [] => none
  | c :: s =>
    if hc : c = '\'' then some (.nil, s)
    else (untilQuote? s).map fun (text, rest) => (text.cons c hc, rest)

/-- **The token that a word begins with**, and what follows it. -/
def read? : List Char → Option (Token × List Char)
  | '\\' :: '\'' :: s => some (.escaped, s)
  | '\'' :: s => (untilQuote? s).map fun (text, rest) => (.stretch text, rest)
  | _ => none

theorem untilQuote?_append (text : Plain) (rest : List Char) :
    untilQuote? (text.1 ++ '\'' :: rest) = some (text, rest) := by
  induction text using Plain.induction with
  | nil => simp [untilQuote?]
  | cons c hc text ih => simp [untilQuote?, hc, ih]

theorem eq_append_of_untilQuote? {s rest : List Char} {text : Plain}
    (h : untilQuote? s = some (text, rest)) : s = text.1 ++ '\'' :: rest := by
  induction s generalizing text with
  | nil => simp [untilQuote?] at h
  | cons c s ih =>
    by_cases hc : c = '\''
    · simp only [untilQuote?, hc, ↓reduceDIte, Option.some.injEq, Prod.mk.injEq] at h
      obtain ⟨rfl, rfl⟩ := h
      rw [hc, Plain.val_nil, List.nil_append]
    · simp only [untilQuote?, hc, ↓reduceDIte, Option.map_eq_some_iff, Prod.mk.injEq,
        Prod.exists] at h
      obtain ⟨text', rest', hrest, rfl, rfl⟩ := h
      rw [ih hrest, Plain.val_cons, List.cons_append]

/-- **A word begins with a token in at most one way.** -/
theorem read?_eq_some_iff {w rest : List Char} {token : Token} :
    read? w = some (token, rest) ↔ w = token.word ++ rest := by
  constructor
  · intro h
    unfold read? at h
    split at h
    · simp only [Option.some.injEq, Prod.mk.injEq] at h
      obtain ⟨rfl, rfl⟩ := h
      rfl
    · simp only [Option.map_eq_some_iff, Prod.mk.injEq, Prod.exists] at h
      obtain ⟨text, rest', huntil, rfl, rfl⟩ := h
      simp [eq_append_of_untilQuote? huntil, Token.word]
    · simp at h
  · rintro rfl
    cases token with
    | escaped => rfl
    | stretch text => simp [Token.word, read?, untilQuote?_append]

/-- **A word is made of tokens in at most one way.** -/
theorem wordOf_injective {tokens tokens' : List Token} (h : wordOf tokens = wordOf tokens') :
    tokens = tokens' := by
  have hne (token : Token) (rest : List Char) : token.word ++ rest ≠ [] := by
    intro hnil
    have hlength := congrArg List.length hnil
    have htwo := token.two_le_length_word
    simp only [List.length_append, List.length_nil] at hlength
    omega
  induction tokens generalizing tokens' with
  | nil =>
    cases tokens' with
    | nil => rfl
    | cons token' rest' => exact absurd h.symm (hne token' _)
  | cons token rest ih =>
    cases tokens' with
    | nil => exact absurd h (hne token _)
    | cons token' rest' =>
      -- both words begin with their first token, and there is but one
      have hread : read? (wordOf (token :: rest)) = some (token, wordOf rest) :=
        read?_eq_some_iff.mpr rfl
      rw [h, wordOf_cons, read?_eq_some_iff.mpr rfl] at hread
      simp only [Option.some.injEq, Prod.mk.injEq] at hread
      rw [hread.1, ih hread.2.symm]

/-! ### The words that are read -/

/-- Inside of quotes, a plain text and the closing quote are read as that text. -/
theorem decodeFrom?_plain (seen : List Char) (text : Plain) :
    decodeFrom? (some seen) (text.1 ++ ['\'']) = some (seen.reverse ++ text.1) := by
  induction text using Plain.induction generalizing seen with
  | nil => simp [decodeFrom?]
  | cons c _ text ih => simp [decodeFrom?, ih (c :: seen)]

/-- A token is read as what it means. -/
theorem decode?_word (token : Token) : decode? token.word = some token.meaning := by
  cases token with
  | escaped => rfl
  | stretch text =>
    simp only [decode?, Token.word, decodeFrom?, decodeFrom?_plain, List.reverse_nil,
      List.nil_append, Token.meaning]

/-- **Tokens are read as what they mean.** -/
theorem decode?_wordOf (tokens : List Token) :
    decode? (wordOf tokens) = some (meaningOf tokens) := by
  induction tokens with
  | nil => rfl
  | cons token tokens ih =>
    rw [wordOf_cons, decode?_append (decode?_word token), ih]
    rfl

/-- **What is left of a word that is made of tokens**, and the text that is read in the end: from a
point outside of quotes, what is left is made of tokens; from a point inside, it is the end of a
stretch and then made of tokens. -/
def IsRest : Option (List Char) → List Char → List Char → Prop
  | none, w, t => ∃ tokens, wordOf tokens = w ∧ meaningOf tokens = t
  | some seen, w, t => ∃ (text : Plain) (tokens : List Token),
    text.1 ++ '\'' :: wordOf tokens = w ∧ seen.reverse ++ (text.1 ++ meaningOf tokens) = t

/-- Only what is left of a word that is made of tokens is read. -/
theorem isRest_of_decodeFrom? {st : Option (List Char)} {w t : List Char}
    (h : decodeFrom? st w = some t) : IsRest st w t := by
  fun_induction decodeFrom? st w generalizing t with
  | case1 =>
    obtain rfl := Option.some.inj h
    exact ⟨[], rfl, rfl⟩
  | case2 s ih =>
    obtain ⟨u, hu, rfl⟩ := Option.map_eq_some_iff.mp h
    obtain ⟨tokens, rfl, rfl⟩ := ih hu
    exact ⟨.escaped :: tokens, rfl, rfl⟩
  | case3 s ih =>
    obtain ⟨text, tokens, rfl, rfl⟩ := ih h
    exact ⟨.stretch text :: tokens, by simp [Token.word], rfl⟩
  | case4 => simp at h
  | case5 => simp at h
  | case6 seen s ih =>
    obtain ⟨u, hu, rfl⟩ := Option.map_eq_some_iff.mp h
    obtain ⟨tokens, rfl, rfl⟩ := ih hu
    exact ⟨.nil, tokens, rfl, rfl⟩
  | case7 seen c s hc ih =>
    obtain ⟨text, tokens, rfl, rfl⟩ := ih h
    exact ⟨text.cons c hc, tokens, rfl, by simp⟩

/-- **A word is read exactly if it is made of tokens**, and then as what they mean. -/
theorem decode?_eq_some_iff {w t : List Char} :
    decode? w = some t ↔ ∃ tokens, wordOf tokens = w ∧ meaningOf tokens = t := by
  constructor
  · exact isRest_of_decodeFrom?
  · rintro ⟨tokens, rfl, rfl⟩
    exact decode?_wordOf tokens

/-! ### Reading in a loop -/

/-- **The reading as a loop**, with what is read so far and what is left of the word. Each turn
takes off one token; the loop ends where nothing is left, or where no token is found. If the turns
do not suffice, it does not end. -/
def readAll : (turns : Nat) → (seen rest : List Char) → Option (Option (List Char))
  | 0, _, _ => none
  | turns + 1, seen, rest =>
    if rest = [] then some (some seen)
    else
      match read? rest with
      | none => some none
      | some (token, rest) => readAll turns (seen ++ token.meaning) rest

/-- **The loop ends on every word**, after one turn for each two characters at most and one more,
and comes to what is read one character at a time. -/
theorem readAll_eq {turns : Nat} {seen rest : List Char} (h : rest.length < 2 * turns) :
    readAll turns seen rest = some ((decode? rest).map (seen ++ ·)) := by
  induction turns generalizing seen rest with
  | zero => omega
  | succ turns ih =>
    by_cases hnil : rest = []
    · simp [readAll, hnil, decode?, decodeFrom?]
    cases hread : read? rest with
    | some found =>
      obtain ⟨token, rest'⟩ := found
      obtain rfl := read?_eq_some_iff.mp hread
      have htwo := token.two_le_length_word
      rw [List.length_append] at h
      rw [readAll, if_neg hnil, hread, decode?_append (decode?_word token), Option.map_map]
      simp only
      rw [ih (by omega)]
      simp [Function.comp_def]
    | none =>
      have hnone : decode? rest = none := by
        refine Option.eq_none_iff_forall_ne_some.mpr fun t ht => ?_
        obtain ⟨tokens, rfl, -⟩ := decode?_eq_some_iff.mp ht
        cases tokens with
        | nil => exact hnil rfl
        | cons token tokens =>
          rw [read?_eq_some_iff.mpr (wordOf_cons token tokens)] at hread
          cases hread
      simp [readAll, hnil, hread, hnone]

/-! ### The law of quoted words -/

/-- **The law of quoted words.** A word is read exactly if it is made of tokens, as what these
mean, and it is made of them in one way only. A loop that takes off one token in each turn ends on
every word and comes to the same. The quoted form of a text is a word that means the text, and the
quoted forms of two texts side by side mean the texts side by side. -/
theorem decode?_reads_tokens :
    (∀ w t : List Char,
        decode? w = some t ↔ ∃ tokens, wordOf tokens = w ∧ meaningOf tokens = t) ∧
      (∀ tokens tokens' : List Token, wordOf tokens = wordOf tokens' → tokens = tokens') ∧
      (∀ (w : List Char) (turns : Nat), w.length < 2 * turns →
        readAll turns [] w = some (decode? w)) ∧
      (∀ s : String, ∃ tokens, wordOf tokens = (quoted s).toList ∧ meaningOf tokens = s.toList) ∧
      ∀ a b : String, decode? (quoted a ++ quoted b).toList = some (a ++ b).toList := by
  refine ⟨fun w t => decode?_eq_some_iff, fun tokens tokens' => wordOf_injective,
    fun w turns h => ?_, fun s => ?_, fun a b => ?_⟩
  · rw [readAll_eq h]
    simp
  · refine decode?_eq_some_iff.mp ?_
    simpa [quoted] using decode?_encode s.toList
  · simp [quoted, decode?_append (decode?_encode a.toList), decode?_encode]

end Quoted

end Text

end RemountCheck
