import Mathlib.Data.List.Chain
import RemountCheck.Json.Token

/-!
# How tokens are spelled

A token can be spelled in several ways: a character of a string literal may stand for itself or be
escaped, by a short escape or by four digits of either case, and any blanks may stand between two
tokens. This module says which characters spell a sequence of tokens, apart from the machine that
cuts a text into tokens, and proves that the machine finds the tokens of whatever spells them.

* `RemountCheck.Json.Piece.Spelled`, `RemountCheck.Json.Number.Spelled`,
  `RemountCheck.Json.Token.Spelled` – what spells a piece of a literal, a number and a token;
* `RemountCheck.Json.Spelled` – what spells a sequence of tokens;
* `RemountCheck.Json.tokens?_of_spelled` – the machine reads it.

| what is read | mode of the machine | lemma |
|---|---|---|
| blanks | between | `RemountCheck.Json.tokensFrom?_blank` |
| a string literal, piece by piece | literal | `RemountCheck.Json.tokensFrom?_literal` |
| a constant or a number | word | `RemountCheck.Json.tokensFrom?_word` |

A word ends only where something else begins, so two of them cannot stand side by side
(`RemountCheck.Json.Separated`). No document asks for that.
-/

namespace RemountCheck

namespace Json

/-! ### String literals -/

/-- The short escapes: what follows the backslash, and the character that is meant. -/
def shortEscapes : List (Char × Char) :=
  [('"', '"'), ('\\', '\\'), ('/', '/'), ('b', '\x08'), ('f', '\x0c'), ('n', '\n'), ('r', '\r'),
    ('t', '\t')]

/-- **What spells a piece of a literal.** -/
inductive Piece.Spelled : Piece → List Char → Prop where
  /-- A character that is neither a control nor a mark stands for itself. -/
  | plain {c : Char} (control : 0x20 ≤ c.toNat) (quote : c ≠ '"') (backslash : c ≠ '\\') :
    Spelled (.char c) [c]
  /-- A short escape. -/
  | escape {e c : Char} (short : (e, c) ∈ shortEscapes) : Spelled (.char c) ['\\', e]
  /-- Four digits, of either case. -/
  | digits {c₁ c₂ c₃ c₄ : Char} {d₁ d₂ d₃ d₄ : Nat} (h₁ : Text.hexDigit? c₁ = some d₁)
    (h₂ : Text.hexDigit? c₂ = some d₂) (h₃ : Text.hexDigit? c₃ = some d₃)
    (h₄ : Text.hexDigit? c₄ = some d₄) :
    Spelled (.unit (((d₁ * 16 + d₂) * 16 + d₃) * 16 + d₄).toUInt16) ['\\', 'u', c₁, c₂, c₃, c₄]

/-- **What spells the inside of a literal**: what spells its pieces. -/
inductive Literal.Spelled : Literal → List Char → Prop where
  | nil : Spelled [] []
  | cons {piece : Piece} {s : List Char} {literal : Literal} {t : List Char}
    (here : piece.Spelled s) (rest : Spelled literal t) : Spelled (piece :: literal) (s ++ t)

/-! ### Numbers -/

/-- What spells digits: for each the character that has its value. -/
def DigitsSpelled (digits : List Nat) (s : List Char) : Prop :=
  List.Forall₂ (fun d c => Text.digit? c = some d) digits s

/-- What spells the digits before the point: there is one at least, and a zero stands alone. -/
def WholeSpelled (digits : List Nat) (s : List Char) : Prop :=
  DigitsSpelled digits s ∧ digits ≠ [] ∧ (digits.head? = some 0 → digits = [0])

/-- What spells the digits after the point: nothing, or the point and the digits. -/
inductive FractionSpelled : List Nat → List Char → Prop where
  | none : FractionSpelled [] []
  | some {digits : List Nat} {s : List Char} (any : digits ≠ []) (h : DigitsSpelled digits s) :
    FractionSpelled digits ('.' :: s)

/-- What spells the sign of an exponent, by whether it is negative. -/
inductive SignSpelled : Bool → List Char → Prop where
  | none : SignSpelled false []
  | plus : SignSpelled false ['+']
  | minus : SignSpelled true ['-']

/-- What spells an exponent: nothing, or the letter of either case, a sign and digits. -/
inductive ExponentSpelled : Option Exponent → List Char → Prop where
  | none : ExponentSpelled none []
  | some {letter : Char} {negative : Bool} {sign : List Char} {digits : List Nat} {s : List Char}
    (letter_eq : letter = 'e' ∨ letter = 'E') (hsign : SignSpelled negative sign)
    (any : digits ≠ []) (h : DigitsSpelled digits s) :
    ExponentSpelled (some ⟨negative, digits⟩) (letter :: (sign ++ s))

/-- **What spells a number.** -/
def Number.Spelled (n : Number) (s : List Char) : Prop :=
  ∃ whole fraction exponent,
    s = (if n.negative then ['-'] else []) ++ (whole ++ (fraction ++ exponent)) ∧
      WholeSpelled n.whole whole ∧ FractionSpelled n.fraction fraction ∧
      ExponentSpelled n.exponent exponent

/-! ### Tokens -/

/-- **What spells a token.** -/
inductive Token.Spelled : Token → List Char → Prop where
  | openArray : Spelled .openArray ['[']
  | closeArray : Spelled .closeArray [']']
  | openObject : Spelled .openObject ['{']
  | closeObject : Spelled .closeObject ['}']
  | comma : Spelled .comma [',']
  | colon : Spelled .colon [':']
  | null : Spelled .null ['n', 'u', 'l', 'l']
  | true : Spelled (.bool true) ['t', 'r', 'u', 'e']
  | false : Spelled (.bool false) ['f', 'a', 'l', 's', 'e']
  | number {n : Number} {s : List Char} (h : n.Spelled s) : Spelled (.number n) s
  | string {literal : Literal} {s : List Char} (h : literal.Spelled s) :
    Spelled (.string literal) ('"' :: (s ++ ['"']))

/-- A text of blanks. -/
def IsBlank (s : List Char) : Prop := ∀ c ∈ s, isSpace c = true

/-- **What spells tokens**: what spells each of them, in order, with blanks around them. -/
inductive Spelled : List Token → List Char → Prop where
  | nil {blank : List Char} (hblank : IsBlank blank) : Spelled [] blank
  | cons {token : Token} {tokens : List Token} {blank s t : List Char} (hblank : IsBlank blank)
    (here : token.Spelled s) (rest : Spelled tokens t) :
    Spelled (token :: tokens) (blank ++ (s ++ t))

/-- Whether a token is a constant or a number. -/
def Token.isWord : Token → Bool
  | .null | .bool _ | .number _ => true
  | _ => false

/-- **No two words stand side by side.** -/
def Separated (tokens : List Token) : Prop :=
  tokens.IsChain fun a b => a.isWord = true → b.isWord = false

theorem isBlank_nil : IsBlank [] := by simp [IsBlank]

/-- Blanks before tokens change nothing. -/
theorem Spelled.after_blank {tokens : List Token} {blank s : List Char} (hblank : IsBlank blank)
    (h : Spelled tokens s) : Spelled tokens (blank ++ s) := by
  have happend {more : List Char} (hmore : IsBlank more) : IsBlank (blank ++ more) := by
    rw [IsBlank, List.forall_mem_append]
    exact ⟨hblank, hmore⟩
  cases h with
  | nil hmore => exact .nil (happend hmore)
  | cons hmore here rest =>
    rw [← List.append_assoc]
    exact .cons (happend hmore) here rest

/-- Tokens one after the other are spelled one after the other. -/
theorem Spelled.append {tokens more : List Token} {s t : List Char} (h : Spelled tokens s)
    (h' : Spelled more t) : Spelled (tokens ++ more) (s ++ t) := by
  induction h with
  | nil hblank => exact h'.after_blank hblank
  | cons hblank here _ ih =>
    rw [List.cons_append, List.append_assoc, List.append_assoc]
    exact .cons hblank here ih

/-- A token in front of others, with no blanks. -/
theorem Spelled.cons_token {token : Token} {tokens : List Token} {s t : List Char}
    (here : token.Spelled s) (rest : Spelled tokens t) : Spelled (token :: tokens) (s ++ t) :=
  .cons isBlank_nil here rest

/-- One token and nothing else. -/
theorem Spelled.of_token {token : Token} {s : List Char} (here : token.Spelled s) :
    Spelled [token] s := by
  have hone := Spelled.cons_token here (.nil isBlank_nil)
  rwa [List.append_nil] at hone

/-! ### One step of the machine -/

/-- A character that completes no tokens. -/
theorem tokensFrom?_quiet {mode mode' : Mode} {c : Char} (s : List Char)
    (h : mode.step? c = some ([], mode')) : tokensFrom? mode (c :: s) = tokensFrom? mode' s := by
  rw [tokensFrom?, h]
  cases hrest : tokensFrom? mode' s <;> simp [hrest]

/-- A character that completes one token. -/
theorem tokensFrom?_one {mode mode' : Mode} {c : Char} {token : Token} (s : List Char)
    (h : mode.step? c = some ([token], mode')) :
    tokensFrom? mode (c :: s) = (tokensFrom? mode' s).map (token :: ·) := by
  rw [tokensFrom?, h]
  rfl

/-- Blanks between tokens are passed over. -/
theorem tokensFrom?_blank {blank : List Char} (hblank : IsBlank blank) (s : List Char) :
    tokensFrom? .between (blank ++ s) = tokensFrom? .between s := by
  induction blank with
  | nil => rfl
  | cons c blank ih =>
    have hstep : Mode.step? .between c = some ([], .between) := by
      rw [Mode.step?, opening, if_pos (hblank c (by simp))]
    rw [List.cons_append, tokensFrom?_quiet _ hstep]
    exact ih fun d hd => hblank d (List.mem_cons_of_mem c hd)

/-! ### Reading string literals -/

/-- A short escape is read as what it stands for. -/
theorem shortEscape?_of_mem {e c : Char} (h : (e, c) ∈ shortEscapes) :
    shortEscape? e = some c ∧ e ≠ 'u' := by
  have all : ∀ p ∈ shortEscapes, shortEscape? p.1 = some p.2 ∧ p.1 ≠ 'u' := by decide
  exact all (e, c) h

/-- One piece of a literal. -/
theorem tokensFrom?_piece {piece : Piece} {s : List Char} (h : piece.Spelled s) (seen : Literal)
    (rest : List Char) :
    tokensFrom? (.literal seen) (s ++ rest) = tokensFrom? (.literal (piece :: seen)) rest := by
  have hescape : Mode.step? (.literal seen) '\\' = some ([], .escape seen) := rfl
  cases h with
  | @plain c control quote backslash =>
    have hstep : Mode.step? (.literal seen) c = some ([], .literal (.char c :: seen)) := by
      rw [Mode.step?, if_neg quote, if_neg backslash, if_neg (by omega)]
    exact tokensFrom?_quiet rest hstep
  | @escape e c short =>
    obtain ⟨hshort, hu⟩ := shortEscape?_of_mem short
    have hstep : Mode.step? (.escape seen) e = some ([], .literal (.char c :: seen)) := by
      rw [Mode.step?, if_neg hu, hshort]
      rfl
    exact (tokensFrom?_quiet _ hescape).trans (tokensFrom?_quiet rest hstep)
  | digits h₁ h₂ h₃ h₄ =>
    have hdigit {left value : Nat} {c : Char} {d : Nat} (hd : Text.hexDigit? c = some d) :
        Mode.step? (.digits seen (left + 1) value) c =
          some ([], .digits seen left (value * 16 + d)) := by
      rw [Mode.step?, hd]
      rfl
    have hlast {value : Nat} {c : Char} {d : Nat} (hd : Text.hexDigit? c = some d) :
        Mode.step? (.digits seen 0 value) c =
          some ([], .literal (.unit (value * 16 + d).toUInt16 :: seen)) := by
      rw [Mode.step?, hd]
      rfl
    have hu : Mode.step? (.escape seen) 'u' = some ([], .digits seen 3 0) := rfl
    refine (tokensFrom?_quiet _ hescape).trans ((tokensFrom?_quiet _ hu).trans ?_)
    refine (tokensFrom?_quiet _ (hdigit h₁)).trans ((tokensFrom?_quiet _ (hdigit h₂)).trans ?_)
    refine (tokensFrom?_quiet _ (hdigit h₃)).trans ((tokensFrom?_quiet _ (hlast h₄)).trans ?_)
    rw [Nat.zero_mul, Nat.zero_add]
    rfl

/-- **A string literal** up to its closing quote. -/
theorem tokensFrom?_literal {literal : Literal} {s : List Char} (h : literal.Spelled s)
    (seen : Literal) (rest : List Char) :
    tokensFrom? (.literal seen) (s ++ '"' :: rest) =
      (tokensFrom? .between rest).map (.string (seen.reverse ++ literal) :: ·) := by
  induction h generalizing seen with
  | nil =>
    rw [List.append_nil]
    exact tokensFrom?_one rest rfl
  | cons here _ ih =>
    rw [List.append_assoc, tokensFrom?_piece here, ih, List.reverse_cons, List.append_assoc]
    rfl

/-! ### Reading words -/

/-- Whether a character may stand in a word. -/
def isWordChar (c : Char) : Bool := !isSpace c && c ≠ '"' && (punctuation? c).isNone

theorem opening_of_isWordChar {c : Char} (h : isWordChar c = true) :
    opening c = ([], .word [c]) := by
  simp only [isWordChar, Bool.and_eq_true, Bool.not_eq_true', decide_eq_true_eq,
    Option.isNone_iff_eq_none] at h
  obtain ⟨⟨hspace, hquote⟩, hmark⟩ := h
  rw [opening, if_neg (by simp [hspace]), if_neg hquote, hmark]

theorem opening_ne_word {c : Char} (h : isWordChar c = false) (w : List Char) :
    opening c ≠ ([], .word w) := by
  intro hw
  rw [opening] at hw
  by_cases hspace : isSpace c = true
  · rw [if_pos hspace] at hw
    simp at hw
  · rw [if_neg hspace] at hw
    by_cases hquote : c = '"'
    · rw [if_pos hquote] at hw
      simp at hw
    · rw [if_neg hquote] at hw
      cases hmark : punctuation? c with
      | some token => simp [hmark] at hw
      | none => simp [isWordChar, hspace, hquote, hmark] at h

/-- The characters of a word are gathered. -/
theorem tokensFrom?_gather {s : List Char} (hs : ∀ c ∈ s, isWordChar c = true)
    (seen rest : List Char) :
    tokensFrom? (.word seen) (s ++ rest) = tokensFrom? (.word (s.reverse ++ seen)) rest := by
  induction s generalizing seen with
  | nil => rfl
  | cons c s ih =>
    have hstep : Mode.step? (.word seen) c = some ([], .word (c :: seen)) := by
      simp only [Mode.step?, opening_of_isWordChar (hs c (by simp))]
    rw [List.cons_append, tokensFrom?_quiet _ hstep,
      ih fun d hd => hs d (List.mem_cons_of_mem c hd), List.reverse_cons, List.append_assoc]
    rfl

/-- A text before which a word ends: it is empty, or begins with a character that stands in no
word. -/
def EndsWord (s : List Char) : Prop := ∀ c ∈ s.head?, isWordChar c = false

/-- A word ends where something else begins. -/
theorem tokensFrom?_ended {rest : List Char} (hrest : EndsWord rest) (seen : List Char) :
    tokensFrom? (.word seen) rest =
      (wordToken? seen.reverse).bind fun token => (tokensFrom? .between rest).map (token :: ·) := by
  cases rest with
  | nil =>
    simp only [tokensFrom?, Mode.finish?]
    cases wordToken? seen.reverse <;> rfl
  | cons c rest =>
    have hc : isWordChar c = false := hrest c (by simp)
    have hstep : Mode.step? (.word seen) c =
        (wordToken? seen.reverse).map fun token => (token :: (opening c).1, (opening c).2) := by
      rw [Mode.step?]
      split
      · rename_i w hw
        exact absurd hw (opening_ne_word hc w)
      · rename_i tokens mode _ hw
        rw [hw]
    rw [tokensFrom?, hstep]
    cases wordToken? seen.reverse with
    | none => rfl
    | some token =>
      rw [tokensFrom?]
      cases hmode : tokensFrom? (opening c).2 rest <;> simp [Mode.step?, hmode]

/-- **A word**, with what follows it. -/
theorem tokensFrom?_word {s rest : List Char} {token : Token} (hs : ∀ c ∈ s, isWordChar c = true)
    (hne : s ≠ []) (hrest : EndsWord rest) (htoken : wordToken? s = some token) :
    tokensFrom? .between (s ++ rest) = (tokensFrom? .between rest).map (token :: ·) := by
  cases s with
  | nil => exact absurd rfl hne
  | cons c s =>
    have hstep : Mode.step? .between c = some ([], .word [c]) :=
      congrArg some (opening_of_isWordChar (hs c (by simp)))
    rw [List.cons_append, tokensFrom?_quiet _ hstep,
      tokensFrom?_gather fun d hd => hs d (List.mem_cons_of_mem c hd), tokensFrom?_ended hrest]
    rw [List.reverse_append, List.reverse_reverse, List.reverse_singleton, List.singleton_append,
      htoken]
    rfl

/-! ### Reading numbers

Each part of a number is read up to the first character that cannot belong to it. What follows a
part is therefore assumed not to begin with a digit, and the later parts see to that. -/

/-- A text that does not begin with a digit. -/
def EndsDigits (s : List Char) : Prop := ∀ c ∈ s.head?, Text.digit? c = none

theorem digit_mem {c : Char} {d : Nat} (h : Text.digit? c = some d) :
    c ∈ ['0', '1', '2', '3', '4', '5', '6', '7', '8', '9'] := by
  rw [Text.digit?] at h
  split at h
  · rename_i hrange
    have hlow : 48 ≤ c.toNat := hrange.1
    have hhigh : c.toNat ≤ 57 := hrange.2
    have all : ∀ n : Nat, n ≤ 57 → 48 ≤ n →
        Char.ofNat n ∈ ['0', '1', '2', '3', '4', '5', '6', '7', '8', '9'] := by decide
    have hmem := all c.toNat hhigh hlow
    rwa [Char.ofNat_toNat] at hmem
  · cases h

/-- What holds of the ten digits holds of every character that is one. -/
theorem digit_ind {P : Char → Prop} [DecidablePred P]
    (all : ['0', '1', '2', '3', '4', '5', '6', '7', '8', '9'].all (fun c => P c) = true) {c : Char}
    {d : Nat} (h : Text.digit? c = some d) : P c :=
  of_decide_eq_true (List.all_eq_true.1 all c (digit_mem h))

theorem leadingDigits_append {digits : List Nat} {s rest : List Char}
    (h : DigitsSpelled digits s) (hrest : EndsDigits rest) :
    leadingDigits (s ++ rest) = (digits, rest) := by
  induction h with
  | nil =>
    cases rest with
    | nil => rfl
    | cons c rest =>
      have hc : Text.digit? c = none := hrest c (by simp)
      simp [leadingDigits, hc]
  | cons hd _ ih => simp [leadingDigits, hd, ih]

theorem wholePart?_append {digits : List Nat} {s rest : List Char}
    (h : WholeSpelled digits s) (hrest : EndsDigits rest) :
    wholePart? (s ++ rest) = some (digits, rest) := by
  obtain ⟨hdigits, hne, hzero⟩ := h
  rw [wholePart?, leadingDigits_append hdigits hrest]
  match digits, hne, hzero with
  | [0], _, _ => rfl
  | [d + 1], _, _ => rfl
  | 0 :: e :: digits, _, hzero => simp at hzero
  | (d + 1) :: e :: digits, _, _ => rfl

theorem fractionPart?_append {digits : List Nat} {s rest : List Char}
    (h : FractionSpelled digits s) (hrest : EndsDigits rest)
    (hpoint : ∀ c ∈ rest.head?, c ≠ '.') :
    fractionPart? (s ++ rest) = some (digits, rest) := by
  cases h with
  | none =>
    cases rest with
    | nil => rfl
    | cons c rest =>
      have hc : c ≠ '.' := hpoint c (by simp)
      rw [List.nil_append, fractionPart?]
      intro t ht
      exact hc (List.cons.inj ht).1
  | @some digits s hne hdigits =>
    rw [List.cons_append, fractionPart?, leadingDigits_append hdigits hrest]
    cases digits with
    | nil => exact absurd rfl hne
    | cons d digits => rfl

theorem exponentDigits?_of_spelled {digits : List Nat} {s : List Char} (negative : Bool)
    (hne : digits ≠ []) (h : DigitsSpelled digits s) :
    exponentDigits? negative s = some (⟨negative, digits⟩, []) := by
  have hleading : leadingDigits s = (digits, []) := by
    have happend := @leadingDigits_append _ _ [] h (by simp [EndsDigits])
    rwa [List.append_nil] at happend
  rw [exponentDigits?, hleading]
  cases digits with
  | nil => exact absurd rfl hne
  | cons d digits => rfl

theorem exponentPart?_of_spelled {exponent : Option Exponent} {s : List Char}
    (h : ExponentSpelled exponent s) : exponentPart? s = some (exponent, []) := by
  cases h with
  | none => rfl
  | @some letter negative sign digits s hletter hsign hne hdigits =>
    have hpart := exponentDigits?_of_spelled negative hne hdigits
    unfold exponentPart?
    dsimp only
    rw [if_pos hletter]
    cases hsign with
    | plus => simp only [List.singleton_append, hpart, Option.map_some]
    | minus => simp only [List.singleton_append, hpart, Option.map_some]
    | none =>
      -- without a sign, the first digit is not mistaken for one
      cases hdigits with
      | nil => exact absurd rfl hne
      | @cons d c digits s hd hs =>
        have hplus : c ≠ '+' := digit_ind (P := (· ≠ '+')) (by decide) hd
        have hminus : c ≠ '-' := digit_ind (P := (· ≠ '-')) (by decide) hd
        simp [hplus, hminus, hpart]

/-- Neither a fraction nor an exponent begins with a digit, and an exponent begins with no
point. -/
theorem ends_exponent {exponent : Option Exponent} {s : List Char}
    (h : ExponentSpelled exponent s) : EndsDigits s ∧ ∀ c ∈ s.head?, c ≠ '.' := by
  cases h with
  | none => simp [EndsDigits]
  | some hletter _ _ _ => rcases hletter with rfl | rfl <;> simp [EndsDigits] <;> decide

theorem endsDigits_fraction {digits : List Nat} {s rest : List Char}
    (h : FractionSpelled digits s) (hrest : EndsDigits rest) : EndsDigits (s ++ rest) := by
  cases h with
  | none => exact hrest
  | some _ _ => simp [EndsDigits]; decide

/-- A number without its sign. -/
theorem unsignedNumber?_of_spelled {n : Number} {whole fraction exponent : List Char}
    (hwhole : WholeSpelled n.whole whole) (hfraction : FractionSpelled n.fraction fraction)
    (hexponent : ExponentSpelled n.exponent exponent) :
    unsignedNumber? n.negative (whole ++ (fraction ++ exponent)) = some n := by
  obtain ⟨hdigits, hpoint⟩ := ends_exponent hexponent
  rw [unsignedNumber?, wholePart?_append hwhole (endsDigits_fraction hfraction hdigits)]
  simp only [Option.bind_some, fractionPart?_append hfraction hdigits hpoint,
    exponentPart?_of_spelled hexponent]
  rfl

/-- The first character of a number without its sign is a digit. -/
theorem exists_digit_of_wholeSpelled {digits : List Nat} {s : List Char}
    (h : WholeSpelled digits s) : ∃ c t d, s = c :: t ∧ Text.digit? c = some d := by
  obtain ⟨hdigits, hne, -⟩ := h
  cases hdigits with
  | nil => exact absurd rfl hne
  | @cons d c _ t hd _ => exact ⟨c, t, d, rfl, hd⟩

/-- **A number is read** from what spells it. -/
theorem ofChars?_of_spelled {n : Number} {s : List Char} (h : n.Spelled s) :
    Number.ofChars? s = some n := by
  obtain ⟨whole, fraction, exponent, rfl, hwhole, hfraction, hexponent⟩ := h
  have hunsigned := unsignedNumber?_of_spelled hwhole hfraction hexponent
  cases hnegative : n.negative with
  | true =>
    rw [hnegative] at hunsigned
    exact hunsigned
  | false =>
    rw [hnegative] at hunsigned
    obtain ⟨c, t, d, rfl, hd⟩ := exists_digit_of_wholeSpelled hwhole
    have hminus : c ≠ '-' := digit_ind (P := (· ≠ '-')) (by decide) hd
    simpa [Number.ofChars?, hminus] using hunsigned

theorem isWordChar_of_digitsSpelled {digits : List Nat} {s : List Char}
    (h : DigitsSpelled digits s) : ∀ c ∈ s, isWordChar c = true := by
  induction h with
  | nil => simp
  | cons hd _ ih =>
    rw [List.forall_mem_cons]
    exact ⟨digit_ind (P := (isWordChar · = true)) (by decide) hd, ih⟩

theorem isWordChar_of_fractionSpelled {digits : List Nat} {s : List Char}
    (h : FractionSpelled digits s) : ∀ c ∈ s, isWordChar c = true := by
  cases h with
  | none => simp
  | some _ hdigits =>
    rw [List.forall_mem_cons]
    exact ⟨by decide, isWordChar_of_digitsSpelled hdigits⟩

theorem isWordChar_of_exponentSpelled {exponent : Option Exponent} {s : List Char}
    (h : ExponentSpelled exponent s) : ∀ c ∈ s, isWordChar c = true := by
  cases h with
  | none => simp
  | @some letter negative sign digits s hletter hsign _ hdigits =>
    have hsign : ∀ c ∈ sign, isWordChar c = true := by
      cases hsign <;> exact List.all_eq_true.1 (by decide)
    rw [List.forall_mem_cons, List.forall_mem_append]
    refine ⟨?_, hsign, isWordChar_of_digitsSpelled hdigits⟩
    rcases hletter with rfl | rfl <;> decide

/-- Every character of a number may stand in a word. -/
theorem isWordChar_of_spelled {n : Number} {s : List Char} (h : n.Spelled s) :
    ∀ c ∈ s, isWordChar c = true := by
  obtain ⟨whole, fraction, exponent, rfl, hwhole, hfraction, hexponent⟩ := h
  have hsign : ∀ c ∈ (if n.negative then ['-'] else []), isWordChar c = true := by
    cases n.negative <;> exact List.all_eq_true.1 (by decide)
  simp only [List.forall_mem_append]
  exact ⟨hsign, isWordChar_of_digitsSpelled hwhole.1, isWordChar_of_fractionSpelled hfraction,
    isWordChar_of_exponentSpelled hexponent⟩

/-- A number begins with a minus sign or a digit, and so is no constant. -/
theorem wordToken?_of_spelled {n : Number} {s : List Char} (h : n.Spelled s) :
    s ≠ [] ∧ wordToken? s = some (.number n) := by
  have hhead : ∃ c t, s = c :: t ∧ c ≠ 'n' ∧ c ≠ 't' ∧ c ≠ 'f' := by
    obtain ⟨whole, fraction, exponent, rfl, hwhole, -, -⟩ := h
    obtain ⟨c, t, d, rfl, hd⟩ := exists_digit_of_wholeSpelled hwhole
    cases n.negative with
    | true => exact ⟨'-', _, rfl, by decide⟩
    | false =>
      exact ⟨c, _, rfl, digit_ind (P := fun c => c ≠ 'n' ∧ c ≠ 't' ∧ c ≠ 'f') (by decide) hd⟩
  have hn := ofChars?_of_spelled h
  obtain ⟨c, t, rfl, hnull, htrue, hfalse⟩ := hhead
  refine ⟨List.cons_ne_nil c t, ?_⟩
  simp [wordToken?, hnull, htrue, hfalse, hn]

/-! ### Reading tokens -/

/-- What spells a word ends where something else begins, and so before any token that is no
word. -/
theorem endsWord_of_spelled {tokens : List Token} {s : List Char} (h : Spelled tokens s)
    (hhead : ∀ token ∈ tokens.head?, token.isWord = false) : EndsWord s := by
  have hspace : ∀ c, isSpace c = true → isWordChar c = false := by
    intro c hc
    simp [isWordChar, hc]
  cases h with
  | nil hblank =>
    intro c hc
    exact hspace c (hblank c (List.mem_of_mem_head? hc))
  | @cons token tokens blank s t hblank here _ =>
    cases blank with
    | cons c blank =>
      intro d hd
      obtain rfl : c = d := by simpa using hd
      exact hspace c (hblank c (by simp))
    | nil =>
      have hword : token.isWord = false := hhead token (by simp)
      cases here with
      | null | true | false | number _ => simp [Token.isWord] at hword
      | _ => simp [EndsWord]; decide

/-- One word among tokens. -/
theorem tokensFrom?_wordToken {token : Token} {tokens : List Token} {s t : List Char}
    (hs : ∀ c ∈ s, isWordChar c = true) (hne : s ≠ []) (hword : wordToken? s = some token)
    (hrest : EndsWord t) (ih : tokensFrom? .between t = some tokens) :
    tokensFrom? .between (s ++ t) = some (token :: tokens) := by
  rw [tokensFrom?_word hs hne hrest hword, ih]
  rfl

/-- **The machine finds the tokens** of whatever spells them. -/
theorem tokens?_of_spelled {tokens : List Token} {s : List Char} (h : Spelled tokens s)
    (hseparated : Separated tokens) : tokens? s = some tokens := by
  rw [tokens?]
  induction h with
  | nil hblank => simpa [tokensFrom?, Mode.finish?] using tokensFrom?_blank hblank []
  | @cons token tokens blank s t hblank here rest ih =>
    rw [Separated, List.isChain_cons] at hseparated
    have ih := ih hseparated.2
    have hmark {c : Char} (hc : Mode.step? .between c = some ([token], .between)) :
        tokensFrom? .between ([c] ++ t) = some (token :: tokens) := by
      rw [List.singleton_append, tokensFrom?_one t hc, ih]
      rfl
    have hends (hword : token.isWord = true) : EndsWord t :=
      endsWord_of_spelled rest fun other hother => hseparated.1 other hother hword
    rw [tokensFrom?_blank hblank]
    cases here with
    | openArray | closeArray | openObject | closeObject | comma | colon => exact hmark rfl
    | null | true | false =>
      exact tokensFrom?_wordToken (List.all_eq_true.1 (by decide)) (by decide) rfl (hends rfl) ih
    | number hn =>
      obtain ⟨hne, hword⟩ := wordToken?_of_spelled hn
      exact tokensFrom?_wordToken (isWordChar_of_spelled hn) hne hword (hends rfl) ih
    | @string literal s hliteral =>
      have hquote : Mode.step? .between '"' = some ([], .literal []) := rfl
      rw [List.cons_append, List.append_assoc, tokensFrom?_quiet _ hquote]
      rw [List.singleton_append, tokensFrom?_literal hliteral, ih]
      rfl

end Json

end RemountCheck
