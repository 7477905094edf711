import RemountCheck.Proofs.Documents

/-!
# What is read was spelled

Whatever spells a document is read as it. Here is the converse: the machine that cuts a text into
tokens finds none that the text does not spell, and the reader makes no document of tokens that are
not its own.

* `RemountCheck.Json.spelled_of_tokens?` – a text spells the tokens that are found in it;
* `RemountCheck.Json.tokens_of_document?` – tokens are those of the document that they make;
* `RemountCheck.Json.parse?_iff` – **a text is read as the document that it spells**, and as no
  other;
* `RemountCheck.Json.Kept`, `RemountCheck.Json.parseReadable?_iff` – the same of the documents that
  can be kept as values.

Both proofs follow a machine that has stopped in the middle of something. For the first,
`RemountCheck.Json.SpelledFrom` says by the mode of the machine what the rest of the text spells;
for the second, `RemountCheck.Json.taken` says which tokens have been taken in by the frames that
are open.
-/

namespace RemountCheck

namespace Json

/-! ### Numbers

Each part of a number takes a spelling of itself off the text. -/

section Numbers

variable {digits : List Nat} {s rest : List Char}

theorem spelled_of_leadingDigits (h : leadingDigits s = (digits, rest)) :
    ∃ part, s = part ++ rest ∧ DigitsSpelled digits part := by
  induction s generalizing digits with
  | nil =>
    cases h
    exact ⟨[], rfl, .nil⟩
  | cons c s ih =>
    rw [leadingDigits] at h
    cases hc : Text.digit? c with
    | none =>
      rw [hc] at h
      cases h
      exact ⟨[], rfl, .nil⟩
    | some d =>
      rw [hc] at h
      cases h
      obtain ⟨part, hs, hpart⟩ := ih rfl
      exact ⟨c :: part, congrArg (c :: ·) hs, .cons hc hpart⟩

theorem spelled_of_wholePart? (h : wholePart? s = some (digits, rest)) :
    ∃ part, s = part ++ rest ∧ WholeSpelled digits part := by
  rw [wholePart?] at h
  cases hleading : leadingDigits s with
  | mk found left =>
    rw [hleading] at h
    obtain ⟨part, hs, hpart⟩ := spelled_of_leadingDigits hleading
    rcases found with _ | ⟨d, _ | ⟨e, found⟩⟩
    · cases h
    · cases d <;> cases h <;> exact ⟨part, hs, hpart, by simp, by simp⟩
    · -- A zero has no digit after it.
      cases d with
      | zero => cases h
      | succ d =>
        cases h
        exact ⟨part, hs, hpart, by simp, by simp⟩

theorem spelled_of_fractionPart? (h : fractionPart? s = some (digits, rest)) :
    ∃ part, s = part ++ rest ∧ FractionSpelled digits part := by
  unfold fractionPart? at h
  split at h
  · rename_i s
    cases hleading : leadingDigits s with
    | mk found left =>
      rw [hleading] at h
      obtain ⟨part, rfl, hpart⟩ := spelled_of_leadingDigits hleading
      cases found with
      | nil => cases h
      | cons d found =>
        cases h
        exact ⟨'.' :: part, rfl, .some (List.cons_ne_nil d found) hpart⟩
  · cases h
    exact ⟨[], rfl, .none⟩

theorem spelled_of_exponentDigits? {negative : Bool} {exponent : Exponent}
    (h : exponentDigits? negative s = some (exponent, rest)) :
    ∃ part, s = part ++ rest ∧ exponent.negative = negative ∧ exponent.digits ≠ [] ∧
      DigitsSpelled exponent.digits part := by
  rw [exponentDigits?] at h
  cases hleading : leadingDigits s with
  | mk found left =>
    rw [hleading] at h
    obtain ⟨part, rfl, hpart⟩ := spelled_of_leadingDigits hleading
    cases found with
    | nil => cases h
    | cons d found =>
      cases h
      exact ⟨part, rfl, rfl, List.cons_ne_nil d found, hpart⟩

theorem spelled_of_exponentPart? {exponent : Option Exponent}
    (h : exponentPart? s = some (exponent, rest)) :
    ∃ part, s = part ++ rest ∧ ExponentSpelled exponent part := by
  unfold exponentPart? at h
  split at h
  · rename_i letter s
    split at h
    · rename_i hletter
      obtain ⟨⟨⟨negative, digits⟩, left⟩, hfound, heq⟩ := Option.map_eq_some_iff.mp h
      cases heq
      -- a sign, if there is one, and digits
      obtain ⟨sign, part, rfl, hsign, hany, hpart⟩ : ∃ sign part, s = sign ++ (part ++ rest) ∧
          SignSpelled negative sign ∧ digits ≠ [] ∧ DigitsSpelled digits part := by
        split at hfound
        · obtain ⟨part, rfl, rfl, hany, hpart⟩ := spelled_of_exponentDigits? hfound
          exact ⟨['+'], part, rfl, .plus, hany, hpart⟩
        · obtain ⟨part, rfl, rfl, hany, hpart⟩ := spelled_of_exponentDigits? hfound
          exact ⟨['-'], part, rfl, .minus, hany, hpart⟩
        · obtain ⟨part, rfl, rfl, hany, hpart⟩ := spelled_of_exponentDigits? hfound
          exact ⟨[], part, rfl, .none, hany, hpart⟩
      refine ⟨letter :: (sign ++ part), ?_, .some hletter hsign hany hpart⟩
      rw [List.cons_append, List.append_assoc]
    · cases h
      exact ⟨[], rfl, .none⟩
  · cases h
    exact ⟨[], rfl, .none⟩

/-- A number without its sign. -/
theorem spelled_of_unsignedNumber? {negative : Bool} {n : Number}
    (h : unsignedNumber? negative s = some n) :
    n.negative = negative ∧ ∃ whole fraction exponent, s = whole ++ (fraction ++ exponent) ∧
      WholeSpelled n.whole whole ∧ FractionSpelled n.fraction fraction ∧
      ExponentSpelled n.exponent exponent := by
  obtain ⟨⟨wholeDigits, s₁⟩, hfound₁, h₁⟩ := Option.bind_eq_some_iff.mp h
  obtain ⟨⟨fractionDigits, s₂⟩, hfound₂, h₂⟩ := Option.bind_eq_some_iff.mp h₁
  obtain ⟨⟨found, s₃⟩, hfound₃, h₃⟩ := Option.bind_eq_some_iff.mp h₂
  obtain ⟨whole, rfl, hwhole⟩ := spelled_of_wholePart? hfound₁
  obtain ⟨fraction, rfl, hfraction⟩ := spelled_of_fractionPart? hfound₂
  obtain ⟨exponent, rfl, hexponent⟩ := spelled_of_exponentPart? hfound₃
  cases s₃ with
  | cons c s₃ => cases h₃
  | nil =>
    cases h₃
    exact ⟨rfl, whole, fraction, exponent, by rw [List.append_nil], hwhole, hfraction, hexponent⟩

/-- **What is read as a number** spells it. -/
theorem spelled_of_ofChars? {n : Number} (h : Number.ofChars? s = some n) : n.Spelled s := by
  unfold Number.ofChars? at h
  split at h
  · obtain ⟨hnegative, whole, fraction, exponent, rfl, hparts⟩ := spelled_of_unsignedNumber? h
    exact ⟨whole, fraction, exponent, by rw [hnegative]; rfl, hparts⟩
  · obtain ⟨hnegative, whole, fraction, exponent, rfl, hparts⟩ := spelled_of_unsignedNumber? h
    exact ⟨whole, fraction, exponent, by rw [hnegative]; rfl, hparts⟩

/-- **What is read as a word** spells it. -/
theorem spelled_of_wordToken? {token : Token} (h : wordToken? s = some token) :
    token.Spelled s := by
  rw [wordToken?] at h
  split at h
  · rename_i hword
    cases h
    exact hword ▸ .null
  split at h
  · rename_i hword
    cases h
    exact hword ▸ .true
  split at h
  · rename_i hword
    cases h
    exact hword ▸ .false
  · obtain ⟨n, hn, rfl⟩ := Option.map_eq_some_iff.mp h
    exact .number (spelled_of_ofChars? hn)

end Numbers

/-! ### Tokens -/

/-- What the rest of a text spells in a string literal, of which some pieces have been read. -/
def LiteralFrom (seen : Literal) (tokens : List Token) (s : List Char) : Prop :=
  ∃ literal rest inside t, tokens = .string (seen.reverse ++ literal) :: rest ∧
    s = inside ++ '"' :: t ∧ literal.Spelled inside ∧ Spelled rest t

/-- **What the rest of a text spells**, by what the machine stands in. -/
def SpelledFrom : Mode → List Token → List Char → Prop
  | .between, tokens, s => Spelled tokens s
  | .word seen, tokens, s =>
    ∃ token rest word t, tokens = token :: rest ∧ s = word ++ t ∧
      token.Spelled (seen.reverse ++ word) ∧ Spelled rest t
  | .literal seen, tokens, s => LiteralFrom seen tokens s
  | .escape seen, tokens, s =>
    ∃ piece part t, s = part ++ t ∧ Piece.Spelled piece ('\\' :: part) ∧
      LiteralFrom (piece :: seen) tokens t
  | .digits seen left value, tokens, s =>
    ∃ digits part t, s = part ++ t ∧ digits.length = left + 1 ∧
      List.Forall₂ (fun d c => Text.hexDigit? c = some d) digits part ∧
      LiteralFrom (.unit (digits.foldl (fun n d => n * 16 + d) value).toUInt16 :: seen) tokens t

section Tokens

variable {mode mode' : Mode} {c : Char} {done tokens : List Token} {s : List Char}

/-- One more piece of a literal. -/
theorem LiteralFrom.cons {piece : Piece} {seen : Literal} {part : List Char}
    (hpiece : piece.Spelled part) (h : LiteralFrom (piece :: seen) tokens s) :
    LiteralFrom seen tokens (part ++ s) := by
  obtain ⟨literal, rest, inside, t, rfl, rfl, hliteral, hrest⟩ := h
  refine ⟨piece :: literal, rest, part ++ inside, t, ?_, ?_, .cons hpiece hliteral, hrest⟩
  · rw [List.reverse_cons, List.append_assoc, List.singleton_append]
  · rw [List.append_assoc]

theorem spelled_of_punctuation? {token : Token} (h : punctuation? c = some token) :
    token.Spelled [c] := by
  unfold punctuation? at h
  split at h <;> cases h <;> constructor

theorem mem_shortEscapes {e : Char} (h : shortEscape? e = some c) : (e, c) ∈ shortEscapes := by
  unfold shortEscape? at h
  split at h <;> cases h <;> decide

/-- A character between tokens. -/
theorem spelled_of_opening (h : SpelledFrom (opening c).2 tokens s) :
    Spelled ((opening c).1 ++ tokens) (c :: s) := by
  rw [opening] at h ⊢
  by_cases hspace : isSpace c = true
  · rw [if_pos hspace] at h ⊢
    have hblank : IsBlank [c] := by simpa [IsBlank] using hspace
    exact h.after_blank hblank
  rw [if_neg hspace] at h ⊢
  by_cases hquote : c = '"'
  · rw [if_pos hquote] at h ⊢
    obtain ⟨literal, rest, inside, t, rfl, rfl, hliteral, hrest⟩ := h
    have hspelled := Spelled.cons_token (.string hliteral) hrest
    simpa [hquote] using hspelled
  rw [if_neg hquote] at h ⊢
  cases hmark : punctuation? c with
  | some token =>
    rw [hmark] at h
    exact .cons_token (spelled_of_punctuation? hmark) h
  | none =>
    rw [hmark] at h
    obtain ⟨token, rest, word, t, rfl, rfl, hword, hrest⟩ := h
    exact .cons_token hword hrest

/-- **One character**: what the rest spells after it, the whole spells with the tokens that it
completes. -/
theorem spelledFrom_of_step? (hstep : mode.step? c = some (done, mode'))
    (h : SpelledFrom mode' tokens s) : SpelledFrom mode (done ++ tokens) (c :: s) := by
  cases mode with
  | between =>
    obtain ⟨rfl, rfl⟩ := Prod.mk.inj (Option.some.inj hstep)
    exact spelled_of_opening h
  | word seen =>
    rw [Mode.step?] at hstep
    split at hstep
    · -- the word goes on
      cases hstep
      obtain ⟨token, rest, word, t, rfl, rfl, hword, hrest⟩ := h
      refine ⟨token, rest, c :: word, t, rfl, rfl, ?_, hrest⟩
      rwa [List.reverse_cons, List.append_assoc] at hword
    · -- the word ends, and something else begins
      rename_i found begun _ hopening
      obtain ⟨token, htoken, heq⟩ := Option.map_eq_some_iff.mp hstep
      cases heq
      have hrest : SpelledFrom (opening c).2 tokens s := by rwa [hopening]
      have hrest := spelled_of_opening hrest
      rw [hopening] at hrest
      refine ⟨token, _, [], c :: s, rfl, rfl, ?_, hrest⟩
      rw [List.append_nil]
      exact spelled_of_wordToken? htoken
  | literal seen =>
    rw [Mode.step?] at hstep
    split at hstep
    · -- the closing quote
      rename_i hquote
      cases hstep
      exact ⟨[], tokens, [], s, by rw [List.append_nil]; rfl, by rw [hquote]; rfl, .nil, h⟩
    split at hstep
    · -- a backslash
      rename_i hbackslash
      cases hstep
      obtain ⟨piece, part, t, rfl, hpiece, hrest⟩ := h
      have hliteral := hrest.cons hpiece
      rwa [← hbackslash] at hliteral
    split at hstep
    · cases hstep
    · rename_i hquote hbackslash hcontrol
      cases hstep
      exact LiteralFrom.cons (.plain (Nat.le_of_not_lt hcontrol) hquote hbackslash) h
  | escape seen =>
    rw [Mode.step?] at hstep
    split at hstep
    · -- an escape by digits
      rename_i hu
      cases hstep
      obtain ⟨digits, part, t, rfl, hlength, hdigits, hrest⟩ := h
      rcases hdigits with _ | ⟨h₁, _ | ⟨h₂, _ | ⟨h₃, _ | ⟨h₄, _ | _⟩⟩⟩⟩
      case cons.cons.cons.cons.nil =>
        refine ⟨_, _, t, by rw [hu]; rfl, .digits h₁ h₂ h₃ h₄, ?_⟩
        simpa using hrest
      all_goals cases hlength
    · -- a short escape
      obtain ⟨meant, hshort, heq⟩ := Option.map_eq_some_iff.mp hstep
      cases heq
      exact ⟨_, [c], s, rfl, .escape (mem_shortEscapes hshort), h⟩
  | digits seen left value =>
    obtain ⟨d, hd, heq⟩ := Option.map_eq_some_iff.mp hstep
    cases left with
    | zero =>
      cases heq
      exact ⟨[d], [c], s, rfl, rfl, .cons hd .nil, h⟩
    | succ left =>
      cases heq
      obtain ⟨digits, part, t, rfl, hlength, hdigits, hrest⟩ := h
      exact ⟨d :: digits, c :: part, t, rfl, congrArg (· + 1) hlength, .cons hd hdigits, hrest⟩

/-- **What the machine finds in the rest of a text**, the rest spells. -/
theorem spelledFrom_of_tokensFrom? (h : tokensFrom? mode s = some tokens) :
    SpelledFrom mode tokens s := by
  induction s generalizing mode tokens with
  | nil =>
    cases mode with
    | between =>
      cases h
      exact .nil isBlank_nil
    | word seen =>
      obtain ⟨token, htoken, rfl⟩ := Option.map_eq_some_iff.mp h
      refine ⟨token, [], [], [], rfl, rfl, ?_, .nil isBlank_nil⟩
      rw [List.append_nil]
      exact spelled_of_wordToken? htoken
    | literal seen => cases h
    | escape seen => cases h
    | digits seen left value => cases h
  | cons c s ih =>
    obtain ⟨⟨done, mode'⟩, hstep, hread⟩ := Option.bind_eq_some_iff.mp h
    obtain ⟨rest, hrest, rfl⟩ := Option.map_eq_some_iff.mp hread
    exact spelledFrom_of_step? hstep (ih hrest)

/-- **A text spells the tokens that are found in it.** -/
theorem spelled_of_tokens? (h : tokens? s = some tokens) : Spelled tokens s :=
  spelledFrom_of_tokensFrom? h

end Tokens

/-! ### Documents -/

/-- The tokens of items with a comma after each. -/
def leadingItems (items : List Json) : List Token :=
  items.flatMap fun item => item.tokens ++ [.comma]

/-- The tokens of members with a comma after each. -/
def leadingMembers (members : List (Literal × Json)) : List Token :=
  members.flatMap fun member =>
    .string member.1 :: .colon :: (member.2.tokens ++ [.comma])

/-- The tokens that a frame has taken in. -/
def Frame.taken : Frame → List Token
  | .array items => .openArray :: leadingItems items.reverse
  | .object members name =>
    .openObject :: (leadingMembers members.reverse ++ [.string name, .colon])

/-- The tokens that have been taken in since the last frame was opened. -/
def Awaited.taken : Awaited → List Token
  | .document => []
  | .itemOrEnd => [.openArray]
  | .nameOrEnd => [.openObject]
  | .name members => .openObject :: leadingMembers members.reverse
  | .colon members key => .openObject :: (leadingMembers members.reverse ++ [.string key])
  | .after json => json.tokens

/-- **The tokens that have been taken in** at a point of reading. The last frame comes first. -/
def taken (frames : List Frame) (awaited : Awaited) : List Token :=
  frames.reverse.flatMap Frame.taken ++ awaited.taken

theorem itemTokens_concat (items : List Json) (item : Json) :
    itemTokens (items ++ [item]) = leadingItems items ++ item.tokens := by
  induction items with
  | nil => simp [leadingItems, itemTokens]
  | cons next items ih =>
    rw [List.cons_append, itemTokens, ih]
    · simp [leadingItems]
    · simp

theorem memberTokens_concat (members : List (Literal × Json)) (name : Literal) (value : Json) :
    memberTokens (members ++ [(name, value)]) =
      leadingMembers members ++ (.string name :: .colon :: value.tokens) := by
  induction members with
  | nil => simp [leadingMembers, memberTokens]
  | cons next members ih =>
    obtain ⟨other, document⟩ := next
    rw [List.cons_append, memberTokens, ih]
    · simp [leadingMembers]
    · simp

section Documents

variable {frames frames' : List Frame} {awaited awaited' : Awaited} {token : Token}

theorem taken_begin? (h : begin? frames token = some (frames', awaited')) :
    taken frames' awaited' = taken frames .document ++ [token] := by
  unfold begin? at h
  split at h <;> cases h <;> simp [taken, Awaited.taken, tokens]

/-- **One token** is taken in. -/
theorem taken_read? (h : read? frames awaited token = some (frames', awaited')) :
    taken frames' awaited' = taken frames awaited ++ [token] := by
  unfold read? at h
  split at h
  · exact taken_begin? h
  · cases h
    simp [taken, Awaited.taken, tokens, itemTokens]
  · rw [taken_begin? h]
    simp [taken, Awaited.taken, Frame.taken, leadingItems]
  · cases h
    simp [taken, Awaited.taken, tokens, memberTokens]
  · cases h
    simp [taken, Awaited.taken, leadingMembers]
  · cases h
    simp [taken, Awaited.taken]
  · cases h
    simp [taken, Awaited.taken, Frame.taken]
  · cases h
    simp [taken, Awaited.taken, Frame.taken, leadingItems]
  · cases h
    simp [taken, Awaited.taken, Frame.taken, tokens, itemTokens_concat]
  · cases h
    simp [taken, Awaited.taken, Frame.taken, leadingMembers]
  · cases h
    simp [taken, Awaited.taken, Frame.taken, tokens, memberTokens_concat]
  · cases h

/-- **What is left makes a document** whose tokens are those taken in already and those left. -/
theorem tokens_of_documentFrom? {left : List Token} {json : Json}
    (h : documentFrom? frames awaited left = some json) :
    taken frames awaited ++ left = json.tokens := by
  induction left generalizing frames awaited with
  | nil =>
    unfold documentFrom? at h
    split at h
    · cases h
      simp [taken, Awaited.taken]
    · cases h
    · rename_i hcons
      cases hcons
  | cons token left ih =>
    rw [documentFrom?] at h
    obtain ⟨⟨frames', awaited'⟩, hread, hrest⟩ := Option.bind_eq_some_iff.mp h
    rw [← ih hrest, taken_read? hread, List.append_assoc, List.singleton_append]

/-- **Tokens are those of the document that they make.** -/
theorem tokens_of_document? {left : List Token} {json : Json} (h : document? left = some json) :
    left = json.tokens := by
  rw [← tokens_of_documentFrom? h]
  rfl

end Documents

/-- **A text is read as the document that it spells**, and as no other. -/
theorem parse?_iff {text : String} {json : Json} :
    parse? text = some json ↔ json.SpelledBy text.toList := by
  refine ⟨fun h => ?_, parse?_of_spelledBy⟩
  obtain ⟨found, hfound, hdocument⟩ := Option.bind_eq_some_iff.mp h
  rw [SpelledBy, ← tokens_of_document? hdocument]
  exact spelled_of_tokens? hfound

/-! ### Documents that can be kept as values -/

/-- **A document can be kept as a value**, where so many arrays and objects may be open at once: all
of its literals are readable, in the names of members too, and its numbers are within reach. -/
inductive Kept : Nat → Json → Prop where
  | null {left : Nat} : Kept left .null
  | bool {left : Nat} (b : Bool) : Kept left (.bool b)
  | number {left : Nat} {n : Number} (h : n.isFinite = true) : Kept left (.number n)
  | string {left : Nat} {s : Literal} (h : s.text?.isSome = true) : Kept left (.string s)
  | array {left : Nat} {items : List Json} (h : ∀ item ∈ items, Kept left item) :
    Kept (left + 1) (.array items)
  | object {left : Nat} {members : List (Literal × Json)}
    (names : ∀ m ∈ members, m.1.text?.isSome = true) (values : ∀ m ∈ members, Kept left m.2) :
    Kept (left + 1) (.object members)

/-- **A document stands in a text**: the text spells it, and it can be kept as a value. -/
def StandsIn (json : Json) (text : String) : Prop :=
  json.SpelledBy text.toList ∧ json.Kept nestingLimit

/-- Tokens that can be kept, with so many arrays and objects open at their start. -/
def Admitted (limit depth : Nat) (tokens : List Token) : Prop :=
  tokens.all Token.isReadable = true ∧ nestsWithin limit depth tokens = true

section Admitted

variable {limit depth : Nat} {left : Nat} {rest : List Token}

theorem admitted_open_iff {token : Token} (h : token = .openArray ∨ token = .openObject) :
    Admitted limit depth (token :: rest) ↔ depth < limit ∧ Admitted limit (depth + 1) rest := by
  rcases h with rfl | rfl <;>
    simp [Admitted, nestsWithin, Token.isReadable, and_left_comm]

theorem admitted_close_iff {token : Token} (h : token = .closeArray ∨ token = .closeObject) :
    Admitted limit (depth + 1) (token :: rest) ↔ Admitted limit depth rest := by
  rcases h with rfl | rfl <;> simp [Admitted, nestsWithin, Token.isReadable]

theorem admitted_comma_iff : Admitted limit depth (.comma :: rest) ↔ Admitted limit depth rest := by
  simp [Admitted, nestsWithin, Token.isReadable]

theorem admitted_name_iff {name : Literal} :
    Admitted limit depth (.string name :: .colon :: rest) ↔
      name.text?.isSome = true ∧ Admitted limit depth rest := by
  simp [Admitted, nestsWithin, Token.isReadable, and_assoc]

theorem kept_array_iff {items : List Json} :
    Kept (left + 1) (.array items) ↔ ∀ item ∈ items, Kept left item :=
  ⟨fun | .array h => h, .array⟩

theorem kept_object_iff {members : List (Literal × Json)} :
    Kept (left + 1) (.object members) ↔
      ∀ m ∈ members, m.1.text?.isSome = true ∧ Kept left m.2 :=
  ⟨fun | .object names values => fun m hm => ⟨names m hm, values m hm⟩,
    fun h => .object (fun m hm => (h m hm).1) fun m hm => (h m hm).2⟩

mutual

/-- **The tokens of a document can be kept** exactly if it can, whatever follows it. -/
theorem admitted_tokens_iff (json : Json) (depth left : Nat) (rest : List Token) :
    Admitted (depth + left) depth (json.tokens ++ rest) ↔
      json.Kept left ∧ Admitted (depth + left) depth rest := by
  match json with
  | .null =>
    simp [tokens, Admitted, nestsWithin, Token.isReadable, Kept.null]
  | .bool b =>
    simp [tokens, Admitted, nestsWithin, Token.isReadable, Kept.bool]
  | .number n =>
    have hkept : Kept left (.number n) ↔ n.isFinite = true := ⟨fun | .number h => h, .number⟩
    simp [tokens, Admitted, nestsWithin, Token.isReadable, hkept, and_assoc]
  | .string s =>
    have hkept : Kept left (.string s) ↔ s.text?.isSome = true := ⟨fun | .string h => h, .string⟩
    simp [tokens, Admitted, nestsWithin, Token.isReadable, hkept, and_assoc]
  | .array items =>
    rw [tokens, List.cons_append, List.append_assoc, admitted_open_iff (.inl rfl)]
    cases left with
    | zero => exact iff_of_false (fun h => absurd h.1 (Nat.lt_irrefl _)) (fun h => nomatch h.1)
    | succ left =>
      have hlimit : depth + (left + 1) = depth + 1 + left := by omega
      have hroom : depth < depth + (left + 1) := by omega
      rw [kept_array_iff, hlimit, admitted_itemTokens_iff, List.singleton_append,
        admitted_close_iff (.inl rfl), ← hlimit]
      exact and_iff_right hroom
  | .object members =>
    rw [tokens, List.cons_append, List.append_assoc, admitted_open_iff (.inr rfl)]
    cases left with
    | zero => exact iff_of_false (fun h => absurd h.1 (Nat.lt_irrefl _)) (fun h => nomatch h.1)
    | succ left =>
      have hlimit : depth + (left + 1) = depth + 1 + left := by omega
      have hroom : depth < depth + (left + 1) := by omega
      rw [kept_object_iff, hlimit, admitted_memberTokens_iff, List.singleton_append,
        admitted_close_iff (.inr rfl), ← hlimit]
      exact and_iff_right hroom

theorem admitted_itemTokens_iff (items : List Json) (depth left : Nat) (rest : List Token) :
    Admitted (depth + left) depth (itemTokens items ++ rest) ↔
      (∀ item ∈ items, item.Kept left) ∧ Admitted (depth + left) depth rest := by
  match items with
  | [] => simp [itemTokens]
  | [item] =>
    rw [itemTokens, admitted_tokens_iff, List.forall_mem_singleton]
  | item :: next :: items =>
    rw [itemTokens, List.append_assoc, admitted_tokens_iff, List.cons_append, admitted_comma_iff,
      admitted_itemTokens_iff (next :: items)]
    · exact and_assoc.symm.trans (and_congr_left' List.forall_mem_cons.symm)
    · simp

theorem admitted_memberTokens_iff (members : List (Literal × Json)) (depth left : Nat)
    (rest : List Token) :
    Admitted (depth + left) depth (memberTokens members ++ rest) ↔
      (∀ m ∈ members, m.1.text?.isSome = true ∧ m.2.Kept left) ∧
        Admitted (depth + left) depth rest := by
  match members with
  | [] => simp [memberTokens]
  | [(name, value)] =>
    rw [memberTokens, List.cons_append, List.cons_append, admitted_name_iff, admitted_tokens_iff,
      List.forall_mem_singleton, and_assoc]
  | (name, value) :: next :: members =>
    rw [memberTokens, List.cons_append, List.cons_append, admitted_name_iff, List.append_assoc,
      admitted_tokens_iff, List.cons_append, admitted_comma_iff,
      admitted_memberTokens_iff (next :: members), ← and_assoc]
    · have hall := List.forall_mem_cons (a := (name, value)) (l := next :: members)
        (p := fun m => m.1.text?.isSome = true ∧ m.2.Kept left)
      exact and_assoc.symm.trans (and_congr_left' hall.symm)
    · simp

end

end Admitted

/-- **A text is read as the document that stands in it**, and as no other. -/
theorem parseReadable?_iff {text : String} {json : Json} :
    parseReadable? text = some json ↔ json.StandsIn text := by
  have hadmitted : Admitted nestingLimit 0 json.tokens ↔ json.Kept nestingLimit := by
    have hwhole := admitted_tokens_iff json 0 nestingLimit []
    rw [List.append_nil, Nat.zero_add] at hwhole
    exact hwhole.trans (and_iff_left ⟨rfl, rfl⟩)
  rw [StandsIn, ← parse?_iff, ← hadmitted, Admitted, ← Bool.and_eq_true]
  constructor
  · intro h
    obtain ⟨found, hfound, hkept⟩ := Option.bind_eq_some_iff.mp h
    split at hkept
    · rename_i hreadable
      exact ⟨Option.bind_eq_some_iff.mpr ⟨found, hfound, hkept⟩,
        tokens_of_document? hkept ▸ hreadable⟩
    · cases hkept
  · rintro ⟨h, hreadable⟩
    obtain ⟨found, hfound, hdocument⟩ := Option.bind_eq_some_iff.mp h
    rw [← tokens_of_document? hdocument] at hreadable
    rw [parseReadable?, hfound, Option.bind_some, if_pos hreadable, hdocument]

end Json

end RemountCheck
