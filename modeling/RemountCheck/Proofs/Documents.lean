import Mathlib.Data.Nat.Digits.Defs
import RemountCheck.Json.Fields
import RemountCheck.Json.Parser
import RemountCheck.Json.Printer
import RemountCheck.Proofs.Tokens

/-!
# How documents are spelled

A document determines its tokens, and its tokens determine it. What spells a document is therefore
what spells its tokens, and reading gives the document back, however it was spelled:

* `RemountCheck.Json.tokens` – the tokens of a document;
* `RemountCheck.Json.SpelledBy` – a text spells a document;
* `RemountCheck.Json.parse?_of_spelledBy` – **a text is read as the document that it spells**;
* `RemountCheck.Json.Plain` – the documents that are made of texts and natural numbers;
* `RemountCheck.Json.parse?_render` – a document of that kind is read back from its own print.

The reader keeps what is open on a stack, so what is proved by going down a document is stated for
every stack below and for whatever tokens follow (`RemountCheck.Json.documentFrom?_tokens`).
-/

namespace RemountCheck

namespace Json

/-! ### The tokens of a document -/

mutual

/-- **The tokens of a document.** -/
def tokens : Json → List Token
  | .null => [.null]
  | .bool b => [.bool b]
  | .number n => [.number n]
  | .string s => [.string s]
  | .array items => .openArray :: (itemTokens items ++ [.closeArray])
  | .object members => .openObject :: (memberTokens members ++ [.closeObject])

/-- The tokens of the items of an array, with commas between them. -/
def itemTokens : List Json → List Token
  | [] => []
  | [item] => tokens item
  | item :: items => tokens item ++ .comma :: itemTokens items

/-- The tokens of the members of an object, with commas between them. -/
def memberTokens : List (Literal × Json) → List Token
  | [] => []
  | [(name, value)] => .string name :: .colon :: tokens value
  | (name, value) :: members =>
    .string name :: .colon :: (tokens value ++ .comma :: memberTokens members)

end

/-- **A text spells a document**: it spells its tokens. -/
def SpelledBy (json : Json) (s : List Char) : Prop := Spelled json.tokens s

/-! ### No two words side by side -/

theorem separated_cons_of_not_isWord {token : Token} {rest : List Token}
    (hword : token.isWord = false) (hrest : Separated rest) : Separated (token :: rest) := by
  rw [Separated, List.isChain_cons]
  refine ⟨fun other _ h => ?_, hrest⟩
  rw [hword] at h
  cases h

theorem separated_cons_of_head {token : Token} {rest : List Token}
    (hhead : ∀ other ∈ rest.head?, other.isWord = false) (hrest : Separated rest) :
    Separated (token :: rest) := by
  rw [Separated, List.isChain_cons]
  exact ⟨fun other hother _ => hhead other hother, hrest⟩

mutual

/-- In a document, and where no word follows it, no two words stand side by side. -/
theorem separated_tokens (json : Json) {rest : List Token}
    (hhead : ∀ token ∈ rest.head?, token.isWord = false) (hrest : Separated rest) :
    Separated (json.tokens ++ rest) := by
  cases json with
  | null | bool b | number n | string s => exact separated_cons_of_head hhead hrest
  | array items =>
    rw [tokens, List.cons_append, List.append_assoc]
    refine separated_cons_of_not_isWord rfl (separated_itemTokens items (by simp [Token.isWord]) ?_)
    exact separated_cons_of_not_isWord rfl hrest
  | object members =>
    rw [tokens, List.cons_append, List.append_assoc]
    refine separated_cons_of_not_isWord rfl
      (separated_memberTokens members (by simp [Token.isWord]) ?_)
    exact separated_cons_of_not_isWord rfl hrest

theorem separated_itemTokens (items : List Json) {rest : List Token}
    (hhead : ∀ token ∈ rest.head?, token.isWord = false) (hrest : Separated rest) :
    Separated (itemTokens items ++ rest) := by
  match items with
  | [] => exact hrest
  | [item] => exact separated_tokens item hhead hrest
  | item :: next :: items =>
    rw [itemTokens, List.append_assoc]
    · refine separated_tokens item (by simp [Token.isWord]) ?_
      exact separated_cons_of_not_isWord rfl (separated_itemTokens (next :: items) hhead hrest)
    · simp

theorem separated_memberTokens (members : List (Literal × Json)) {rest : List Token}
    (hhead : ∀ token ∈ rest.head?, token.isWord = false) (hrest : Separated rest) :
    Separated (memberTokens members ++ rest) := by
  match members with
  | [] => exact hrest
  | [(name, value)] =>
    refine separated_cons_of_not_isWord rfl (separated_cons_of_not_isWord rfl ?_)
    exact separated_tokens value hhead hrest
  | (name, value) :: next :: members =>
    rw [memberTokens, List.cons_append, List.cons_append, List.append_assoc]
    · refine separated_cons_of_not_isWord rfl (separated_cons_of_not_isWord rfl ?_)
      refine separated_tokens value (by simp [Token.isWord]) ?_
      exact separated_cons_of_not_isWord rfl (separated_memberTokens (next :: members) hhead hrest)
    · simp

end

/-! ### Reading the tokens of a document -/

section Reading

variable {frames frames' : List Frame} {awaited awaited' : Awaited} {token : Token}

/-- One token of a document. -/
theorem documentFrom?_cons (rest : List Token)
    (h : read? frames awaited token = some (frames', awaited')) :
    documentFrom? frames awaited (token :: rest) = documentFrom? frames' awaited' rest := by
  rw [documentFrom?, h]
  rfl

/-- Two points of reading that read a token alike go on alike. -/
theorem documentFrom?_congr (rest : List Token)
    (h : read? frames awaited token = read? frames' awaited' token) :
    documentFrom? frames awaited (token :: rest) =
      documentFrom? frames' awaited' (token :: rest) := by
  rw [documentFrom?, documentFrom?, h]

/-- Where an array may end, its first item is read as any item is. -/
theorem documentFrom?_itemOrEnd {items : List Json} (hne : items ≠ []) (frames : List Frame)
    (rest : List Token) :
    documentFrom? frames .itemOrEnd (itemTokens items ++ rest) =
      documentFrom? (.array [] :: frames) .document (itemTokens items ++ rest) := by
  have hitem (item : Json) (rest : List Token) :
      documentFrom? frames .itemOrEnd (item.tokens ++ rest) =
        documentFrom? (.array [] :: frames) .document (item.tokens ++ rest) := by
    cases item <;> exact documentFrom?_congr _ rfl
  match items with
  | [item] => exact hitem item rest
  | item :: next :: items =>
    rw [itemTokens, List.append_assoc]
    · exact hitem item _
    · simp

/-- Where an object may end, the name of its first member is read as any name is. -/
theorem documentFrom?_nameOrEnd {members : List (Literal × Json)} (hne : members ≠ [])
    (frames : List Frame) (rest : List Token) :
    documentFrom? frames .nameOrEnd (memberTokens members ++ rest) =
      documentFrom? frames (.name []) (memberTokens members ++ rest) := by
  match members with
  | [(name, value)] => exact documentFrom?_congr _ rfl
  | (name, value) :: next :: members =>
    rw [memberTokens, List.cons_append]
    · exact documentFrom?_congr _ rfl
    · simp

mutual

/-- **The tokens of a document are read as it**, whatever is open around it and whatever
follows. -/
theorem documentFrom?_tokens (json : Json) (frames : List Frame) (rest : List Token) :
    documentFrom? frames .document (json.tokens ++ rest) =
      documentFrom? frames (.after json) rest := by
  match json with
  | .null | .bool b | .number n | .string s => exact documentFrom?_cons rest rfl
  | .array [] => exact (documentFrom?_cons _ rfl).trans (documentFrom?_cons rest rfl)
  | .array (item :: items) =>
    have hne : item :: items ≠ [] := List.cons_ne_nil item items
    rw [tokens, List.cons_append, documentFrom?_cons _ rfl, List.append_assoc]
    rw [documentFrom?_itemOrEnd hne, documentFrom?_itemTokens (item :: items) hne]
    rfl
  | .object [] => exact (documentFrom?_cons _ rfl).trans (documentFrom?_cons rest rfl)
  | .object (member :: members) =>
    have hne : member :: members ≠ [] := List.cons_ne_nil member members
    rw [tokens, List.cons_append, documentFrom?_cons _ rfl, List.append_assoc]
    rw [documentFrom?_nameOrEnd hne, documentFrom?_memberTokens (member :: members) hne]
    rfl

/-- The items of an array that begins with `seen`, the last of them first. -/
theorem documentFrom?_itemTokens (items : List Json) (hne : items ≠ []) (seen : List Json)
    (frames : List Frame) (rest : List Token) :
    documentFrom? (.array seen :: frames) .document (itemTokens items ++ ([.closeArray] ++ rest)) =
      documentFrom? frames (.after (.array (seen.reverse ++ items))) rest := by
  match items with
  | [item] =>
    rw [itemTokens, documentFrom?_tokens item, List.singleton_append, documentFrom?_cons rest rfl]
    rw [List.reverse_cons]
  | item :: next :: items =>
    have hrest := documentFrom?_itemTokens (next :: items) (by simp) (item :: seen) frames rest
    rw [List.reverse_cons, List.append_assoc] at hrest
    rw [itemTokens, List.append_assoc, documentFrom?_tokens item, List.cons_append,
      documentFrom?_cons _ rfl, hrest]
    · rfl
    · simp

/-- The members of an object that begins with `seen`, the last of them first. -/
theorem documentFrom?_memberTokens (members : List (Literal × Json)) (hne : members ≠ [])
    (seen : List (Literal × Json)) (frames : List Frame) (rest : List Token) :
    documentFrom? frames (.name seen) (memberTokens members ++ ([.closeObject] ++ rest)) =
      documentFrom? frames (.after (.object (seen.reverse ++ members))) rest := by
  match members with
  | [(name, value)] =>
    rw [memberTokens, List.cons_append, List.cons_append, documentFrom?_cons _ rfl,
      documentFrom?_cons _ rfl, documentFrom?_tokens value, List.singleton_append]
    rw [documentFrom?_cons rest rfl, List.reverse_cons]
  | (name, value) :: next :: members =>
    have hrest :=
      documentFrom?_memberTokens (next :: members) (by simp) ((name, value) :: seen) frames rest
    rw [List.reverse_cons, List.append_assoc] at hrest
    rw [memberTokens, List.cons_append, List.cons_append, documentFrom?_cons _ rfl,
      documentFrom?_cons _ rfl, List.append_assoc, documentFrom?_tokens value, List.cons_append,
      documentFrom?_cons _ rfl, hrest]
    · rfl
    · simp

end

end Reading

/-- The tokens of a document are read as it. -/
theorem document?_tokens (json : Json) : document? json.tokens = some json := by
  have hread := documentFrom?_tokens json [] []
  rw [List.append_nil] at hread
  rw [document?, hread]
  rfl

/-- **A text is read as the document that it spells.** -/
theorem parse?_of_spelledBy {json : Json} {text : String} (h : json.SpelledBy text.toList) :
    parse? text = some json := by
  have hseparated := @separated_tokens json [] (by simp) .nil
  rw [List.append_nil] at hseparated
  rw [parse?, tokens?_of_spelled h hseparated]
  exact document?_tokens json

/-! ### Natural numbers in decimal -/

namespace Number

theorem digitsOf_of_lt {n : Nat} (h : n < 10) : digitsOf n = [n] := by
  have hdigit : ∀ d, d < 10 → d.digitChar.toNat - '0'.toNat = d := by decide
  rw [digitsOf, Nat.toDigits_of_lt_base h, List.map_singleton, hdigit n h]

theorem digitsOf_of_le {n : Nat} (h : 10 ≤ n) : digitsOf n = digitsOf (n / 10) ++ [n % 10] := by
  have hdigit : ∀ d, d < 10 → d.digitChar.toNat - '0'.toNat = d := by decide
  rw [digitsOf, Nat.toDigits_of_base_le (by decide) h, List.map_append, List.map_singleton,
    hdigit (n % 10) (Nat.mod_lt n (by decide))]
  rfl

/-- **The decimal digits of a number**: each is below ten, together they denote the number, and
the first is zero only where there is no other. -/
theorem digitsOf_spec (n : Nat) :
    (∀ d ∈ digitsOf n, d < 10) ∧ digitsValue (digitsOf n) = n ∧ digitsOf n ≠ [] ∧
      ((digitsOf n).head? = some 0 → digitsOf n = [0]) := by
  induction n using Nat.strongRecOn with
  | ind n ih =>
    rcases Nat.lt_or_ge n 10 with hlt | hge
    · rw [digitsOf_of_lt hlt]
      simp [digitsValue, digitsValueFrom, hlt]
    · obtain ⟨hdigits, hvalue, hne, hzero⟩ := ih (n / 10) (by omega)
      rw [digitsOf_of_le hge]
      refine ⟨?_, ?_, by simp, ?_⟩
      · simp only [List.forall_mem_append, List.forall_mem_singleton]
        exact ⟨hdigits, by omega⟩
      · have hlast : digitsValue (digitsOf (n / 10) ++ [n % 10]) =
            digitsValue (digitsOf (n / 10)) * 10 + n % 10 := by
          simp [digitsValue, digitsValueFrom]
        rw [hlast, hvalue]
        omega
      · intro hhead
        rw [List.head?_append_of_ne_nil _ hne] at hhead
        rw [hzero hhead] at hvalue
        have hsmall : n / 10 = 0 := hvalue.symm
        omega

/-- The print of a natural number spells it. -/
theorem spelled_renderNumber_ofNat (n : Nat) : (ofNat n).Spelled (renderNumber (ofNat n)) := by
  obtain ⟨hdigits, -, hne, hzero⟩ := digitsOf_spec n
  have hspelled : ∀ digits : List Nat, (∀ d ∈ digits, d < 10) →
      DigitsSpelled digits (renderDigits digits) := by
    have hchar : ∀ d, d < 10 → Text.digit? (Text.lowerHex d) = some d := by decide
    intro digits hdigits
    induction digits with
    | nil => exact .nil
    | cons d digits ih =>
      rw [List.forall_mem_cons] at hdigits
      exact .cons (hchar d hdigits.1) (ih hdigits.2)
  refine ⟨renderDigits (digitsOf n), [], [], ?_, ⟨hspelled _ hdigits, hne, hzero⟩, .none, .none⟩
  simp [renderNumber, ofNat]

end Number

/-! ### Printing -/

/-- **The documents that are made of texts and natural numbers**, with the constants. -/
inductive Plain : Json → Prop where
  | null : Plain .null
  | bool (b : Bool) : Plain (.bool b)
  | natural (n : Nat) : Plain (.number (.ofNat n))
  | text (s : String) : Plain (ofText s)
  | array {items : List Json} (h : ∀ item ∈ items, Plain item) : Plain (.array items)
  | object {members : List (Literal × Json)} (names : ∀ m ∈ members, ∃ name, m.1 = .ofString name)
    (values : ∀ m ∈ members, Plain m.2) : Plain (.object members)

/-- The members of an object of that kind. -/
def PlainMembers (members : List (Literal × Json)) : Prop :=
  ∀ m ∈ members, (∃ name, m.1 = .ofString name) ∧ m.2.Plain

section PlainMembers

variable {members members' : List (Literal × Json)}

theorem PlainMembers.object (h : PlainMembers members) : Plain (.object members) :=
  .object (fun m hm => (h m hm).1) (fun m hm => (h m hm).2)

theorem PlainMembers.append (h : PlainMembers members) (h' : PlainMembers members') :
    PlainMembers (members ++ members') := by
  intro m hm
  rcases List.mem_append.1 hm with hm | hm
  · exact h m hm
  · exact h' m hm

theorem plainMembers_member (name : String) {value : Json} (h : value.Plain) :
    PlainMembers (member name value) := by
  intro m hm
  obtain rfl := List.mem_singleton.1 hm
  exact ⟨⟨name, rfl⟩, h⟩

theorem plainMembers_memberIfAny {α : Type} (name : String) {write : α → Json}
    (h : ∀ value, (write value).Plain) (value : Option α) :
    PlainMembers (memberIfAny name write value) := by
  cases value with
  | none => exact fun m hm => nomatch hm
  | some value => exact plainMembers_member name (h value)

theorem plain_orNull {α : Type} {write : α → Json} (h : ∀ value, (write value).Plain)
    (value : Option α) : (orNull write value).Plain := by
  cases value with
  | none => exact .null
  | some value => exact h value

/-- The names of an object of that kind are readable. -/
theorem Plain.exists_text? (h : Plain (.object members)) :
    ∀ m ∈ members, ∃ key, m.1.text? = some key := by
  rcases h with _ | _ | _ | _ | _ | ⟨hnames, -⟩
  intro m hm
  obtain ⟨name, hname⟩ := hnames m hm
  exact ⟨name, by rw [hname, Literal.text?_ofString]⟩

end PlainMembers

/-- The four digits of a unit spell it. -/
theorem spelled_renderUnit (u : UInt16) : (Piece.unit u).Spelled (renderUnit u) := by
  have hlt : u.toNat < 65536 := UInt16.toNat_lt u
  have hdigits := Piece.Spelled.digits
    (Text.hexDigit?_lowerHex (n := u.toNat / 0x1000) (by omega))
    (Text.hexDigit?_lowerHex (n := u.toNat / 0x100 % 0x10) (by omega))
    (Text.hexDigit?_lowerHex (n := u.toNat / 0x10 % 0x10) (by omega))
    (Text.hexDigit?_lowerHex (n := u.toNat % 0x10) (by omega))
  have hvalue : ((u.toNat / 0x1000 * 16 + u.toNat / 0x100 % 0x10) * 16 +
      u.toNat / 0x10 % 0x10) * 16 + u.toNat % 0x10 = u.toNat := by omega
  rw [hvalue, Nat.toUInt16_eq, UInt16.ofNat_toNat] at hdigits
  exact hdigits

/-- The print of a character's piece spells that piece. -/
theorem spelled_renderPiece (c : Char) :
    (Literal.pieceOf c).Spelled (renderPiece (Literal.pieceOf c)) := by
  rw [Literal.pieceOf]
  split
  · exact spelled_renderUnit _
  · rename_i hplain
    unfold renderPiece
    split
    case h_8 c hquote hbackslash _ _ _ _ _ heq =>
      obtain rfl : _ = c := Piece.char.inj heq
      refine .plain ?_ hquote hbackslash
      by_contra hcontrol
      exact hplain ⟨by omega, by simp_all⟩
    case h_9 heq | h_10 heq => cases heq
    all_goals
      rename_i heq
      cases heq
      exact .escape (by decide)

/-- The print of a text's literal spells that literal. -/
theorem spelled_renderLiteral (s : String) :
    (Token.string (.ofString s)).Spelled (renderLiteral (.ofString s)) := by
  have hpieces : ∀ l : List Char, Literal.Spelled (l.map Literal.pieceOf)
      ((l.map Literal.pieceOf).flatMap renderPiece) := by
    intro l
    induction l with
    | nil => exact .nil
    | cons c l ih => exact .cons (spelled_renderPiece c) ih
  exact .string (hpieces s.toList)

theorem spelled_renderItems {items : List Json}
    (h : ∀ item ∈ items, item.SpelledBy item.renderChars) :
    Spelled (itemTokens items) (renderItems items) := by
  induction items with
  | nil => exact .nil isBlank_nil
  | cons item items ih =>
    rw [List.forall_mem_cons] at h
    cases items with
    | nil => exact h.1
    | cons next items =>
      rw [itemTokens, renderItems]
      · exact h.1.append (.cons_token .comma (ih h.2))
      · simp
      · simp

theorem spelled_renderMembers {members : List (Literal × Json)}
    (h : ∀ m ∈ members, (∃ name, m.1 = .ofString name) ∧ m.2.SpelledBy m.2.renderChars) :
    Spelled (memberTokens members) (renderMembers members) := by
  induction members with
  | nil => exact .nil isBlank_nil
  | cons member members ih =>
    obtain ⟨key, value⟩ := member
    rw [List.forall_mem_cons] at h
    obtain ⟨⟨⟨name, rfl⟩, hvalue⟩, hrest⟩ := h
    have hname := spelled_renderLiteral name
    cases members with
    | nil => exact .cons_token hname (.cons_token .colon hvalue)
    | cons next members =>
      rw [memberTokens, renderMembers]
      · exact .cons_token hname (.cons_token .colon (hvalue.append (.cons_token .comma (ih hrest))))
      · simp
      · simp

/-- **The print of a document spells it**, if it is made of texts and natural numbers. -/
theorem Plain.spelledBy_renderChars {json : Json} (h : json.Plain) :
    json.SpelledBy json.renderChars := by
  induction h with
  | null => exact .of_token .null
  | bool b =>
    cases b with
    | true => exact .of_token .true
    | false => exact .of_token .false
  | natural n => exact .of_token (.number (Number.spelled_renderNumber_ofNat n))
  | text s => exact .of_token (spelled_renderLiteral s)
  | array _ ih =>
    exact .cons_token .openArray ((spelled_renderItems ih).append (.of_token .closeArray))
  | object names _ ih =>
    have hmembers := spelled_renderMembers fun m hm => ⟨names m hm, ih m hm⟩
    exact .cons_token .openObject (hmembers.append (.of_token .closeObject))

/-- **A document is read back from its own print**, if it is made of texts and natural
numbers. -/
theorem Plain.parse?_render {json : Json} (h : json.Plain) : parse? json.render = some json := by
  refine parse?_of_spelledBy ?_
  rw [render, String.toList_ofList]
  exact h.spelledBy_renderChars

end Json

end RemountCheck
