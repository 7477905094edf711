import Mathlib.Tactic.SplitIfs
import RemountCheck.Json.Bytes

/-!
# Documents that come as bytes

A document can be read from bytes of which some are no text, as long as these stand in string
literals. This module says that nothing else is special about it: put the replacement character in
the place of each such stretch, in the bytes or in the document, and the document is that of the
text.

* `RemountCheck.Json.mended` – a document with the replacement character in the place of each
  stretch of bytes that are no character;
* `RemountCheck.Json.tokensOfRead?_mended` – the machine takes the same way over the bytes and over
  their text, character by character;
* `RemountCheck.Json.documentFrom?_mended` – the reader does not look into string literals;
* `RemountCheck.Json.mended_ofBytes?` – **a document of bytes, mended, is that of their text**.

So some bytes are a document exactly if their text is one, and what the two may differ in is the
inside of string literals.
-/

namespace RemountCheck

namespace Json

/-! ### Mending -/

/-- A piece, with the replacement character in the place of bytes that are no character. -/
def Piece.mended : Piece → Piece
  | .garbled => .char '\uFFFD'
  | piece => piece

/-- A literal, piece by piece. -/
def Literal.mended (literal : Literal) : Literal := literal.map Piece.mended

/-- A token, of which only a string literal can need it. -/
def Token.mended : Token → Token
  | .string s => .string (Literal.mended s)
  | token => token

/-- Where the machine stands. -/
def Mode.mended : Mode → Mode
  | .literal seen => .literal (Literal.mended seen)
  | .escape seen => .escape (Literal.mended seen)
  | .digits seen left value => .digits (Literal.mended seen) left value
  | mode => mode

mutual

/-- **A document, mended**, in the names of members too. -/
def mended : Json → Json
  | .string s => .string (Literal.mended s)
  | .array items => .array (mendedItems items)
  | .object members => .object (mendedMembers members)
  | json => json

/-- Some items, mended. -/
def mendedItems : List Json → List Json
  | [] => []
  | item :: items => mended item :: mendedItems items

/-- Some members, mended. -/
def mendedMembers : List (Literal × Json) → List (Literal × Json)
  | [] => []
  | (name, value) :: members => (Literal.mended name, mended value) :: mendedMembers members

end

/-- What is open around the point of reading. -/
def Frame.mended : Frame → Frame
  | .array items => .array (mendedItems items)
  | .object members name => .object (mendedMembers members) (Literal.mended name)

/-- What the reader is waiting for. -/
def Awaited.mended : Awaited → Awaited
  | .name members => .name (mendedMembers members)
  | .colon members key => .colon (mendedMembers members) (Literal.mended key)
  | .after json => .after json.mended
  | awaited => awaited

/-! ### The machine -/

/-- What a character between tokens completes is a punctuation mark. -/
theorem mended_opening (c : Char) :
    ((opening c).1.map Token.mended, (opening c).2.mended) = opening c := by
  unfold opening
  split_ifs
  · rfl
  · rfl
  · cases hmark : punctuation? c with
    | none => rfl
    | some token =>
      unfold punctuation? at hmark
      split at hmark <;> cases hmark <;> rfl

/-- A word is no string literal. -/
theorem mended_of_wordToken? {word : List Char} {token : Token} (h : wordToken? word = some token) :
    token.mended = token := by
  unfold wordToken? at h
  split_ifs at h
  · cases h; rfl
  · cases h; rfl
  · cases h; rfl
  · obtain ⟨n, -, rfl⟩ := Option.map_eq_some_iff.mp h
    rfl

/-- What the machine completes with a character, and where it stands then, mended. -/
def mendedStep (x : List Token × Mode) : List Token × Mode := (x.1.map Token.mended, x.2.mended)

/-- **A character is read alike** in a mended mode. -/
theorem step?_mended (mode : Mode) (c : Char) :
    (mode.step? c).map mendedStep = mode.mended.step? c := by
  cases mode with
  | between => exact congrArg some (mended_opening c)
  | word seen =>
    have hopening := mended_opening c
    simp only [Mode.step?, Mode.mended]
    split
    · rfl
    · rename_i tokens mode _ heq
      rw [heq, Prod.mk.injEq] at hopening
      cases htoken : wordToken? seen.reverse with
      | none => rfl
      | some token => simp [mendedStep, mended_of_wordToken? htoken, hopening]
  | literal seen =>
    simp only [Mode.step?, Mode.mended]
    split_ifs <;> simp [mendedStep, Mode.mended, Token.mended, Literal.mended, Piece.mended]
  | escape seen =>
    simp only [Mode.step?, Mode.mended]
    split_ifs
    · rfl
    · rw [Option.map_map]
      rfl
  | digits seen left value =>
    simp only [Mode.step?, Mode.mended]
    rw [Option.map_map]
    cases left <;> rfl

/-- **A step of the machine** over bytes, mended, is the step over their text. -/
theorem take?_mended (mode : Mode) (c : Option Char) :
    (mode.take? c).map mendedStep = mode.mended.step? (c.getD '\uFFFD') := by
  cases c with
  | some c =>
    have htake : mode.take? (some c) = mode.step? c := by cases mode <;> rfl
    rw [htake, Option.getD_some, step?_mended]
  | none =>
    cases mode with
    | literal seen => rfl
    | between => exact step?_mended .between '\uFFFD'
    | word seen => exact step?_mended (.word seen) '\uFFFD'
    | escape seen => exact step?_mended (.escape seen) '\uFFFD'
    | digits seen left value => exact step?_mended (.digits seen left value) '\uFFFD'

theorem finish?_mended (mode : Mode) :
    mode.finish?.map (·.map Token.mended) = mode.mended.finish? := by
  cases mode with
  | word seen =>
    cases htoken : wordToken? seen.reverse with
    | none => simp [Mode.finish?, Mode.mended, htoken]
    | some token => simp [Mode.finish?, Mode.mended, htoken, mended_of_wordToken? htoken]
  | between | literal _ | escape _ | digits _ _ _ => rfl

/-- **The machine over bytes**, mended, goes the way of the machine over their text. -/
theorem tokensOfRead?_mended (mode : Mode) (read : List (Option Char)) :
    (tokensOfRead? mode read).map (·.map Token.mended) =
      tokensFrom? mode.mended (read.map (·.getD '\uFFFD')) := by
  induction read generalizing mode with
  | nil => rw [tokensOfRead?, finish?_mended]; cases mode <;> rfl
  | cons c read ih =>
    rw [tokensOfRead?, List.map_cons, tokensFrom?, ← take?_mended]
    cases mode.take? c with
    | none => rfl
    | some x =>
      simp only [Option.bind_some, Option.map_some, mendedStep, ← ih, Option.map_map]
      congr 1
      funext tokens
      simp

/-! ### The reader -/

theorem mendedItems_reverse (items : List Json) :
    mendedItems items.reverse = (mendedItems items).reverse := by
  have hmap (items : List Json) : mendedItems items = items.map mended := by
    induction items with
    | nil => rfl
    | cons item items ih => rw [mendedItems, ih, List.map_cons]
  rw [hmap, hmap, List.map_reverse]

theorem mendedMembers_reverse (members : List (Literal × Json)) :
    mendedMembers members.reverse = (mendedMembers members).reverse := by
  have hmap (members : List (Literal × Json)) : mendedMembers members =
      members.map fun (key, value) => (Literal.mended key, mended value) := by
    induction members with
    | nil => rfl
    | cons member members ih => rw [mendedMembers, ih, List.map_cons]
  rw [hmap, hmap, List.map_reverse]

/-- What the reader has open and waits for, mended. -/
def mendedReading (x : List Frame × Awaited) : List Frame × Awaited :=
  (x.1.map Frame.mended, x.2.mended)

/-- **A token is read alike** if it is mended. -/
theorem read?_mended (frames : List Frame) (awaited : Awaited) (token : Token) :
    (read? frames awaited token).map mendedReading =
      read? (frames.map Frame.mended) awaited.mended token.mended := by
  cases awaited with
  | document | itemOrEnd | nameOrEnd | name _ | colon _ _ => cases token <;> rfl
  | after json =>
    cases frames with
    | nil => cases token <;> rfl
    | cons frame frames =>
      -- what was read last is put behind the rest where its frame is closed
      cases frame with
      | array items =>
        cases token with
        | closeArray =>
          exact congrArg (fun items => some (frames.map Frame.mended, Awaited.after (.array items)))
            (mendedItems_reverse (json :: items))
        | _ => rfl
      | object members key =>
        cases token with
        | closeObject =>
          exact congrArg
            (fun members => some (frames.map Frame.mended, Awaited.after (.object members)))
            (mendedMembers_reverse ((key, json) :: members))
        | _ => rfl

/-- **The reader does not look into string literals.** -/
theorem documentFrom?_mended (frames : List Frame) (awaited : Awaited) (tokens : List Token) :
    (documentFrom? frames awaited tokens).map mended =
      documentFrom? (frames.map Frame.mended) awaited.mended (tokens.map Token.mended) := by
  induction tokens generalizing frames awaited with
  | nil => cases frames <;> cases awaited <;> rfl
  | cons token tokens ih =>
    rw [List.map_cons, documentFrom?, documentFrom?, ← read?_mended]
    cases read? frames awaited token with
    | none => rfl
    | some x => exact ih x.1 x.2

/-- **A document of bytes, mended, is that of their text**: the bytes are a document exactly if
their text is one. -/
theorem mended_ofBytes? (bytes : List UInt8) :
    (ofBytes? bytes).map mended = parse? (Text.Utf8.lossy bytes) := by
  rw [ofBytes?, parse?, tokens?, Text.Utf8.lossy, String.toList_ofList]
  rw [show tokensFrom? .between _ = _ from (tokensOfRead?_mended .between _).symm]
  cases tokensOfRead? .between (Text.Utf8.decode bytes) with
  | none => rfl
  | some tokens => exact documentFrom?_mended [] .document tokens

end Json

end RemountCheck
