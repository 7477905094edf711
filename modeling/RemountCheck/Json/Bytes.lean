import RemountCheck.Json.Parser
import RemountCheck.Text.Utf8

/-!
# Reading JSON documents from bytes

A document that comes as bytes need not be a text to be read. What makes it a document – the
brackets, the quotes, the words – is ASCII, and inside of a string literal all bytes are let pass
until somebody asks for the text that it stands for. So a member that nobody reads may hold
anything, while the name of a member that is compared and a text that is kept have to be UTF-8.

* `RemountCheck.Json.Mode.take?` – one step of the machine of `RemountCheck.Json.Mode.step?`, over
  a character or a stretch of bytes that are none;
* `RemountCheck.Json.ofBytes?` – the document that some bytes are, if they are one;
* `RemountCheck.Json.ofBytes?_eq_parse?` – where all bytes are text, that is the document of the
  text.
-/

namespace RemountCheck

namespace Json

/-- **One character, or a stretch of bytes that are none.** Such a stretch is kept in a string
literal. Elsewhere it is as good as the character that stands for it in a text, and that begins no
token and ends none. -/
def Mode.take? : Mode → Option Char → Option (List Token × Mode)
  | .literal seen, none => some ([], .literal (.garbled :: seen))
  | mode, c => mode.step? (c.getD '\uFFFD')

/-- The tokens of what is read in a mode, with `none` in the place of each stretch. -/
def tokensOfRead? : Mode → List (Option Char) → Option (List Token)
  | mode, [] => mode.finish?
  | mode, c :: s =>
    (mode.take? c).bind fun (tokens, mode) => (tokensOfRead? mode s).map (tokens ++ ·)

/-- **The document that some bytes are**, if they are one. -/
def ofBytes? (bytes : List UInt8) : Option Json :=
  (tokensOfRead? .between (Text.Utf8.decode bytes)).bind document?

/-! ### Bytes that are text -/

/-- Where there are only characters, the tokens are those of the text. -/
theorem tokensOfRead?_some (mode : Mode) (s : List Char) :
    tokensOfRead? mode (s.map some) = tokensFrom? mode s := by
  induction s generalizing mode with
  | nil => cases mode <;> rfl
  | cons c s ih =>
    have htake : mode.take? (some c) = mode.step? c := by cases mode <;> rfl
    rw [List.map_cons, tokensOfRead?, tokensFrom?, htake]
    simp only [ih]

/-- **Bytes that are text are read as the text.** -/
theorem ofBytes?_eq_parse? {bytes : List UInt8} {text : String}
    (h : Text.Utf8.strict? bytes = some text) : ofBytes? bytes = parse? text := by
  rw [ofBytes?, Text.Utf8.decode_of_strict? h, tokensOfRead?_some]
  rfl

end Json

end RemountCheck
