import RemountCheck.Json.Basic
import RemountCheck.Text.Digits

/-!
# The tokens of a JSON text

A text is cut into tokens one character at a time, by a machine that knows what
it stands in: between tokens, in a word, in a string literal, after a backslash
or among the digits of an escape. A **word** is a run of characters that are
neither blank nor punctuation nor a quote; it has to be one of the three constants
or a number.

* `RemountCheck.Json.Token` – the tokens;
* `RemountCheck.Json.Number.ofChars?` – a number by the grammar of numbers;
* `RemountCheck.Json.tokens?` – the tokens of a text, if it is made of tokens.

The blanks between tokens are the space, the tab, the carriage return and the line
feed, and no others; a control character cannot stand in a string literal as it is.
-/

namespace RemountCheck

namespace Json

/-- **A token** of a JSON text. -/
inductive Token where
  | openArray
  | closeArray
  | openObject
  | closeObject
  | comma
  | colon
  | null
  | bool (b : Bool)
  | number (n : Number)
  | string (s : Literal)
  deriving DecidableEq, Repr

/-- The blanks that may stand between tokens. -/
def isSpace (c : Char) : Bool := c = ' ' || c = '\t' || c = '\n' || c = '\r'

/-- The token that a punctuation mark is. -/
def punctuation? : Char → Option Token
  | '[' => some .openArray
  | ']' => some .closeArray
  | '{' => some .openObject
  | '}' => some .closeObject
  | ',' => some .comma
  | ':' => some .colon
  | _ => none

/-! ### Numbers and constants -/

/-- The digits that a text begins with, and what follows them. -/
def leadingDigits : List Char → List Nat × List Char
  | [] => ([], [])
  | c :: s =>
    match Text.digit? c with
    | some d => let (digits, rest) := leadingDigits s; (d :: digits, rest)
    | none => ([], c :: s)

/-- The digits before the point: a zero stands alone. -/
def wholePart? (s : List Char) : Option (List Nat × List Char) :=
  match leadingDigits s with
  | ([], _) => none
  | (0 :: _ :: _, _) => none
  | part => some part

/-- The digits after the point, of which there is at least one if there is a point. -/
def fractionPart? : List Char → Option (List Nat × List Char)
  | '.' :: s =>
    match leadingDigits s with
    | ([], _) => none
    | part => some part
  | s => some ([], s)

/-- The digits of an exponent after its sign. -/
def exponentDigits? (negative : Bool) (s : List Char) : Option (Exponent × List Char) :=
  match leadingDigits s with
  | ([], _) => none
  | (digits, rest) => some (⟨negative, digits⟩, rest)

/-- An exponent, if there is one: the letter, a sign or none, and digits. -/
def exponentPart? : List Char → Option (Option Exponent × List Char)
  | c :: s =>
    if c = 'e' ∨ c = 'E' then
      let part :=
        match s with
        | '+' :: s => exponentDigits? false s
        | '-' :: s => exponentDigits? true s
        | s => exponentDigits? false s
      part.map fun (exponent, rest) => (some exponent, rest)
    else some (none, c :: s)
  | [] => some (none, [])

/-- A number without its sign. -/
def unsignedNumber? (negative : Bool) (s : List Char) : Option Number :=
  (wholePart? s).bind fun (whole, s) =>
    (fractionPart? s).bind fun (fraction, s) =>
      (exponentPart? s).bind fun (exponent, s) =>
        if s.isEmpty then some ⟨negative, whole, fraction, exponent⟩ else none

/-- **A number by the grammar**: a minus sign or none, digits without a leading
zero, perhaps a point and digits, perhaps an exponent, and nothing else. -/
def Number.ofChars? : List Char → Option Number
  | '-' :: s => unsignedNumber? true s
  | s => unsignedNumber? false s

/-- The token that a word is: a constant or a number. -/
def wordToken? (word : List Char) : Option Token :=
  if word = ['n', 'u', 'l', 'l'] then some .null
  else if word = ['t', 'r', 'u', 'e'] then some (.bool true)
  else if word = ['f', 'a', 'l', 's', 'e'] then some (.bool false)
  else (Number.ofChars? word).map .number

/-! ### Escapes -/

/-- The character that a short escape stands for, by what follows the backslash. -/
def shortEscape? : Char → Option Char
  | '"' => some '"'
  | '\\' => some '\\'
  | '/' => some '/'
  | 'b' => some '\x08'
  | 'f' => some '\x0c'
  | 'n' => some '\n'
  | 'r' => some '\r'
  | 't' => some '\t'
  | _ => none

/-! ### The machine -/

/-- What the machine stands in. Pieces and characters read so far are kept last
first. -/
inductive Mode where
  /-- Between tokens. -/
  | between
  /-- In a word. -/
  | word (seen : List Char)
  /-- In a string literal. -/
  | literal (seen : Literal)
  /-- In a string literal, after a backslash. -/
  | escape (seen : Literal)
  /-- In an escape by digits: `left + 1` of them are due, and those read so far have
  a value. -/
  | digits (seen : Literal) (left value : Nat)
  deriving DecidableEq, Repr

/-- A character read between tokens: the tokens that it completes, and where the
machine stands after it. -/
def opening (c : Char) : List Token × Mode :=
  if isSpace c then ([], .between)
  else if c = '"' then ([], .literal [])
  else
    match punctuation? c with
    | some token => ([token], .between)
    | none => ([], .word [c])

/-- **One character**: the tokens that it completes, and where the machine stands
after it. -/
def Mode.step? : Mode → Char → Option (List Token × Mode)
  | .between, c => some (opening c)
  | .word seen, c =>
    match opening c with
    | ([], .word _) => some ([], .word (c :: seen))
    | (tokens, mode) => (wordToken? seen.reverse).map fun token => (token :: tokens, mode)
  | .literal seen, c =>
    if c = '"' then some ([.string seen.reverse], .between)
    else if c = '\\' then some ([], .escape seen)
    else if c.toNat < 0x20 then none
    else some ([], .literal (.char c :: seen))
  | .escape seen, c =>
    if c = 'u' then some ([], .digits seen 3 0)
    else (shortEscape? c).map fun c => ([], .literal (.char c :: seen))
  | .digits seen left value, c =>
    (Text.hexDigit? c).map fun digit =>
      let value := value * 16 + digit
      match left with
      | 0 => ([], .literal (.unit value.toUInt16 :: seen))
      | left + 1 => ([], .digits seen left value)

/-- The end of the text: a word ends with it, and a literal must not stand open. -/
def Mode.finish? : Mode → Option (List Token)
  | .between => some []
  | .word seen => (wordToken? seen.reverse).map ([·])
  | _ => none

/-- The tokens of a text that is read in a mode. -/
def tokensFrom? : Mode → List Char → Option (List Token)
  | mode, [] => mode.finish?
  | mode, c :: s =>
    (mode.step? c).bind fun (tokens, mode) => (tokensFrom? mode s).map (tokens ++ ·)

/-- **The tokens of a text**, if it is made of tokens. -/
def tokens? (s : List Char) : Option (List Token) := tokensFrom? .between s

end Json

end RemountCheck
