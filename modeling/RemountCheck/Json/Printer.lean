import RemountCheck.Json.Basic
import RemountCheck.Text.Digits

/-!
# Writing JSON documents

* `RemountCheck.Json.render` – a document as a text, without any blanks between its
  tokens.

In string literals only what has to be escaped is: quotes and backslashes, and the
control characters, five of which have a short escape; everything else is written
as it is. Bytes that are no character are replaced.
-/

namespace RemountCheck

namespace Json

/-- The escape of a unit by its four digits. -/
def renderUnit (u : UInt16) : List Char :=
  let n := u.toNat
  ['\\', 'u', Text.lowerHex (n / 0x1000), Text.lowerHex (n / 0x100 % 0x10),
    Text.lowerHex (n / 0x10 % 0x10), Text.lowerHex (n % 0x10)]

/-- A piece of a string literal as it is written. -/
def renderPiece : Piece → List Char
  | .char '"' => ['\\', '"']
  | .char '\\' => ['\\', '\\']
  | .char '\x08' => ['\\', 'b']
  | .char '\x0c' => ['\\', 'f']
  | .char '\n' => ['\\', 'n']
  | .char '\r' => ['\\', 'r']
  | .char '\t' => ['\\', 't']
  | .char c => [c]
  | .unit u => renderUnit u
  | .garbled => ['\uFFFD']

/-- A string literal with its quotes. -/
def renderLiteral (s : Literal) : List Char := '"' :: (s.flatMap renderPiece ++ ['"'])

/-- Digits as they are written. -/
def renderDigits (digits : List Nat) : List Char := digits.map Text.lowerHex

/-- A number as it is written. -/
def renderNumber (n : Number) : List Char :=
  (if n.negative then ['-'] else []) ++ renderDigits n.whole ++
    (if n.fraction.isEmpty then [] else '.' :: renderDigits n.fraction) ++
    match n.exponent with
    | none => []
    | some e => 'e' :: ((if e.negative then ['-'] else []) ++ renderDigits e.digits)

mutual

/-- The characters of a document. -/
def renderChars : Json → List Char
  | .null => ['n', 'u', 'l', 'l']
  | .bool true => ['t', 'r', 'u', 'e']
  | .bool false => ['f', 'a', 'l', 's', 'e']
  | .number n => renderNumber n
  | .string s => renderLiteral s
  | .array items => '[' :: (renderItems items ++ [']'])
  | .object members => '{' :: (renderMembers members ++ ['}'])

/-- The items of an array, with commas between them. -/
def renderItems : List Json → List Char
  | [] => []
  | [item] => renderChars item
  | item :: items => renderChars item ++ ',' :: renderItems items

/-- The members of an object, with commas between them. -/
def renderMembers : List (Literal × Json) → List Char
  | [] => []
  | [(name, value)] => renderLiteral name ++ ':' :: renderChars value
  | (name, value) :: members =>
    renderLiteral name ++ ':' :: (renderChars value ++ ',' :: renderMembers members)

end

/-- **A document as a text.** -/
def render (json : Json) : String := String.ofList json.renderChars

end Json

end RemountCheck
