import RemountCheck.Text.Printable

/-!
# Text shown for diagnosis

A value that may be absent, or may hold anything at all, is shown in a log with
quotes around it and with everything that would not print spelt out:

* `RemountCheck.Text.escaped` – the escaped form of a text: `\"`, `\\`, `\n`,
  `\r`, `\t` and `\0` by their short forms, other characters that do not print
  by their code point in lower-case hexadecimal between braces;
* `RemountCheck.Text.shown` – an optional text, as `Some("…")` or `None`.
-/

namespace RemountCheck

namespace Text

/-- One character of an escaped text. -/
def escapedChar : Char → List Char
  | '"' => ['\\', '"']
  | '\\' => ['\\', '\\']
  | '\n' => ['\\', 'n']
  | '\r' => ['\\', 'r']
  | '\t' => ['\\', 't']
  | '\x00' => ['\\', '0']
  | c =>
    if isPrintable c then [c]
    else ['\\', 'u', '{'] ++ Nat.toDigits 16 c.toNat ++ ['}']

/-- **The escaped form** of a text. -/
def escaped (s : String) : String := String.ofList (s.toList.flatMap escapedChar)

/-- An optional text with its quotes, or the word for its absence. -/
def shown : Option String → String
  | some s => "Some(\"" ++ escaped s ++ "\")"
  | none => "None"

end Text

end RemountCheck
