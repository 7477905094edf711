/-!
# Breaks in URLs

A URL that was written over several lines is still one URL: tabs and line ends are passed over
wherever they stand.

* `RemountCheck.Http.isBreak` – the characters that are passed over;
* `RemountCheck.Http.withoutBreaks` – what is left of a text;
* `RemountCheck.Http.trimmed` – a text without what stands around it.
-/

namespace RemountCheck

namespace Http

/-- Whether a character is a tab or ends a line. -/
def isBreak (c : Char) : Bool := c = '\t' || c = '\n' || c = '\r'

/-- **A text without its breaks.** -/
def withoutBreaks (s : List Char) : List Char := s.filter (!isBreak ·)

/-- What is left of a text after its first `n` characters that are no breaks. Breaks that come
next are left. -/
def afterPlain : Nat → List Char → List Char
  | 0, s => s
  | n + 1, s => afterPlain n ((s.dropWhile isBreak).drop 1)

/-- **A text without the blanks and controls around it.** -/
def trimmed (s : List Char) : List Char :=
  let isOuter := fun c : Char => decide (c.toNat ≤ 0x20)
  ((s.dropWhile isOuter).reverse.dropWhile isOuter).reverse

end Http

end RemountCheck
