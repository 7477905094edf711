import RemountCheck.Json.Finite
import RemountCheck.Json.Token

/-!
# Reading JSON documents

A document is read token by token. What is open around the point of reading – the
arrays and objects begun and not yet closed – is a stack of frames, so that a
document may be nested as deeply as it likes.

* `RemountCheck.Json.documentFrom?` – the reader, one token at a time;
* `RemountCheck.Json.parse?` – the document that a text is, if it is one;
* `RemountCheck.Json.parseReadable?` – the document that a text is, if it is one that
  can be kept as a value: nested at most 127 deep, with readable literals and with
  numbers within reach everywhere, in the names of members too.
-/

namespace RemountCheck

namespace Json

/-- A document begun and not yet closed: an array with the items before the point of
reading, or an object with the members before it and the name of the member that is
being read. The last item or member comes first. -/
inductive Frame where
  | array (items : List Json)
  | object (members : List (Literal × Json)) (name : Literal)
  deriving Repr

/-- What the reader is waiting for. -/
inductive Awaited where
  /-- A document. -/
  | document
  /-- The first item of an array, or its end. -/
  | itemOrEnd
  /-- The name of an object's first member, or the object's end. -/
  | nameOrEnd
  /-- The name of a further member of an object with these members. -/
  | name (members : List (Literal × Json))
  /-- The colon after a member's name. -/
  | colon (members : List (Literal × Json)) (name : Literal)
  /-- A comma or an end after this document, or the end of the text. -/
  | after (document : Json)
  deriving Repr

/-- A token that begins a document: a document of one token is complete with it. -/
def begin? (frames : List Frame) : Token → Option (List Frame × Awaited)
  | .openArray => some (frames, .itemOrEnd)
  | .openObject => some (frames, .nameOrEnd)
  | .null => some (frames, .after .null)
  | .bool b => some (frames, .after (.bool b))
  | .number n => some (frames, .after (.number n))
  | .string s => some (frames, .after (.string s))
  | _ => none

/-- **One token.** An array whose first item begins is opened only then, so that the
frame on top always belongs to the document that is being read. -/
def read? : List Frame → Awaited → Token → Option (List Frame × Awaited)
  | frames, .document, token => begin? frames token
  | frames, .itemOrEnd, .closeArray => some (frames, .after (.array []))
  | frames, .itemOrEnd, token => begin? (.array [] :: frames) token
  | frames, .nameOrEnd, .closeObject => some (frames, .after (.object []))
  | frames, .nameOrEnd, .string name => some (frames, .colon [] name)
  | frames, .name members, .string name => some (frames, .colon members name)
  | frames, .colon members name, .colon => some (.object members name :: frames, .document)
  | .array items :: frames, .after document, .comma =>
    some (.array (document :: items) :: frames, .document)
  | .array items :: frames, .after document, .closeArray =>
    some (frames, .after (.array (document :: items).reverse))
  | .object members name :: frames, .after document, .comma =>
    some (frames, .name ((name, document) :: members))
  | .object members name :: frames, .after document, .closeObject =>
    some (frames, .after (.object ((name, document) :: members).reverse))
  | _, _, _ => none

/-- The document that tokens make, from a point of reading on. At the end a document
is complete and nothing is open. -/
def documentFrom? : List Frame → Awaited → List Token → Option Json
  | [], .after document, [] => some document
  | _, _, [] => none
  | frames, awaited, token :: tokens =>
    (read? frames awaited token).bind fun (frames, awaited) =>
      documentFrom? frames awaited tokens

/-- The document that tokens make. -/
def document? (tokens : List Token) : Option Json := documentFrom? [] .document tokens

/-- **The document that a text is**, if it is one. -/
def parse? (text : String) : Option Json := (tokens? text.toList).bind document?

/-! ### Documents that can be kept as values -/

/-- Whether a token can be kept: a literal has to stand for a text, and a number has
to be within reach. -/
def Token.isReadable : Token → Bool
  | .string s => s.text?.isSome
  | .number n => n.isFinite
  | _ => true

/-- Whether no more than `limit` arrays and objects are ever open at once, when
`depth` are open at the start. -/
def nestsWithin (limit : Nat) : Nat → List Token → Bool
  | _, [] => true
  | depth, token :: tokens =>
    match token with
    | .openArray | .openObject => depth < limit && nestsWithin limit (depth + 1) tokens
    | .closeArray | .closeObject => nestsWithin limit (depth - 1) tokens
    | _ => nestsWithin limit depth tokens

/-- How many arrays and objects may be open at once in a document that is kept. -/
def nestingLimit : Nat := 127

/-- **The document that a text is**, if it is one that can be kept as a value. -/
def parseReadable? (text : String) : Option Json :=
  (tokens? text.toList).bind fun tokens =>
    if tokens.all Token.isReadable && nestsWithin nestingLimit 0 tokens then document? tokens
    else none

end Json

end RemountCheck
