import RemountCheck.Json.Basic

/-!
# Reading records from JSON documents

A record – a value with named fields in a fixed order – may be written in two ways:

* as an object, whose members come in any order. A member whose name is no field's is
  passed over, whatever it holds, but its name has to be readable; a field that occurs
  twice is a mistake;
* as an array of the fields in their order. Fields at the end may be left out, and
  there may not be more items than fields.

`RemountCheck.Json.fields?` reads either into a list with a place for every field, in
which a field that is not written is `none`. The rest of the module reads the values of
fields: `required?`, `defaulted?` and `optional?` say what a field that is not written
means, and `text?`, `word32?` and `flag?` read values. Only an optional field may be
`null`.
-/

namespace RemountCheck

namespace Json

/-! ### Fields -/

/-- The place of one field in the members of an object. -/
inductive Place where
  /-- It does not occur. -/
  | absent
  /-- It occurs once. -/
  | once (value : Json)
  /-- It occurs more than once. -/
  | repeated
  deriving Repr

/-- The place of the field `name`, when names have been read. -/
def placeOf (name : String) : List (String × Json) → Place
  | [] => .absent
  | (key, value) :: members =>
    if key = name then
      match placeOf name members with
      | .absent => .once value
      | _ => .repeated
    else placeOf name members

/-- The members of an object with their names read, if all names are readable. -/
def readNames? : List (Literal × Json) → Option (List (String × Json))
  | [] => some []
  | (key, value) :: members =>
    (Literal.text? key).bind fun key => (readNames? members).map ((key, value) :: ·)

/-- The fields of an object, in the order of `names`. -/
def memberFields? (members : List (String × Json)) : List String → Option (List (Option Json))
  | [] => some []
  | name :: names =>
    match placeOf name members with
    | .absent => (memberFields? members names).map (none :: ·)
    | .once value => (memberFields? members names).map (some value :: ·)
    | .repeated => none

/-- The fields of an array, in the order of `names`. -/
def itemFields? : List Json → List String → Option (List (Option Json))
  | [], names => some (names.map fun _ => none)
  | _ :: _, [] => none
  | item :: items, _ :: names => (itemFields? items names).map (some item :: ·)

/-- **The fields of a record**, in the order of `names`, from either way of writing it. -/
def fields? (names : List String) : Json → Option (List (Option Json))
  | .object members => (readNames? members).bind fun members => memberFields? members names
  | .array items => itemFields? items names
  | _ => none

/-! ### What a field that is not written means -/

/-- A field that has to be written. -/
def required? (read? : Json → Option α) : Option Json → Option α
  | none => none
  | some value => read? value

/-- A field with a usual value. -/
def defaulted? (usual : α) (read? : Json → Option α) : Option Json → Option α
  | none => some usual
  | some value => read? value

/-- A field that may be left out or `null`. -/
def optional? (read? : Json → Option α) : Option Json → Option (Option α)
  | none => some none
  | some .null => some none
  | some value => (read? value).map some

/-! ### Values -/

/-- A text. -/
def text? : Json → Option String
  | .string s => s.text?
  | _ => none

/-- A number of 32 bits, written as an integer. -/
def word32? : Json → Option UInt32
  | .number n =>
    n.integer?.bind fun i => if 0 ≤ i ∧ i < UInt32.size then some (UInt32.ofNat i.toNat) else none
  | _ => none

/-- A truth value. -/
def flag? : Json → Option Bool
  | .bool b => some b
  | _ => none

/-- A list of values. -/
def list? (read? : Json → Option α) : Json → Option (List α)
  | .array items => items.mapM read?
  | _ => none

/-! ### Writing -/

/-- A text as a document. -/
def ofText (s : String) : Json := .string (Literal.ofString s)

/-- A number of 32 bits as a document. -/
def ofWord32 (n : UInt32) : Json := .number (Number.ofNat n.toNat)

/-- A member that is always written. -/
def member (name : String) (value : Json) : List (Literal × Json) :=
  [(Literal.ofString name, value)]

/-- A member that is written where there is a value. -/
def memberIfAny (name : String) (write : α → Json) : Option α → List (Literal × Json)
  | none => []
  | some value => member name (write value)

/-- An optional value as a document, `null` where there is none. -/
def orNull (write : α → Json) : Option α → Json
  | none => .null
  | some value => write value

end Json

end RemountCheck
