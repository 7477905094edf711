import Mathlib.Data.List.Forall2
import RemountCheck.Json.Fields

/-!
# The ways of writing a record

A record can be written in many ways: as an object, with its members in any order and others
between them, or as an array, which may break off early. What all of them have in common is said
here without reading anything, and then compared with the reading.

| what is written | relation | reader |
|---|---|---|
| a text, a number | `WritesText`, `WritesWord32` | `text?`, `word32?` |
| a flag, a list | `WritesFlag`, `WritesList` | `flag?`, `list?` |
| a field | `Required`, `Defaulted`, `Optional` | `required?`, `defaulted?`, `optional?` |
| a record | `RemountCheck.Json.Record` | `RemountCheck.Json.fields?` |

* `RemountCheck.Json.valuesOf` – what an object says under a name;
* `RemountCheck.Json.Reads` – **a reader reads exactly what a relation says is written**; each row
  of the table has its lemma, and `RemountCheck.Json.record_iff` is that of the last;
* `RemountCheck.Json.Record.perm` – the order of the members of an object is of no account;
* `RemountCheck.Json.Flawed` – the mistakes that spoil a record, and
  `RemountCheck.Json.Record.not_flawed`, that what writes a record has none of them.
-/

namespace RemountCheck

namespace Json

variable {α : Type}

/-! ### What an object says under a name -/

/-- **The values under a name** in the members of an object, in their order. A name that is no
text is nobody's. -/
def valuesOf (name : String) (members : List (Literal × Json)) : List Json :=
  (members.filter fun m => m.1.text? = some name).map (·.2)

@[simp] theorem valuesOf_nil (name : String) : valuesOf name [] = [] := rfl

@[simp] theorem valuesOf_append (name : String) (members members' : List (Literal × Json)) :
    valuesOf name (members ++ members') = valuesOf name members ++ valuesOf name members' := by
  simp [valuesOf]

@[simp] theorem valuesOf_member (name other : String) (value : Json) :
    valuesOf name (member other value) = if other = name then [value] else [] := by
  by_cases h : other = name <;> simp [valuesOf, member, h]

@[simp] theorem valuesOf_memberIfAny (name other : String) (write : α → Json) (value : Option α) :
    valuesOf name (memberIfAny other write value) =
      if other = name then (value.map write).toList else [] := by
  cases value <;> simp [memberIfAny]

section ValuesOf

variable {name : String} {members : List (Literal × Json)}

theorem valuesOf_cons_of_eq {literal : Literal} (h : literal.text? = some name) (value : Json) :
    valuesOf name ((literal, value) :: members) = value :: valuesOf name members := by
  simp [valuesOf, h]

theorem valuesOf_cons_of_ne {literal : Literal} (h : literal.text? ≠ some name) (value : Json) :
    valuesOf name ((literal, value) :: members) = valuesOf name members := by
  simp [valuesOf, h]

theorem valuesOf_eq_nil_iff :
    valuesOf name members = [] ↔ ∀ m ∈ members, m.1.text? ≠ some name := by
  simp [valuesOf, List.filter_eq_nil_iff]

end ValuesOf

/-- The place that values under a name amount to. -/
def Place.ofValues : List Json → Place
  | [] => .absent
  | [value] => .once value
  | _ => .repeated

/-- **The place of a field** is what its values amount to. -/
theorem placeOf_eq_ofValues (name : String) {members : List (Literal × Json)}
    {named : List (String × Json)} (h : readNames? members = some named) :
    placeOf name named = .ofValues (valuesOf name members) := by
  induction members generalizing named with
  | nil =>
    cases h
    rfl
  | cons member members ih =>
    obtain ⟨literal, value⟩ := member
    rw [readNames?, Option.bind_eq_some_iff] at h
    obtain ⟨key, hkey, h⟩ := h
    obtain ⟨others, hothers, rfl⟩ := Option.map_eq_some_iff.1 h
    have hplace := ih hothers
    by_cases heq : key = name
    · have hname : literal.text? = some name := by rw [hkey, heq]
      rw [placeOf, if_pos heq, hplace, valuesOf_cons_of_eq hname]
      cases valuesOf name members with
      | nil => rfl
      | cons other rest => cases rest <;> rfl
    · have hother : literal.text? ≠ some name := by simpa [hkey] using heq
      rw [placeOf, if_neg heq, hplace, valuesOf_cons_of_ne hother]

/-- The names of an object can be read where each of them is a text. -/
theorem exists_readNames?_iff (members : List (Literal × Json)) :
    (∃ named, readNames? members = some named) ↔ ∀ m ∈ members, ∃ key, m.1.text? = some key := by
  induction members with
  | nil => simp [readNames?]
  | cons member members ih =>
    rw [List.forall_mem_cons, ← ih]
    simp only [readNames?, Option.bind_eq_some_iff, Option.map_eq_some_iff]
    constructor
    · rintro ⟨_, key, hkey, named, hnamed, _⟩
      exact ⟨⟨key, hkey⟩, named, hnamed⟩
    · rintro ⟨⟨key, hkey⟩, named, hnamed⟩
      exact ⟨_, key, hkey, named, hnamed, rfl⟩

/-! ### Records -/

/-- The fields of a record in their order: the name of each, and what its place may be. -/
abbrev Layout := List (String × (Option Json → Prop))

/-- **The items of an array write the fields of a record**, in their order. Where the items are
at an end, the fields that are left are not written. -/
inductive Items : Layout → List Json → Prop where
  | nil : Items [] []
  | written {name : String} {place : Option Json → Prop} {fields : Layout} {item : Json}
    {items : List Json} (hplace : place (some item)) (hrest : Items fields items) :
    Items ((name, place) :: fields) (item :: items)
  | leftOut {name : String} {place : Option Json → Prop} {fields : Layout}
    (hplace : place none) (hrest : Items fields []) : Items ((name, place) :: fields) []

/-- **A document writes a record.** As an object it has a member for each field that is written,
no second one, and any others, whose names are readable; as an array it has an item for each. -/
inductive Record (fields : Layout) : Json → Prop where
  | object {members : List (Literal × Json)}
    (hnames : ∀ m ∈ members, ∃ key, m.1.text? = some key)
    (hfields : ∀ field ∈ fields, ∃ place : Option Json,
      valuesOf field.1 members = place.toList ∧ field.2 place) :
    Record fields (.object members)
  | array {items : List Json} (hitems : Items fields items) : Record fields (.array items)

/-- **The order of the members is of no account.** -/
theorem Record.perm {fields : Layout} {members members' : List (Literal × Json)}
    (hperm : members.Perm members') (h : Record fields (.object members)) :
    Record fields (.object members') := by
  rcases h with ⟨hnames, hfields⟩ | _
  refine .object (fun m hm => hnames m (hperm.mem_iff.2 hm)) fun field hfield => ?_
  obtain ⟨place, hvalues, hplace⟩ := hfields field hfield
  have hsame : (valuesOf field.1 members).Perm (valuesOf field.1 members') :=
    (hperm.filter _).map _
  refine ⟨place, ?_, hplace⟩
  -- There is one value at most, and so no two orders of it.
  rw [hvalues] at hsame
  cases place with
  | none => exact List.nil_perm.1 hsame
  | some value => exact (List.singleton_perm.1 hsame).symm

/-- **A member that is nobody's is of no account**, whatever it holds. -/
theorem Record.cons {fields : Layout} {members : List (Literal × Json)} {literal : Literal}
    {key : String} (hkey : literal.text? = some key) (hnobody : ∀ field ∈ fields, field.1 ≠ key)
    (value : Json) (h : Record fields (.object members)) :
    Record fields (.object ((literal, value) :: members)) := by
  rcases h with ⟨hnames, hfields⟩ | _
  refine .object (List.forall_mem_cons.2 ⟨⟨key, hkey⟩, hnames⟩) fun field hfield => ?_
  have hother : literal.text? ≠ some field.1 := by
    simpa [hkey] using (hnobody field hfield).symm
  rw [valuesOf_cons_of_ne hother]
  exact hfields field hfield

section Places

/-- The places of a record are as its fields ask for. -/
def Fit (fields : Layout) (places : List (Option Json)) : Prop :=
  List.Forall₂ (fun field place => field.2 place) fields places

theorem exists_fit_cons_iff {name : String} {holds : Option Json → Prop} {fields : Layout}
    {place : Option Json} {read? : Option (List (Option Json))} :
    (∃ places, (∃ rest, read? = some rest ∧ place :: rest = places) ∧
      Fit ((name, holds) :: fields) places) ↔
      holds place ∧ ∃ rest, read? = some rest ∧ Fit fields rest := by
  constructor
  · rintro ⟨_, ⟨rest, hread, rfl⟩, _ | ⟨hplace, hfit⟩⟩
    exact ⟨hplace, rest, hread, hfit⟩
  · rintro ⟨hplace, rest, hread, hfit⟩
    exact ⟨_, ⟨rest, hread, rfl⟩, .cons hplace hfit⟩

theorem exists_memberFields?_iff {members : List (Literal × Json)} {named : List (String × Json)}
    (h : readNames? members = some named) (fields : Layout) :
    (∃ places, memberFields? named (fields.map (·.1)) = some places ∧ Fit fields places) ↔
      ∀ field ∈ fields, ∃ place : Option Json,
        valuesOf field.1 members = place.toList ∧ field.2 place := by
  induction fields with
  | nil => exact ⟨fun _ _ hfield => absurd hfield List.not_mem_nil, fun _ => ⟨[], rfl, .nil⟩⟩
  | cons field fields ih =>
    obtain ⟨name, holds⟩ := field
    have hplace := placeOf_eq_ofValues name h
    rw [List.forall_mem_cons, ← ih, List.map_cons, memberFields?, hplace]
    -- The values under a name are none, one or more, and only in the last case there is no place.
    rcases valuesOf name members with _ | ⟨value, _ | ⟨second, rest⟩⟩
    · have hnone (place : Option Json) : [] = place.toList ↔ place = none := by
        cases place <;> simp
      simp only [Place.ofValues, Option.map_eq_some_iff, hnone, exists_eq_left]
      exact exists_fit_cons_iff
    · have hsome (place : Option Json) : [value] = place.toList ↔ place = some value := by
        cases place <;> simp [eq_comm]
      simp only [Place.ofValues, Option.map_eq_some_iff, hsome, exists_eq_left]
      exact exists_fit_cons_iff
    · have hnot (place : Option Json) : value :: second :: rest ≠ place.toList := by
        cases place <;> simp
      simp [Place.ofValues, hnot]

theorem exists_itemFields?_iff (fields : Layout) (items : List Json) :
    (∃ places, itemFields? items (fields.map (·.1)) = some places ∧ Fit fields places) ↔
      Items fields items := by
  induction fields generalizing items with
  | nil =>
    cases items with
    | nil => exact ⟨fun _ => .nil, fun _ => ⟨[], rfl, .nil⟩⟩
    | cons item items =>
      constructor
      · rintro ⟨_, hread, _⟩
        cases hread
      · rintro ⟨⟩
  | cons field fields ih =>
    obtain ⟨name, holds⟩ := field
    cases items with
    | nil =>
      have hread : itemFields? [] (((name, holds) :: fields).map (·.1)) =
          (itemFields? [] (fields.map (·.1))).map (none :: ·) := rfl
      simp only [hread, Option.map_eq_some_iff]
      rw [exists_fit_cons_iff, ih]
      constructor
      · rintro ⟨hplace, hitems⟩
        exact .leftOut hplace hitems
      · rintro (_ | _ | ⟨hplace, hitems⟩)
        exact ⟨hplace, hitems⟩
    | cons item items =>
      simp only [List.map_cons, itemFields?, Option.map_eq_some_iff]
      rw [exists_fit_cons_iff, ih]
      constructor
      · rintro ⟨hplace, hitems⟩
        exact .written hplace hitems
      · rintro (_ | ⟨hplace, hitems⟩ | _)
        exact ⟨hplace, hitems⟩

/-- **A document writes a record** where its fields can be read into places that are as the
record asks for. -/
theorem record_iff (fields : Layout) (json : Json) :
    Record fields json ↔
      ∃ places, json.fields? (fields.map (·.1)) = some places ∧ Fit fields places := by
  constructor
  · rintro (⟨hnames, hfields⟩ | hitems)
    · obtain ⟨named, hnamed⟩ := (exists_readNames?_iff _).2 hnames
      obtain ⟨places, hplaces, hfit⟩ := (exists_memberFields?_iff hnamed fields).2 hfields
      exact ⟨places, by rw [fields?, hnamed]; exact hplaces, hfit⟩
    · exact (exists_itemFields?_iff fields _).2 hitems
  · rintro ⟨places, hplaces, hfit⟩
    match json with
    | .object members =>
      obtain ⟨named, hnamed, hplaces⟩ := Option.bind_eq_some_iff.1 hplaces
      exact .object ((exists_readNames?_iff members).1 ⟨named, hnamed⟩)
        ((exists_memberFields?_iff hnamed fields).1 ⟨places, hplaces, hfit⟩)
    | .array items => exact .array ((exists_itemFields?_iff fields items).1 ⟨places, hplaces, hfit⟩)
    | .null | .bool _ | .number _ | .string _ => cases hplaces

end Places

/-! ### Values -/

/-- A document writes a text, by characters or by escapes. -/
inductive WritesText (s : String) : Json → Prop where
  | literal {literal : Literal} (h : literal.text? = some s) : WritesText s (.string literal)

/-- A document writes a number of 32 bits: without a sign, a fraction or an exponent. -/
inductive WritesWord32 (n : UInt32) : Json → Prop where
  | digits {whole : List Nat} (h : digitsValue whole = n.toNat) :
    WritesWord32 n (.number ⟨false, whole, [], none⟩)

/-- A document writes a truth value. -/
inductive WritesFlag (b : Bool) : Json → Prop where
  | flag : WritesFlag b (.bool b)

/-- A document writes a list of values. -/
inductive WritesList (writes : α → Json → Prop) (values : List α) : Json → Prop where
  | items {items : List Json} (h : List.Forall₂ writes values items) :
    WritesList writes values (.array items)

/-! ### Places -/

/-- A field that has to be written. -/
inductive Required (writes : α → Json → Prop) (value : α) : Option Json → Prop where
  | written {json : Json} (h : writes value json) : Required writes value (some json)

/-- A field that may be left out where it has its usual value. -/
inductive Defaulted (usual : α) (writes : α → Json → Prop) (value : α) : Option Json → Prop where
  | leftOut (h : value = usual) : Defaulted usual writes value none
  | written {json : Json} (h : writes value json) : Defaulted usual writes value (some json)

/-- A field that may be left out or `null` where it has no value. -/
inductive Optional (writes : α → Json → Prop) : Option α → Option Json → Prop where
  | leftOut : Optional writes none none
  | null : Optional writes none (some .null)
  | written {value : α} {json : Json} (h : writes value json) :
    Optional writes (some value) (some json)

/-! ### Readers read what is written -/

/-- **A reader reads exactly what a relation says is written.** -/
def Reads {ι : Type} (read? : ι → Option α) (writes : α → ι → Prop) : Prop :=
  ∀ source value, read? source = some value ↔ writes value source

theorem reads_text? : Reads text? WritesText := by
  intro json s
  constructor
  · intro h
    match json with
    | .string literal => exact .literal h
    | .null | .bool _ | .number _ | .array _ | .object _ => cases h
  · rintro ⟨h⟩
    exact h

theorem reads_flag? : Reads flag? WritesFlag := by
  intro json b
  constructor
  · intro h
    match json with
    | .bool _ =>
      cases h
      exact .flag
    | .null | .string _ | .number _ | .array _ | .object _ => cases h
  · rintro ⟨⟩
    rfl

/-- The integers are the numbers without fraction and exponent, but for minus zero. -/
theorem Number.integer?_eq_some_iff (n : Number) (i : Int) :
    n.integer? = some i ↔
      ∃ whole, n = ⟨false, whole, [], none⟩ ∧ (digitsValue whole : Int) = i ∨
        n = ⟨true, whole, [], none⟩ ∧ digitsValue whole ≠ 0 ∧ -(digitsValue whole : Int) = i := by
  obtain ⟨negative, whole, fraction, exponent⟩ := n
  match fraction, exponent with
  | [], none => cases negative <;> simp [integer?]
  | _ :: _, _ => simp [integer?]
  | [], some _ => simp [integer?]

/-- The numbers that are integers from zero are those without sign, fraction and exponent. -/
theorem Number.integer?_eq_ofNat_iff (n : Number) (value : Nat) :
    n.integer? = some (value : Int) ↔
      ∃ whole, n = ⟨false, whole, [], none⟩ ∧ digitsValue whole = value := by
  rw [integer?_eq_some_iff]
  constructor
  · rintro ⟨whole, ⟨rfl, hwhole⟩ | ⟨rfl, hzero, hwhole⟩⟩
    · exact ⟨whole, rfl, Int.ofNat.inj hwhole⟩
    · omega
  · rintro ⟨whole, rfl, rfl⟩
    exact ⟨whole, .inl ⟨rfl, rfl⟩⟩

theorem reads_word32? : Reads word32? WritesWord32 := by
  intro json n
  constructor
  · intro h
    match json with
    | .number m =>
      obtain ⟨i, hi, hword⟩ := Option.bind_eq_some_iff.1 h
      split at hword
      case isTrue hbound =>
        obtain ⟨value, rfl⟩ := Int.eq_ofNat_of_zero_le hbound.1
        obtain ⟨whole, rfl, hwhole⟩ := (Number.integer?_eq_ofNat_iff m value).1 hi
        have hlt : value < UInt32.size := by omega
        have hn : UInt32.ofNat value = n := Option.some.inj hword
        refine .digits ?_
        rw [← hn, UInt32.toNat_ofNat_of_lt' hlt, hwhole]
      case isFalse => cases hword
    | .null | .bool _ | .string _ | .array _ | .object _ => cases h
  · rintro ⟨h⟩
    have hinteger := (Number.integer?_eq_ofNat_iff _ n.toNat).2 ⟨_, rfl, h⟩
    have hlt : (n.toNat : Int) < UInt32.size := Int.ofNat_lt.2 n.toNat_lt
    rw [word32?, hinteger, Option.bind_some, if_pos ⟨by omega, hlt⟩]
    simp

section Combined

variable {read? : Json → Option α} {writes : α → Json → Prop}

theorem Reads.list (h : Reads read? writes) : Reads (list? read?) (WritesList writes) := by
  have hitems (items : List Json) (values : List α) :
      items.mapM read? = some values ↔ List.Forall₂ writes values items := by
    induction items generalizing values with
    | nil => cases values <;> simp
    | cons item items ih =>
      cases values with
      | nil =>
        constructor
        · intro hread
          simp [List.mapM_cons, Option.bind_eq_some_iff] at hread
        · rintro ⟨⟩
      | cons value values =>
        rw [List.forall₂_cons, ← ih, ← h item value]
        simp [List.mapM_cons, Option.bind_eq_some_iff]
  intro json values
  constructor
  · intro hread
    match json with
    | .array items => exact .items ((hitems items values).1 hread)
    | .null | .bool _ | .number _ | .string _ | .object _ => cases hread
  · rintro ⟨hwrites⟩
    exact (hitems _ values).2 hwrites

theorem Reads.required (h : Reads read? writes) : Reads (required? read?) (Required writes) := by
  intro place value
  match place with
  | none =>
    constructor
    · rintro ⟨⟩
    · rintro ⟨⟩
  | some json =>
    constructor
    · intro hread
      exact .written ((h json value).1 hread)
    · rintro ⟨hwrites⟩
      exact (h json value).2 hwrites

theorem Reads.defaulted (h : Reads read? writes) (usual : α) :
    Reads (defaulted? usual read?) (Defaulted usual writes) := by
  intro place value
  match place with
  | none =>
    constructor
    · intro hread
      exact .leftOut (Option.some.inj hread).symm
    · rintro ⟨rfl⟩
      rfl
  | some json =>
    constructor
    · intro hread
      exact .written ((h json value).1 hread)
    · rintro (_ | hwrites)
      exact (h json value).2 hwrites

/-- A field may be `null` for nothing only where `null` is no value of it. -/
theorem Reads.optional (h : Reads read? writes) (hnull : read? .null = none) :
    Reads (optional? read?) (Optional writes) := by
  intro place value
  match place with
  | none =>
    constructor
    · rintro ⟨⟩
      exact .leftOut
    · rintro ⟨⟩
      rfl
  | some json =>
    by_cases hjson : json = .null
    · subst hjson
      constructor
      · rintro ⟨⟩
        exact .null
      · rintro (_ | _ | hw)
        · rfl
        · rw [← h, hnull] at hw
          cases hw
    · have hread : optional? read? (some json) = (read? json).map some := by
        cases json <;> first | rfl | exact absurd rfl hjson
      rw [hread, Option.map_eq_some_iff]
      constructor
      · rintro ⟨inner, hinner, rfl⟩
        exact .written ((h json inner).1 hinner)
      · rintro (_ | _ | hw)
        · exact absurd rfl hjson
        · exact ⟨_, (h json _).2 hw, rfl⟩

end Combined

/-- **A record is read** by reading its places, where it is known how to read these. -/
theorem reads_record {names : List String} {layout : α → Layout}
    {readPlaces? : List (Option Json) → Option α}
    (hnames : ∀ value, (layout value).map (·.1) = names)
    (hplaces : ∀ places value, readPlaces? places = some value ↔ Fit (layout value) places) :
    Reads (fun json => (json.fields? names).bind readPlaces?)
      (fun value json => Record (layout value) json) := by
  intro json value
  show _ ↔ Record (layout value) json
  rw [Option.bind_eq_some_iff, record_iff, hnames]
  exact exists_congr fun places => and_congr_right fun _ => hplaces places value

/-! ### What is written by writing -/

theorem writesText_ofText (s : String) : WritesText s (ofText s) :=
  .literal (Literal.text?_ofString s)

theorem optional_map {writes : α → Json → Prop} {write : α → Json}
    (h : ∀ value, writes value (write value)) (value : Option α) :
    Optional writes value (value.map write) := by
  cases value with
  | none => exact .leftOut
  | some value => exact .written (h value)

theorem optional_orNull {writes : α → Json → Prop} {write : α → Json}
    (h : ∀ value, writes value (write value)) (value : Option α) :
    Optional writes value (some (orNull write value)) := by
  cases value with
  | none => exact .null
  | some value => exact .written (h value)

/-! ### Mistakes -/

/-- Whether a field has to be written, may be left out, or may also be `null`. -/
inductive Presence where
  | required
  | defaulted
  | optional
  deriving DecidableEq, Repr

/-- A field by what can be wrong with it: the documents in `flawed` are no values of it. -/
structure Field where
  name : String
  presence : Presence
  flawed : Json → Prop

/-- **A document has a mistake in a record.** In an object a field that is required is missing, a
field is repeated, or one is `null` that may not be; or else the mistake is within a field, of an
object or of an array. -/
inductive Flawed (fields : List Field) : Json → Prop where
  | missing {members : List (Literal × Json)} {field : Field} (hfield : field ∈ fields)
    (hrequired : field.presence = .required) (hnone : valuesOf field.name members = []) :
    Flawed fields (.object members)
  | repeated {members : List (Literal × Json)} {field : Field} (hfield : field ∈ fields)
    (htwice : 2 ≤ (valuesOf field.name members).length) : Flawed fields (.object members)
  | null {members : List (Literal × Json)} {field : Field} (hfield : field ∈ fields)
    (hvalue : field.presence ≠ .optional) (hnull : .null ∈ valuesOf field.name members) :
    Flawed fields (.object members)
  | member {members : List (Literal × Json)} {field : Field} {value : Json}
    (hfield : field ∈ fields) (hvalue : value ∈ valuesOf field.name members)
    (hflawed : field.flawed value) : Flawed fields (.object members)
  | item {items : List Json} {i : Nat} {field : Field} {value : Json}
    (hfield : fields[i]? = some field) (hvalue : items[i]? = some value)
    (hflawed : field.flawed value) : Flawed fields (.array items)

/-- A document has a mistake in a list of values: one of its items has. -/
def FlawedList (flawed : Json → Prop) (json : Json) : Prop :=
  ∃ items, json = .array items ∧ ∃ item ∈ items, flawed item

/-- What may stand in the place of a field has none of its mistakes. -/
structure Field.Excludes (field : Field) (place : Option Json → Prop) : Prop where
  missing : field.presence = .required → ¬place none
  null : field.presence ≠ .optional → ¬place (some .null)
  within : ∀ value, field.flawed value → ¬place (some value)

/-- What writes a value is not `null` and has no mistake. -/
def Sound (writes : α → Json → Prop) (flawed : Json → Prop) : Prop :=
  ∀ value json, writes value json → json ≠ .null ∧ ¬flawed json

section Exclusion

variable {writes : α → Json → Prop} {flawed : Json → Prop}

theorem Sound.list (h : Sound writes flawed) : Sound (WritesList writes) (FlawedList flawed) := by
  rintro values _ ⟨hitems⟩
  refine ⟨by simp, ?_⟩
  rintro ⟨items, heq, item, hitem, hflawed⟩
  cases heq
  induction hitems with
  | nil => cases hitem
  | cons hvalue _ ih =>
    rcases List.mem_cons.1 hitem with rfl | hrest
    · exact (h _ _ hvalue).2 hflawed
    · exact ih hrest

theorem Sound.required (h : Sound writes flawed) (name : String) (value : α) :
    Field.Excludes ⟨name, .required, flawed⟩ (Required writes value) := by
  refine ⟨?_, ?_, ?_⟩
  · rintro - ⟨⟩
  · rintro - ⟨hwrites⟩
    exact (h value _ hwrites).1 rfl
  · rintro json hflawed ⟨hwrites⟩
    exact (h value json hwrites).2 hflawed

theorem Sound.defaulted (h : Sound writes flawed) (name : String) (usual value : α) :
    Field.Excludes ⟨name, .defaulted, flawed⟩ (Defaulted usual writes value) := by
  refine ⟨?_, ?_, ?_⟩
  · rintro ⟨⟩
  · rintro - (_ | hwrites)
    exact (h value _ hwrites).1 rfl
  · rintro json hflawed (_ | hwrites)
    exact (h value json hwrites).2 hflawed

theorem excludes_optional (name : String) (writes : α → Json → Prop) (value : Option α) :
    Field.Excludes ⟨name, .optional, fun _ => False⟩ (Optional writes value) :=
  ⟨nofun, fun h => absurd rfl h, fun _ h => h.elim⟩

end Exclusion

/-- The fields of a record are those of a list, and what may stand in their places has none of
the mistakes that are named there. -/
def Guarded (fields : List Field) (layout : Layout) : Prop :=
  List.Forall₂ (fun field entry => field.name = entry.1 ∧ field.Excludes entry.2) fields layout

section Guarded

variable {fields : List Field} {layout : Layout}

theorem Guarded.exists_of_mem (h : Guarded fields layout) {field : Field}
    (hfield : field ∈ fields) :
    ∃ entry ∈ layout, field.name = entry.1 ∧ field.Excludes entry.2 := by
  induction h with
  | nil => cases hfield
  | cons hentry _ ih =>
    rcases List.mem_cons.1 hfield with rfl | hrest
    · exact ⟨_, List.mem_cons_self, hentry⟩
    · obtain ⟨entry, hmem, hentry⟩ := ih hrest
      exact ⟨entry, List.mem_cons_of_mem _ hmem, hentry⟩

theorem Guarded.not_flawed_item (h : Guarded fields layout) {items : List Json}
    (hitems : Items layout items) {i : Nat} {field : Field} {value : Json}
    (hfield : fields[i]? = some field) (hvalue : items[i]? = some value) :
    ¬field.flawed value := by
  induction h generalizing items i with
  | nil => cases hfield
  | cons hentry _ ih =>
    rcases hitems with _ | ⟨hplace, hrest⟩ | _
    · cases i with
      | zero =>
        cases hfield
        cases hvalue
        exact fun hflawed => hentry.2.within _ hflawed hplace
      | succ i => exact ih hrest hfield hvalue
    · cases hvalue

/-- **What writes a record has no mistake in it.** -/
theorem Record.not_flawed (hguarded : Guarded fields layout) {json : Json}
    (h : Record layout json) : ¬Flawed fields json := by
  rcases h with @⟨members, -, hfields⟩ | hitems
  · have hplace {field : Field} (hfield : field ∈ fields) : ∃ holds, field.Excludes holds ∧
        ∃ place : Option Json, valuesOf field.name members = place.toList ∧ holds place := by
      obtain ⟨entry, hmem, hname, hexcludes⟩ := hguarded.exists_of_mem hfield
      obtain ⟨place, hvalues, hholds⟩ := hfields entry hmem
      exact ⟨entry.2, hexcludes, place, hname ▸ hvalues, hholds⟩
    rintro (⟨hfield, hrequired, hnone⟩ | ⟨hfield, htwice⟩ | ⟨hfield, hvalue, hnull⟩ |
      ⟨hfield, hvalue, hflawed⟩)
    all_goals obtain ⟨holds, hexcludes, place, hvalues, hholds⟩ := hplace hfield
    · rw [hnone] at hvalues
      cases place with
      | none => exact hexcludes.missing hrequired hholds
      | some value => cases hvalues
    · rw [hvalues] at htwice
      cases place with
      | none => exact absurd htwice (by simp)
      | some value => exact absurd htwice (by simp)
    · rw [hvalues, Option.mem_toList] at hnull
      cases hnull
      exact hexcludes.null hvalue hholds
    · rw [hvalues, Option.mem_toList] at hvalue
      cases hvalue
      exact hexcludes.within _ hflawed hholds
  · rintro (_ | _ | _ | _ | ⟨hfield, hvalue, hflawed⟩)
    exact hguarded.not_flawed_item hitems hfield hvalue hflawed

end Guarded

end Json

end RemountCheck
