import RemountCheck.Platform.ExecOutput
import RemountCheck.Proofs.Readings
import RemountCheck.Proofs.Records

/-!
# What the body of an answer stands for

`RemountCheck.ExecOutput.ofBody` never fails, and so a mistake in it would not be noticed: output
that is lost looks like a command that printed nothing. Here is said, without reading anything, what
each body stands for, and that it is taken for nothing else.

| what stands in the body | what it stands for |
|---|---|
| an object | a process, each field by the last member of its name |
| a string | the text that it writes |
| any other document, or none | the body as it is |

* `RemountCheck.Json.LastWrites` – a field by the last member of its name, and
  `RemountCheck.ProcessResult.readFrom_iff`, that a process is read field by field;
* `RemountCheck.ProcessResult.ofRecord?_lastMembers` – read as a record whose fields may not be
  repeated, an object of which the last member of each name is kept is never refused;
* `RemountCheck.ExecOutput.Classifies` – **what a body stands for**;
* `RemountCheck.ExecOutput.raw_ofBody_of_prints` – a text that is printed comes back as it is.
-/

namespace RemountCheck

namespace Json

/-! ### Integers -/

/-- A document writes an integer of 32 bits with a sign: without a fraction or an exponent. Minus
zero writes none. -/
inductive WritesInt32 (code : Int32) : Json → Prop where
  | natural {whole : List Nat} (h : (digitsValue whole : Int) = code.toInt) :
    WritesInt32 code (.number ⟨false, whole, [], none⟩)
  | negative {whole : List Nat} (hzero : digitsValue whole ≠ 0)
    (h : -(digitsValue whole : Int) = code.toInt) :
    WritesInt32 code (.number ⟨true, whole, [], none⟩)

theorem int32?_number_iff (n : Number) (code : Int32) :
    int32? (.number n) = some code ↔ n.integer? = some code.toInt := by
  rw [int32?, Option.bind_eq_some_iff]
  constructor
  · rintro ⟨i, hi, hcode⟩
    split at hcode
    case isTrue hbound =>
      have hlow : -2 ^ 31 ≤ i := by omega
      have hhigh : i < 2 ^ 31 := by omega
      rw [← Option.some.inj hcode, Int32.toInt_ofInt_of_le hlow hhigh, hi]
    case isFalse => cases hcode
  · intro hi
    have hlow := code.le_toInt
    have hhigh := code.toInt_lt
    refine ⟨code.toInt, hi, ?_⟩
    rw [if_pos ⟨by omega, by omega⟩, Int32.ofInt_toInt]

theorem reads_int32? : Reads int32? WritesInt32 := by
  intro json code
  constructor
  · intro h
    match json with
    | .number n =>
      obtain ⟨whole, ⟨rfl, hwhole⟩ | ⟨rfl, hzero, hwhole⟩⟩ :=
        (n.integer?_eq_some_iff _).1 ((int32?_number_iff n code).1 h)
      · exact .natural hwhole
      · exact .negative hzero hwhole
    | .null | .bool _ | .string _ | .array _ | .object _ => cases h
  · rintro (⟨hwhole⟩ | ⟨hzero, hwhole⟩)
    · exact (int32?_number_iff _ _).2 ((Number.integer?_eq_some_iff _ _).2 ⟨_, .inl ⟨rfl, hwhole⟩⟩)
    · exact (int32?_number_iff _ _).2
        ((Number.integer?_eq_some_iff _ _).2 ⟨_, .inr ⟨rfl, hzero, hwhole⟩⟩)

/-! ### The last member of a name -/

section LastMember

variable {α : Type} {name : String} {members : List (Literal × Json)}

/-- The last member of a name has the last of the values under it. -/
theorem lastMember?_eq_getLast? (name : String) (members : List (Literal × Json)) :
    lastMember? name members = (valuesOf name members).getLast? := by
  induction members with
  | nil => rfl
  | cons member members ih =>
    obtain ⟨literal, value⟩ := member
    rw [lastMember?, ih]
    by_cases h : literal.text? = some name
    · rw [if_pos h, valuesOf_cons_of_eq h, List.getLast?_cons]
      cases (valuesOf name members).getLast? <;> rfl
    · rw [if_neg h, valuesOf_cons_of_ne h]
      cases (valuesOf name members).getLast? <;> rfl

/-- **A field by the last member of its name**: it has a value exactly if that member writes it, and
none where the member writes no value or there is no such member. -/
def LastWrites (writes : α → Json → Prop) (name : String) (members : List (Literal × Json))
    (field : Option α) : Prop :=
  ∀ value, field = some value ↔
    ∃ json, (valuesOf name members).getLast? = some json ∧ writes value json

theorem Reads.last_iff {read? : Json → Option α} {writes : α → Json → Prop}
    (h : Reads read? writes) {field : Option α} :
    LastWrites writes name members field ↔ field = (lastMember? name members).bind read? := by
  rw [Option.ext_iff, lastMember?_eq_getLast?]
  refine forall_congr' fun value => ?_
  simp only [Option.bind_eq_some_iff, h _ value]

/-- **The members that are kept as a value**: of each name the last. -/
def lastMembers : List (Literal × Json) → List (Literal × Json)
  | [] => []
  | member :: members =>
    if members.any fun other => other.1.text? = member.1.text? then lastMembers members
    else member :: lastMembers members

theorem lastMembers_subset (members : List (Literal × Json)) : lastMembers members ⊆ members := by
  induction members with
  | nil => exact List.Subset.refl _
  | cons member members ih =>
    rw [lastMembers]
    split
    · exact List.subset_cons_of_subset _ ih
    · exact List.cons_subset_cons _ ih

/-- **Under each name the last value is left**, and no other. -/
theorem valuesOf_lastMembers (name : String) (members : List (Literal × Json)) :
    valuesOf name (lastMembers members) = (valuesOf name members).getLast?.toList := by
  induction members with
  | nil => rfl
  | cons member members ih =>
    obtain ⟨literal, value⟩ := member
    by_cases h : literal.text? = some name
    · rw [valuesOf_cons_of_eq h, List.getLast?_cons, lastMembers]
      have hlater : (members.any fun other => other.1.text? = literal.text?) = true ↔
          valuesOf name members ≠ [] := by
        rw [ne_eq, valuesOf_eq_nil_iff, h]
        simp
      split
      · rename_i hany
        obtain ⟨last, hlast⟩ := Option.isSome_iff_exists.1 (List.getLast?_isSome.2 (hlater.1 hany))
        rw [ih, hlast]
        rfl
      · rename_i hnot
        have hnone : valuesOf name members = [] := not_not.1 fun h => hnot (hlater.2 h)
        rw [valuesOf_cons_of_eq h, ih, hnone]
        rfl
    · rw [valuesOf_cons_of_ne h, ← ih, lastMembers]
      split
      · rfl
      · exact valuesOf_cons_of_ne h value

/-- A record is read from an object in which no field is repeated. -/
theorem fields?_object_of_values {names : List String} {place : String → Option Json}
    (hreadable : ∀ m ∈ members, ∃ key, m.1.text? = some key)
    (h : ∀ name, valuesOf name members = (place name).toList) :
    fields? names (.object members) = some (names.map place) := by
  obtain ⟨named, hnamed⟩ := (exists_readNames?_iff members).2 hreadable
  rw [fields?, hnamed, Option.bind_some]
  induction names with
  | nil => rfl
  | cons name names ih =>
    rw [memberFields?, placeOf_eq_ofValues name hnamed, h name, ih]
    cases hplace : place name <;> simp [Place.ofValues, hplace]

end LastMember

theorem Kept.exists_text? {left : Nat} {members : List (Literal × Json)}
    (h : Kept left (.object members)) : ∀ m ∈ members, ∃ key, m.1.text? = some key := by
  cases h with
  | object names _ => exact fun m hm => Option.isSome_iff_exists.1 (names m hm)

theorem Kept.exists_text?_string {left : Nat} {literal : Literal}
    (h : Kept left (.string literal)) : ∃ s, literal.text? = some s := by
  cases h with
  | string h => exact Option.isSome_iff_exists.1 h

/-- A text can be kept, however many arrays and objects are open. -/
theorem kept_ofText {left : Nat} (s : String) : (ofText s).Kept left := .string (by simp)

/-- **A document stands in its own print**, if it is made of texts and natural numbers and can be
kept. -/
theorem Plain.standsIn_render {json : Json} (h : json.Plain) (hkept : json.Kept nestingLimit) :
    json.StandsIn json.render := by
  refine ⟨?_, hkept⟩
  rw [render, String.toList_ofList]
  exact h.spelledBy_renderChars

/-- **A document prints a text**: it is a string that writes the text, or an object in which the one
member named `logs` does. The other members are of no account. -/
inductive Prints (s : String) : Json → Prop where
  | string {json : Json} (h : WritesText s json) : Prints s json
  | object {before after : List (Literal × Json)} {name : Literal} {value : Json}
    (hname : name.text? = some "logs") (hvalue : WritesText s value)
    (hothers : ∀ m ∈ before ++ after, m.1.text? ≠ some "logs") :
    Prints s (.object (before ++ (name, value) :: after))

end Json

open Json

namespace ProcessResult

variable {members : List (Literal × Json)} {result : ProcessResult}

/-- **A process as the members of an object have it**, each field by itself. -/
structure ReadFrom (members : List (Literal × Json)) (result : ProcessResult) : Prop where
  logs : LastWrites WritesText "logs" members result.logs
  exitCode : LastWrites WritesInt32 "exitCode" members result.exitCode
  status : LastWrites WritesText "status" members result.status

/-- **The members of an object are read** as they have it, and in no other way. -/
theorem readFrom_iff : result.ReadFrom members ↔ result = .ofMembers members := by
  constructor
  · rintro ⟨hlogs, hcode, hstatus⟩
    rw [reads_text?.last_iff] at hlogs hstatus
    rw [reads_int32?.last_iff] at hcode
    cases result
    simp only [ofMembers] at *
    rw [hlogs, hcode, hstatus]
  · rintro rfl
    exact ⟨reads_text?.last_iff.2 rfl, reads_int32?.last_iff.2 rfl, reads_text?.last_iff.2 rfl⟩

/-- A process from a record, which is refused where a field of it is repeated. In a field itself
nothing is a mistake: what is of an unexpected type is absent. -/
def ofRecord? (json : Json) : Option ProcessResult :=
  (json.fields? ["logs", "exitCode", "status"]).bind fun
    | [logs, exitCode, status] =>
      some
        { logs := logs.bind text?, exitCode := exitCode.bind int32?, status := status.bind text? }
    | _ => none

/-- **No object that is kept is refused**, and the record says what its members say. -/
theorem ofRecord?_lastMembers (h : ∀ m ∈ members, ∃ key, m.1.text? = some key) :
    ofRecord? (.object (lastMembers members)) = some (.ofMembers members) := by
  have hreadable : ∀ m ∈ lastMembers members, ∃ key, m.1.text? = some key :=
    fun m hm => h m (lastMembers_subset members hm)
  have hvalues (name : String) :
      valuesOf name (lastMembers members) = (lastMember? name members).toList := by
    rw [valuesOf_lastMembers, lastMember?_eq_getLast?]
  rw [ofRecord?, fields?_object_of_values hreadable hvalues]
  rfl

end ProcessResult

namespace ExecOutput

variable {body s : String} {output : ExecOutput}

/-- **What a body stands for.** -/
inductive Classifies (body : String) : ExecOutput → Prop where
  | structured {members : List (Literal × Json)} {result : ProcessResult}
    (h : (Json.object members).StandsIn body) (hresult : result.ReadFrom members) :
    Classifies body (.structured result)
  | text {literal : Literal} {s : String} (h : (Json.string literal).StandsIn body)
    (hs : literal.text? = some s) : Classifies body (.text s)
  | verbatim (hobject : ∀ members, ¬(Json.object members).StandsIn body)
    (hstring : ∀ literal, ¬(Json.string literal).StandsIn body) : Classifies body (.text body)

/-! ### One lemma for each kind of body -/

theorem ofBody_of_object {members : List (Literal × Json)}
    (h : (Json.object members).StandsIn body) : ofBody body = .structured (.ofMembers members) := by
  rw [ofBody, parseReadable?_iff.2 h]

theorem ofBody_of_string {literal : Literal} (h : (Json.string literal).StandsIn body)
    (hs : literal.text? = some s) : ofBody body = .text s := by
  simp only [ofBody, parseReadable?_iff.2 h, hs, Option.getD_some]

theorem ofBody_of_neither (hobject : ∀ members, ¬(Json.object members).StandsIn body)
    (hstring : ∀ literal, ¬(Json.string literal).StandsIn body) : ofBody body = .text body := by
  unfold ofBody
  split
  · rename_i members hread
    exact absurd (parseReadable?_iff.1 hread) (hobject members)
  · rename_i literal hread
    exact absurd (parseReadable?_iff.1 hread) (hstring literal)
  · rfl

/-- Every body stands for something. -/
theorem exists_classifies (body : String) : ∃ output, Classifies body output := by
  by_cases hobject : ∃ members, (Json.object members).StandsIn body
  · obtain ⟨members, h⟩ := hobject
    exact ⟨_, .structured h (ProcessResult.readFrom_iff.2 rfl)⟩
  by_cases hstring : ∃ literal, (Json.string literal).StandsIn body
  · obtain ⟨literal, h⟩ := hstring
    obtain ⟨s, hs⟩ := h.2.exists_text?_string
    exact ⟨_, .text h hs⟩
  · exact ⟨_, .verbatim (not_exists.1 hobject) (not_exists.1 hstring)⟩

theorem Classifies.ofBody_eq (h : Classifies body output) : ofBody body = output := by
  cases h with
  | structured h hresult => rw [ofBody_of_object h, ProcessResult.readFrom_iff.1 hresult]
  | text h hs => exact ofBody_of_string h hs
  | verbatim hobject hstring => exact ofBody_of_neither hobject hstring

/-- **A body is taken for what it stands for**, and for nothing else. -/
theorem classifies_iff : Classifies body output ↔ ofBody body = output := by
  refine ⟨Classifies.ofBody_eq, ?_⟩
  rintro rfl
  obtain ⟨output, h⟩ := exists_classifies body
  rwa [h.ofBody_eq]

/-! ### What was printed -/

/-- **A text that is printed comes back as it is**, whatever else the body holds. -/
theorem raw_ofBody_of_prints {json : Json} (h : json.StandsIn body) (hprints : json.Prints s) :
    (ofBody body).raw = s := by
  rcases hprints with ⟨⟨hs⟩⟩ | ⟨hname, hvalue, hothers⟩
  · rw [ofBody_of_string h hs, raw]
  · rename_i before after name value
    have hbefore : valuesOf "logs" before = [] :=
      valuesOf_eq_nil_iff.2 fun m hm => hothers m (List.mem_append_left _ hm)
    have hafter : valuesOf "logs" after = [] :=
      valuesOf_eq_nil_iff.2 fun m hm => hothers m (List.mem_append_right _ hm)
    have hlast : lastMember? "logs" (before ++ (name, value) :: after) = some value := by
      rw [lastMember?_eq_getLast?, valuesOf_append, valuesOf_cons_of_eq hname, hbefore, hafter]
      rfl
    rw [ofBody_of_object h, raw, ProcessResult.ofMembers, hlast, Option.bind_some,
      (reads_text? value s).2 hvalue, Option.getD_some]

/-- **A body is taken exactly for what it stands for, and no field is lost.** A body in which an
object stands is never refused as a record, and so nothing is ever put in the place of what it says;
and a text that a string or the one member `logs` of an object writes comes back as it is. -/
theorem ofBody_exact_and_lossless :
    (∀ body output, Classifies body output ↔ ofBody body = output) ∧
    (∀ body members, (Json.object members).StandsIn body →
      ∃ result, ProcessResult.ofRecord? (.object (lastMembers members)) = some result ∧
        ofBody body = .structured result) ∧
    (∀ body s (json : Json), json.StandsIn body → json.Prints s → (ofBody body).raw = s) ∧
    ∀ s, (ofBody (ofText s).render).raw = s := by
  refine ⟨fun body output => classifies_iff, fun body members h => ?_,
    fun body s json h hprints => raw_ofBody_of_prints h hprints, fun s => ?_⟩
  · exact ⟨_, ProcessResult.ofRecord?_lastMembers h.2.exists_text?, ofBody_of_object h⟩
  · have hstands : (ofText s).StandsIn (ofText s).render :=
      (Plain.text s).standsIn_render (kept_ofText s)
    exact raw_ofBody_of_prints hstands (.string (writesText_ofText s))

/-- Of two members of one name the last counts, and a code that is written as a text leaves the
other fields alone. -/
theorem ofBody_exact_and_lossless_beside_a_malformed_code :
    let before := member "exitCode" (ofText "0") ++ member "status" (ofText "running")
    let after := member "status" (ofText "done")
    let json := Json.object (before ++ (Literal.ofString "logs", ofText "a") :: after)
    let result : ProcessResult := { logs := some "a", exitCode := none, status := some "done" }
    json.StandsIn json.render ∧ json.Prints "a" ∧
      ofBody json.render = .structured result ∧ (ofBody json.render).raw = "a" := by
  intro before after json result
  have hplain : json.Plain :=
    (((plainMembers_member "exitCode" (.text "0")).append
      (plainMembers_member "status" (.text "running"))).append
        ((plainMembers_member "logs" (.text "a")).append
          (plainMembers_member "status" (.text "done")))).object
  have hkept : json.Kept nestingLimit :=
    .object (by simp [before, after, member]) (by simp [before, after, member, kept_ofText])
  have hstands : json.StandsIn json.render := hplain.standsIn_render hkept
  have hprints : json.Prints "a" :=
    .object (Literal.text?_ofString _) (writesText_ofText "a") (by simp [before, after, member])
  obtain ⟨hexact, -, hraw, -⟩ := ofBody_exact_and_lossless
  have hclass : Classifies json.render (.structured result) :=
    .structured hstands (ProcessResult.readFrom_iff.2 (by decide +kernel))
  exact ⟨hstands, hprints, (hexact _ _).1 hclass, hraw _ _ _ hstands hprints⟩

end ExecOutput

end RemountCheck
