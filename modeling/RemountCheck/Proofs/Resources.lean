import RemountCheck.Platform.Call
import RemountCheck.Proofs.Documents
import RemountCheck.Proofs.Records

/-!
# How volumes and sandboxes are written

Each of the records that volumes and sandboxes are made of has its fields, and so the documents
that write it and the mistakes that one can have in it. The reader of a record reads exactly what
is written, and one of the documents that write a record is its own.

| record | fields |
|---|---|
| `Metadata` | `name`, which is required; `displayName`, which is optional |
| `VolumeSpec` | `size`, `region` and `attachedTo`, which are optional |
| `Volume` | `metadata`, required; `spec`, usually empty; `status`, optional |
| `Binding` | `name` and `mountPath`, required; `readOnly`, usually false |
| `Runtime` | `image`, usually empty; `memory`, optional |
| `SandboxSpec` | `region`, optional; `runtime` and `volumes`, usually empty |
| `Sandbox` | `metadata`, required; `spec`, usually empty; `status`, optional |

* `RemountCheck.resources_read_back` – **what is written is read back**;
* `RemountCheck.reading_ignores_spelling` – **a record is read from every text that writes it**,
  and from none that has a mistake in it.
-/

namespace RemountCheck

open Json

/-! ### Values and their mistakes -/

namespace Json

theorem writesWord32_ofWord32 (n : UInt32) : WritesWord32 n (ofWord32 n) :=
  .digits (Number.digitsOf_spec n.toNat).2.1

theorem plain_ofWord32 (n : UInt32) : (ofWord32 n).Plain := .natural n.toNat

theorem sound_writesText : Sound WritesText fun _ => False := by
  rintro s _ ⟨-⟩
  exact ⟨nofun, id⟩

theorem sound_writesFlag : Sound WritesFlag fun _ => False := by
  rintro b _ ⟨⟩
  exact ⟨nofun, id⟩

/-- What writes a record is not `null`, and has no mistake in the record. -/
theorem sound_record {α : Type} {fields : List Field} {layout : α → Layout}
    (h : ∀ value, Guarded fields (layout value)) :
    Sound (fun value json => Record (layout value) json) (Flawed fields) := by
  intro value json hrecord
  refine ⟨?_, hrecord.not_flawed (h value)⟩
  rintro rfl
  cases hrecord

end Json

/-! ### Metadata -/

namespace Metadata

/-- The fields of metadata, and what is written in them. -/
def layout (m : Metadata) : Layout :=
  [("name", Required WritesText m.name), ("displayName", Optional WritesText m.displayName)]

/-- **A document writes metadata.** -/
def WrittenBy (m : Metadata) (json : Json) : Prop := Record m.layout json

/-- **A document has a mistake in metadata.** -/
def Flawed : Json → Prop :=
  Json.Flawed [⟨"name", .required, fun _ => False⟩, ⟨"displayName", .optional, fun _ => False⟩]

theorem reads_ofJson? : Reads ofJson? WrittenBy := by
  refine reads_record (fun _ => rfl) ?_
  rintro places ⟨name, displayName⟩
  match places with
  | [p, q] =>
    simp [Option.bind_eq_some_iff, Fit, layout, reads_text?.required p name,
      reads_text?.optional rfl q displayName]
  | [] | [_] | _ :: _ :: _ :: _ => simp [Fit, layout]

theorem plain_toJson (m : Metadata) : m.toJson.Plain :=
  ((plainMembers_member _ (.text _)).append (plainMembers_memberIfAny _ .text _)).object

theorem writtenBy_toJson (m : Metadata) : m.WrittenBy m.toJson := by
  refine .object m.plain_toJson.exists_text? ?_
  simp only [layout, List.forall_mem_cons]
  refine ⟨⟨some (ofText m.name), by simp, ?_⟩, ⟨m.displayName.map ofText, by simp, ?_⟩, nofun⟩
  · exact .written (writesText_ofText _)
  · exact optional_map writesText_ofText _

theorem sound : Sound WrittenBy Flawed :=
  sound_record fun _ => .cons ⟨rfl, sound_writesText.required _ _⟩
    (.cons ⟨rfl, excludes_optional _ _ _⟩ .nil)

end Metadata

/-! ### Volumes -/

namespace VolumeSpec

/-- The fields of a specification, and what is written in them. -/
def layout (s : VolumeSpec) : Layout :=
  [("size", Optional WritesWord32 s.size), ("region", Optional WritesText s.region),
    ("attachedTo", Optional WritesText s.attachedTo)]

/-- **A document writes a specification.** -/
def WrittenBy (s : VolumeSpec) (json : Json) : Prop := Record s.layout json

/-- **A document has a mistake in a specification.** -/
def Flawed : Json → Prop :=
  Json.Flawed [⟨"size", .optional, fun _ => False⟩, ⟨"region", .optional, fun _ => False⟩,
    ⟨"attachedTo", .optional, fun _ => False⟩]

theorem reads_ofJson? : Reads ofJson? WrittenBy := by
  refine reads_record (fun _ => rfl) ?_
  rintro places ⟨size, region, attachedTo⟩
  match places with
  | [p, q, r] =>
    simp [Option.bind_eq_some_iff, Fit, layout, reads_word32?.optional rfl p size,
      reads_text?.optional rfl q region, reads_text?.optional rfl r attachedTo]
  | [] | [_] | [_, _] | _ :: _ :: _ :: _ :: _ => simp [Fit, layout]

theorem plain_toJson (s : VolumeSpec) : s.toJson.Plain :=
  (((plainMembers_memberIfAny _ plain_ofWord32 _).append
    (plainMembers_memberIfAny _ .text _)).append (plainMembers_memberIfAny _ .text _)).object

theorem writtenBy_toJson (s : VolumeSpec) : s.WrittenBy s.toJson := by
  refine .object s.plain_toJson.exists_text? ?_
  simp only [layout, List.forall_mem_cons]
  refine ⟨⟨s.size.map ofWord32, by simp, ?_⟩, ⟨s.region.map ofText, by simp, ?_⟩,
    ⟨s.attachedTo.map ofText, by simp, ?_⟩, nofun⟩
  · exact optional_map writesWord32_ofWord32 _
  · exact optional_map writesText_ofText _
  · exact optional_map writesText_ofText _

theorem sound : Sound WrittenBy Flawed :=
  sound_record fun _ => .cons ⟨rfl, excludes_optional _ _ _⟩
    (.cons ⟨rfl, excludes_optional _ _ _⟩ (.cons ⟨rfl, excludes_optional _ _ _⟩ .nil))

end VolumeSpec

namespace Volume

/-- The fields of a volume, and what is written in them. -/
def layout (v : Volume) : Layout :=
  [("metadata", Required Metadata.WrittenBy v.metadata),
    ("spec", Defaulted {} VolumeSpec.WrittenBy v.spec), ("status", Optional WritesText v.status)]

/-- **A document writes a volume.** -/
def WrittenBy (v : Volume) (json : Json) : Prop := Record v.layout json

/-- **A document has a mistake in a volume.** -/
def Flawed : Json → Prop :=
  Json.Flawed [⟨"metadata", .required, Metadata.Flawed⟩, ⟨"spec", .defaulted, VolumeSpec.Flawed⟩,
    ⟨"status", .optional, fun _ => False⟩]

theorem reads_ofJson? : Reads ofJson? WrittenBy := by
  refine reads_record (fun _ => rfl) ?_
  rintro places ⟨metadata, spec, status⟩
  match places with
  | [p, q, r] =>
    simp [Option.bind_eq_some_iff, Fit, layout, Metadata.reads_ofJson?.required p metadata,
      VolumeSpec.reads_ofJson?.defaulted {} q spec, reads_text?.optional rfl r status]
  | [] | [_] | [_, _] | _ :: _ :: _ :: _ :: _ => simp [Fit, layout]

theorem plain_toJson (v : Volume) : v.toJson.Plain :=
  (((plainMembers_member _ v.metadata.plain_toJson).append
    (plainMembers_member _ v.spec.plain_toJson)).append
      (plainMembers_member _ (plain_orNull .text _))).object

theorem writtenBy_toJson (v : Volume) : v.WrittenBy v.toJson := by
  refine .object v.plain_toJson.exists_text? ?_
  simp only [layout, List.forall_mem_cons]
  refine ⟨⟨some v.metadata.toJson, by simp, ?_⟩, ⟨some v.spec.toJson, by simp, ?_⟩,
    ⟨some (orNull ofText v.status), by simp, ?_⟩, nofun⟩
  · exact .written v.metadata.writtenBy_toJson
  · exact .written v.spec.writtenBy_toJson
  · exact optional_orNull writesText_ofText _

theorem sound : Sound WrittenBy Flawed :=
  sound_record fun _ => .cons ⟨rfl, Metadata.sound.required _ _⟩
    (.cons ⟨rfl, VolumeSpec.sound.defaulted _ _ _⟩ (.cons ⟨rfl, excludes_optional _ _ _⟩ .nil))

end Volume

namespace VolumeRequest

theorem plain_toJson (r : VolumeRequest) : r.toJson.Plain :=
  ((plainMembers_member _ r.metadata.plain_toJson).append
    (plainMembers_member _ r.spec.plain_toJson)).object

/-- A request writes the volume that is asked for, without a status. -/
theorem writtenBy_toJson (r : VolumeRequest) :
    Volume.WrittenBy ⟨r.metadata, r.spec, none⟩ r.toJson := by
  refine .object r.plain_toJson.exists_text? ?_
  simp only [Volume.layout, List.forall_mem_cons]
  refine ⟨⟨some r.metadata.toJson, by simp, ?_⟩, ⟨some r.spec.toJson, by simp, ?_⟩,
    ⟨none, by simp, .leftOut⟩, nofun⟩
  · exact .written r.metadata.writtenBy_toJson
  · exact .written r.spec.writtenBy_toJson

end VolumeRequest

/-! ### Sandboxes -/

namespace Binding

/-- The fields of a binding, and what is written in them. -/
def layout (b : Binding) : Layout :=
  [("name", Required WritesText b.volume), ("mountPath", Required WritesText b.mountPath),
    ("readOnly", Defaulted false WritesFlag b.readOnly)]

/-- **A document writes a binding.** -/
def WrittenBy (b : Binding) (json : Json) : Prop := Record b.layout json

/-- **A document has a mistake in a binding.** -/
def Flawed : Json → Prop :=
  Json.Flawed [⟨"name", .required, fun _ => False⟩, ⟨"mountPath", .required, fun _ => False⟩,
    ⟨"readOnly", .defaulted, fun _ => False⟩]

theorem reads_ofJson? : Reads ofJson? WrittenBy := by
  refine reads_record (fun _ => rfl) ?_
  rintro places ⟨volume, mountPath, readOnly⟩
  match places with
  | [p, q, r] =>
    simp [-Bool.exists_bool, Option.bind_eq_some_iff, Fit, layout,
      reads_text?.required p volume, reads_text?.required q mountPath,
      reads_flag?.defaulted false r readOnly]
  | [] | [_] | [_, _] | _ :: _ :: _ :: _ :: _ => simp [Fit, layout]

theorem plain_toJson (b : Binding) : b.toJson.Plain :=
  (((plainMembers_member _ (.text _)).append (plainMembers_member _ (.text _))).append
    (plainMembers_member _ (.bool _))).object

theorem writtenBy_toJson (b : Binding) : b.WrittenBy b.toJson := by
  refine .object b.plain_toJson.exists_text? ?_
  simp only [layout, List.forall_mem_cons]
  refine ⟨⟨some (ofText b.volume), by simp, ?_⟩, ⟨some (ofText b.mountPath), by simp, ?_⟩,
    ⟨some (.bool b.readOnly), by simp, .written .flag⟩, nofun⟩
  · exact .written (writesText_ofText _)
  · exact .written (writesText_ofText _)

theorem sound : Sound WrittenBy Flawed :=
  sound_record fun _ => .cons ⟨rfl, sound_writesText.required _ _⟩
    (.cons ⟨rfl, sound_writesText.required _ _⟩
      (.cons ⟨rfl, sound_writesFlag.defaulted _ _ _⟩ .nil))

end Binding

namespace Runtime

/-- The fields of a runtime, and what is written in them. -/
def layout (r : Runtime) : Layout :=
  [("image", Defaulted "" WritesText r.image), ("memory", Optional WritesWord32 r.memory)]

/-- **A document writes a runtime.** -/
def WrittenBy (r : Runtime) (json : Json) : Prop := Record r.layout json

/-- **A document has a mistake in a runtime.** -/
def Flawed : Json → Prop :=
  Json.Flawed [⟨"image", .defaulted, fun _ => False⟩, ⟨"memory", .optional, fun _ => False⟩]

theorem reads_ofJson? : Reads ofJson? WrittenBy := by
  refine reads_record (fun _ => rfl) ?_
  rintro places ⟨image, memory⟩
  match places with
  | [p, q] =>
    simp [Option.bind_eq_some_iff, Fit, layout, reads_text?.defaulted "" p image,
      reads_word32?.optional rfl q memory]
  | [] | [_] | _ :: _ :: _ :: _ => simp [Fit, layout]

theorem plain_toJson (r : Runtime) : r.toJson.Plain :=
  ((plainMembers_member _ (.text _)).append (plainMembers_memberIfAny _ plain_ofWord32 _)).object

theorem writtenBy_toJson (r : Runtime) : r.WrittenBy r.toJson := by
  refine .object r.plain_toJson.exists_text? ?_
  simp only [layout, List.forall_mem_cons]
  refine ⟨⟨some (ofText r.image), by simp, ?_⟩, ⟨r.memory.map ofWord32, by simp, ?_⟩, nofun⟩
  · exact .written (writesText_ofText _)
  · exact optional_map writesWord32_ofWord32 _

theorem sound : Sound WrittenBy Flawed :=
  sound_record fun _ => .cons ⟨rfl, sound_writesText.defaulted _ _ _⟩
    (.cons ⟨rfl, excludes_optional _ _ _⟩ .nil)

end Runtime

namespace SandboxSpec

/-- The fields of a specification, and what is written in them. -/
def layout (s : SandboxSpec) : Layout :=
  [("region", Optional WritesText s.region), ("runtime", Defaulted {} Runtime.WrittenBy s.runtime),
    ("volumes", Defaulted [] (WritesList Binding.WrittenBy) s.volumes)]

/-- **A document writes a specification.** -/
def WrittenBy (s : SandboxSpec) (json : Json) : Prop := Record s.layout json

/-- **A document has a mistake in a specification.** -/
def Flawed : Json → Prop :=
  Json.Flawed [⟨"region", .optional, fun _ => False⟩, ⟨"runtime", .defaulted, Runtime.Flawed⟩,
    ⟨"volumes", .defaulted, FlawedList Binding.Flawed⟩]

theorem reads_ofJson? : Reads ofJson? WrittenBy := by
  refine reads_record (fun _ => rfl) ?_
  rintro places ⟨region, runtime, volumes⟩
  match places with
  | [p, q, r] =>
    simp [Option.bind_eq_some_iff, Fit, layout, reads_text?.optional rfl p region,
      Runtime.reads_ofJson?.defaulted {} q runtime,
      Binding.reads_ofJson?.list.defaulted [] r volumes]
  | [] | [_] | [_, _] | _ :: _ :: _ :: _ :: _ => simp [Fit, layout]

theorem plain_toJson (s : SandboxSpec) : s.toJson.Plain := by
  have hitems : ∀ item ∈ s.volumes.map Binding.toJson, item.Plain := by
    intro item hitem
    obtain ⟨b, -, rfl⟩ := List.mem_map.1 hitem
    exact b.plain_toJson
  have hvolumes : PlainMembers (if s.volumes.isEmpty then [] else
      member "volumes" (.array (s.volumes.map Binding.toJson))) := by
    split
    · exact fun m hm => nomatch hm
    · exact plainMembers_member _ (.array hitems)
  exact (((plainMembers_memberIfAny _ .text _).append
    (plainMembers_member _ s.runtime.plain_toJson)).append hvolumes).object

/-- The bindings are left out where there are none. -/
theorem writtenBy_toJson (s : SandboxSpec) : s.WrittenBy s.toJson := by
  refine .object s.plain_toJson.exists_text? ?_
  have hruntime : Defaulted {} Runtime.WrittenBy s.runtime (some s.runtime.toJson) :=
    .written s.runtime.writtenBy_toJson
  have hregion : Optional WritesText s.region (s.region.map ofText) :=
    optional_map writesText_ofText _
  simp only [layout, List.forall_mem_cons]
  refine ⟨⟨_, by cases s.volumes <;> simp, hregion⟩, ⟨_, by cases s.volumes <;> simp, hruntime⟩,
    ?_, nofun⟩
  cases hvolumes : s.volumes with
  | nil => exact ⟨none, by simp, .leftOut rfl⟩
  | cons b rest =>
    refine ⟨some (.array ((b :: rest).map Binding.toJson)), by simp, .written (.items ?_)⟩
    rw [List.forall₂_map_right_iff, List.forall₂_same]
    exact fun b _ => b.writtenBy_toJson

theorem sound : Sound WrittenBy Flawed :=
  sound_record fun _ => .cons ⟨rfl, excludes_optional _ _ _⟩
    (.cons ⟨rfl, Runtime.sound.defaulted _ _ _⟩
      (.cons ⟨rfl, Binding.sound.list.defaulted _ _ _⟩ .nil))

end SandboxSpec

namespace Sandbox

/-- The fields of a sandbox, and what is written in them. -/
def layout (s : Sandbox) : Layout :=
  [("metadata", Required Metadata.WrittenBy s.metadata),
    ("spec", Defaulted {} SandboxSpec.WrittenBy s.spec), ("status", Optional WritesText s.status)]

/-- **A document writes a sandbox.** -/
def WrittenBy (s : Sandbox) (json : Json) : Prop := Record s.layout json

/-- **A document has a mistake in a sandbox.** -/
def Flawed : Json → Prop :=
  Json.Flawed [⟨"metadata", .required, Metadata.Flawed⟩, ⟨"spec", .defaulted, SandboxSpec.Flawed⟩,
    ⟨"status", .optional, fun _ => False⟩]

theorem reads_ofJson? : Reads ofJson? WrittenBy := by
  refine reads_record (fun _ => rfl) ?_
  rintro places ⟨metadata, spec, status⟩
  match places with
  | [p, q, r] =>
    simp [Option.bind_eq_some_iff, Fit, layout, Metadata.reads_ofJson?.required p metadata,
      SandboxSpec.reads_ofJson?.defaulted {} q spec, reads_text?.optional rfl r status]
  | [] | [_] | [_, _] | _ :: _ :: _ :: _ :: _ => simp [Fit, layout]

theorem plain_toJson (s : Sandbox) : s.toJson.Plain :=
  (((plainMembers_member _ s.metadata.plain_toJson).append
    (plainMembers_member _ s.spec.plain_toJson)).append
      (plainMembers_member _ (plain_orNull .text _))).object

theorem writtenBy_toJson (s : Sandbox) : s.WrittenBy s.toJson := by
  refine .object s.plain_toJson.exists_text? ?_
  simp only [layout, List.forall_mem_cons]
  refine ⟨⟨some s.metadata.toJson, by simp, ?_⟩, ⟨some s.spec.toJson, by simp, ?_⟩,
    ⟨some (orNull ofText s.status), by simp, ?_⟩, nofun⟩
  · exact .written s.metadata.writtenBy_toJson
  · exact .written s.spec.writtenBy_toJson
  · exact optional_orNull writesText_ofText _

theorem sound : Sound WrittenBy Flawed :=
  sound_record fun _ => .cons ⟨rfl, Metadata.sound.required _ _⟩
    (.cons ⟨rfl, SandboxSpec.sound.defaulted _ _ _⟩ (.cons ⟨rfl, excludes_optional _ _ _⟩ .nil))

end Sandbox

namespace SandboxRequest

theorem plain_toJson (r : SandboxRequest) : r.toJson.Plain :=
  ((plainMembers_member _ r.metadata.plain_toJson).append
    (plainMembers_member _ r.spec.plain_toJson)).object

/-- A request writes the sandbox that is asked for, without a status. -/
theorem writtenBy_toJson (r : SandboxRequest) :
    Sandbox.WrittenBy ⟨r.metadata, r.spec, none⟩ r.toJson := by
  refine .object r.plain_toJson.exists_text? ?_
  simp only [Sandbox.layout, List.forall_mem_cons]
  refine ⟨⟨some r.metadata.toJson, by simp, ?_⟩, ⟨some r.spec.toJson, by simp, ?_⟩,
    ⟨none, by simp, .leftOut⟩, nofun⟩
  · exact .written r.metadata.writtenBy_toJson
  · exact .written r.spec.writtenBy_toJson

end SandboxRequest

/-! ### Reading texts -/

namespace Json

variable {α : Type} {read? : Json → Option α} {writes : α → Json → Prop}

/-- What is read from a text is what the document that it spells writes. -/
theorem Reads.bind_parse?_iff (h : Reads read? writes) {json : Json} {text : String}
    (hspelled : json.SpelledBy text.toList) (value : α) :
    (parse? text).bind read? = some value ↔ writes value json := by
  rw [parse?_of_spelledBy hspelled, Option.bind_some]
  exact h json value

/-- No value is read from a text that spells a document with a mistake. -/
theorem Reads.bind_parse?_eq_none (h : Reads read? writes) {flawed : Json → Prop}
    (hsound : Sound writes flawed) {json : Json} {text : String}
    (hspelled : json.SpelledBy text.toList) (hflawed : flawed json) :
    (parse? text).bind read? = none := by
  rw [Option.eq_none_iff_forall_ne_some]
  intro value hvalue
  rw [h.bind_parse?_iff hspelled] at hvalue
  exact (hsound value json hvalue).2 hflawed

/-- What a plain document writes is read from its print. -/
theorem Reads.bind_parse?_render (h : Reads read? writes) {json : Json} (hplain : json.Plain)
    {value : α} (hwrites : writes value json) : (parse? json.render).bind read? = some value := by
  rw [hplain.parse?_render, Option.bind_some]
  exact (h json value).2 hwrites

end Json

theorem Volume.parse?_render (v : Volume) :
    (parse? v.toJson.render).bind Volume.ofJson? = some v :=
  reads_ofJson?.bind_parse?_render v.plain_toJson v.writtenBy_toJson

theorem Sandbox.parse?_render (s : Sandbox) :
    (parse? s.toJson.render).bind Sandbox.ofJson? = some s :=
  reads_ofJson?.bind_parse?_render s.plain_toJson s.writtenBy_toJson

theorem VolumeRequest.parse?_render (r : VolumeRequest) :
    (parse? r.toJson.render).bind Volume.ofJson? = some ⟨r.metadata, r.spec, none⟩ :=
  Volume.reads_ofJson?.bind_parse?_render r.plain_toJson r.writtenBy_toJson

theorem SandboxRequest.parse?_render (r : SandboxRequest) :
    (parse? r.toJson.render).bind Sandbox.ofJson? = some ⟨r.metadata, r.spec, none⟩ :=
  Sandbox.reads_ofJson?.bind_parse?_render r.plain_toJson r.writtenBy_toJson

/-- A document is an object with the fields of a request for a command, and no others. -/
def ExecRequest.WrittenBy (r : ExecRequest) (json : Json) : Prop :=
  ∃ members command wait, json = .object members ∧
    readNames? members = some [("command", command), ("waitForCompletion", wait)] ∧
    text? command = some r.command ∧ flag? wait = some r.waitForCompletion

theorem ExecRequest.plain_toJson (r : ExecRequest) : r.toJson.Plain :=
  ((plainMembers_member _ (.text _)).append (plainMembers_member _ (.bool _))).object

theorem ExecRequest.writtenBy_toJson (r : ExecRequest) : r.WrittenBy r.toJson := by
  refine ⟨_, ofText r.command, .bool r.waitForCompletion, rfl, ?_⟩
  simp [member, readNames?, ofText, text?, flag?]

/-- **What is written is read back**: volumes and sandboxes as they are, and a request for one as
the volume or sandbox without a status. A request for a command is an object with the two members
that it consists of. So writing what was read from any text, and reading it again, changes
nothing. -/
theorem resources_read_back :
    (∀ v : Volume, (parse? v.toJson.render).bind Volume.ofJson? = some v) ∧
    (∀ s : Sandbox, (parse? s.toJson.render).bind Sandbox.ofJson? = some s) ∧
    (∀ r : VolumeRequest,
      (parse? r.toJson.render).bind Volume.ofJson? = some ⟨r.metadata, r.spec, none⟩) ∧
    (∀ r : SandboxRequest,
      (parse? r.toJson.render).bind Sandbox.ofJson? = some ⟨r.metadata, r.spec, none⟩) ∧
    (∀ r : ExecRequest, ∃ json, parse? r.toJson.render = some json ∧ r.WrittenBy json) ∧
    (∀ text, (((parse? text).bind Volume.ofJson?).bind fun v =>
      (parse? v.toJson.render).bind Volume.ofJson?) = (parse? text).bind Volume.ofJson?) ∧
    (∀ text, (((parse? text).bind Sandbox.ofJson?).bind fun s =>
      (parse? s.toJson.render).bind Sandbox.ofJson?) = (parse? text).bind Sandbox.ofJson?) := by
  refine ⟨Volume.parse?_render, Sandbox.parse?_render, VolumeRequest.parse?_render,
    SandboxRequest.parse?_render,
    fun r => ⟨r.toJson, r.plain_toJson.parse?_render, r.writtenBy_toJson⟩, fun text => ?_,
    fun text => ?_⟩
  · simp only [Volume.parse?_render, Option.bind_fun_some]
  · simp only [Sandbox.parse?_render, Option.bind_fun_some]

/-- **A record is read from every text that writes it**, whatever the blanks and escapes, whether
its records are objects or arrays, whatever the order of their members and whatever other members
there are, **and from no other text**; and nothing is read from a text in which a record, at any
level, lacks a field that is required, repeats one, or has `null` for one that may not be. -/
theorem reading_ignores_spelling {json : Json} {text : String}
    (hspelled : json.SpelledBy text.toList) :
    (∀ v : Volume, (parse? text).bind Volume.ofJson? = some v ↔ v.WrittenBy json) ∧
    (∀ s : Sandbox, (parse? text).bind Sandbox.ofJson? = some s ↔ s.WrittenBy json) ∧
    (Volume.Flawed json → (parse? text).bind Volume.ofJson? = none) ∧
    (Sandbox.Flawed json → (parse? text).bind Sandbox.ofJson? = none) :=
  ⟨Volume.reads_ofJson?.bind_parse?_iff hspelled, Sandbox.reads_ofJson?.bind_parse?_iff hspelled,
    Volume.reads_ofJson?.bind_parse?_eq_none Volume.sound hspelled,
    Sandbox.reads_ofJson?.bind_parse?_eq_none Sandbox.sound hspelled⟩

/-- A volume as an object with a member that is nobody's, whose metadata is an array that breaks
off early; and an object without metadata. -/
theorem reading_ignores_spelling_of_nested_array :
    (parse? "\x7b\"x\": null, \"metadata\":[\"v\"]\x7d").bind Volume.ofJson? =
        some { metadata := { name := "v" } } ∧
      (parse? "\x7b\x7d").bind Sandbox.ofJson? = none := by
  constructor
  · have hspelled : (Json.object [(.ofString "x", .null),
        (.ofString "metadata", .array [ofText "v"])]).SpelledBy
          "\x7b\"x\": null, \"metadata\":[\"v\"]\x7d".toList := by
      have hblank : IsBlank [' '] := by simp [IsBlank, isSpace]
      have hmetadata : (Json.array [ofText "v"]).SpelledBy ['[', '"', 'v', '"', ']'] :=
        .cons_token .openArray (.cons_token (spelled_renderLiteral "v") (.of_token .closeArray))
      exact .cons_token .openObject (.cons_token (spelled_renderLiteral "x") (.cons_token .colon
        (.cons hblank .null (.cons_token .comma (.cons hblank (spelled_renderLiteral "metadata")
          (.cons_token .colon (hmetadata.append (.of_token .closeObject))))))))
    have hmetadata : Metadata.WrittenBy { name := "v" } (.array [ofText "v"]) :=
      .array (.written (.written (writesText_ofText "v")) (.leftOut .leftOut .nil))
    refine ((reading_ignores_spelling hspelled).1 _).2 (.object (by simp) ?_)
    simp only [Volume.layout, List.forall_mem_cons]
    exact ⟨⟨_, by simp [valuesOf], .written hmetadata⟩, ⟨none, by simp [valuesOf], .leftOut rfl⟩,
      ⟨none, by simp [valuesOf], .leftOut⟩, fun _ h => absurd h List.not_mem_nil⟩
  · have hspelled : (Json.object []).SpelledBy "\x7b\x7d".toList :=
      .cons_token .openObject (.of_token .closeObject)
    exact (reading_ignores_spelling hspelled).2.2.2 (.missing List.mem_cons_self rfl rfl)

end RemountCheck
