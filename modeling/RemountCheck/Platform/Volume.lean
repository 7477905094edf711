import RemountCheck.Platform.Metadata

/-!
# Volumes

* `RemountCheck.Volume` – a volume as the platform describes it;
* `RemountCheck.VolumeRequest` – what a volume is asked for by;
* their written forms: `toJson` writes either, `RemountCheck.Volume.ofJson?` reads a
  volume, and so reads a request as a volume without a status.
-/

namespace RemountCheck

/-- What a volume is to be: its size in megabytes, where it lies, and what it is
attached to. -/
structure VolumeSpec where
  size : Option UInt32 := none
  region : Option String := none
  attachedTo : Option String := none
  deriving DecidableEq, Repr

/-- **A volume** as the platform describes it. -/
structure Volume where
  metadata : Metadata
  spec : VolumeSpec := {}
  status : Option String := none
  deriving DecidableEq, Repr

/-- **What a volume is asked for by.** -/
structure VolumeRequest where
  metadata : Metadata
  spec : VolumeSpec
  deriving DecidableEq, Repr

namespace VolumeSpec

/-- The specification as a document. -/
def toJson (s : VolumeSpec) : Json :=
  .object (Json.memberIfAny "size" .ofWord32 s.size ++
    Json.memberIfAny "region" .ofText s.region ++
    Json.memberIfAny "attachedTo" .ofText s.attachedTo)

/-- The specification that a document writes. -/
def ofJson? (json : Json) : Option VolumeSpec :=
  (json.fields? ["size", "region", "attachedTo"]).bind fun
    | [size, region, attachedTo] => do
      let size ← Json.optional? Json.word32? size
      let region ← Json.optional? Json.text? region
      let attachedTo ← Json.optional? Json.text? attachedTo
      return { size, region, attachedTo }
    | _ => none

end VolumeSpec

namespace Volume

/-- The volume as a document. -/
def toJson (v : Volume) : Json :=
  .object (Json.member "metadata" v.metadata.toJson ++ Json.member "spec" v.spec.toJson ++
    Json.member "status" (Json.orNull .ofText v.status))

/-- The volume that a document writes. -/
def ofJson? (json : Json) : Option Volume :=
  (json.fields? ["metadata", "spec", "status"]).bind fun
    | [metadata, spec, status] => do
      let metadata ← Json.required? Metadata.ofJson? metadata
      let spec ← Json.defaulted? {} VolumeSpec.ofJson? spec
      let status ← Json.optional? Json.text? status
      return { metadata, spec, status }
    | _ => none

end Volume

namespace VolumeRequest

/-- The request for a volume of a name, a size in megabytes and perhaps a region. -/
def ofSize (name displayName : String) (size : UInt32) (region : Option String) : VolumeRequest where
  metadata := { name, displayName := some displayName }
  spec := { size := some size, region }

/-- The name that is asked for. -/
def name (r : VolumeRequest) : String := r.metadata.name

/-- The request as a document. -/
def toJson (r : VolumeRequest) : Json :=
  .object (Json.member "metadata" r.metadata.toJson ++ Json.member "spec" r.spec.toJson)

end VolumeRequest

end RemountCheck
