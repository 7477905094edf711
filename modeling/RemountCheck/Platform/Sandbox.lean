import RemountCheck.Platform.Metadata

/-!
# Sandboxes

* `RemountCheck.Sandbox` – a sandbox as the platform describes it, with the volumes
  that are mounted in it;
* `RemountCheck.SandboxRequest` – what a sandbox is asked for by;
* their written forms: `toJson` writes either, `RemountCheck.Sandbox.ofJson?` reads a
  sandbox, and so reads a request as a sandbox without a status;
* `RemountCheck.Lookup` – what is found under a name.
-/

namespace RemountCheck

/-- A volume by its name, and the path at which it is mounted. -/
structure Binding where
  volume : String
  mountPath : String
  readOnly : Bool := false
  deriving DecidableEq, Repr

/-- What a sandbox runs: an image, and memory in megabytes. -/
structure Runtime where
  image : String := ""
  memory : Option UInt32 := none
  deriving DecidableEq, Repr

/-- What a sandbox is to be. -/
structure SandboxSpec where
  region : Option String := none
  runtime : Runtime := {}
  volumes : List Binding := []
  deriving DecidableEq, Repr

/-- **A sandbox** as the platform describes it. -/
structure Sandbox where
  metadata : Metadata
  spec : SandboxSpec := {}
  status : Option String := none
  deriving DecidableEq, Repr

/-- **What a sandbox is asked for by.** -/
structure SandboxRequest where
  metadata : Metadata
  spec : SandboxSpec
  deriving DecidableEq, Repr

namespace Binding

/-- The binding as a document. -/
def toJson (b : Binding) : Json :=
  .object (Json.member "name" (.ofText b.volume) ++ Json.member "mountPath" (.ofText b.mountPath) ++
    Json.member "readOnly" (.bool b.readOnly))

/-- The binding that a document writes. -/
def ofJson? (json : Json) : Option Binding :=
  (json.fields? ["name", "mountPath", "readOnly"]).bind fun
    | [volume, mountPath, readOnly] => do
      let volume ← Json.required? Json.text? volume
      let mountPath ← Json.required? Json.text? mountPath
      let readOnly ← Json.defaulted? false Json.flag? readOnly
      return { volume, mountPath, readOnly }
    | _ => none

end Binding

namespace Runtime

/-- The runtime as a document. -/
def toJson (r : Runtime) : Json :=
  .object (Json.member "image" (.ofText r.image) ++ Json.memberIfAny "memory" .ofWord32 r.memory)

/-- The runtime that a document writes. -/
def ofJson? (json : Json) : Option Runtime :=
  (json.fields? ["image", "memory"]).bind fun
    | [image, memory] => do
      let image ← Json.defaulted? "" Json.text? image
      let memory ← Json.optional? Json.word32? memory
      return { image, memory }
    | _ => none

end Runtime

namespace SandboxSpec

/-- The specification as a document. An empty list of volumes is left out. -/
def toJson (s : SandboxSpec) : Json :=
  .object (Json.memberIfAny "region" .ofText s.region ++ Json.member "runtime" s.runtime.toJson ++
    if s.volumes.isEmpty then [] else Json.member "volumes" (.array (s.volumes.map Binding.toJson)))

/-- The specification that a document writes. -/
def ofJson? (json : Json) : Option SandboxSpec :=
  (json.fields? ["region", "runtime", "volumes"]).bind fun
    | [region, runtime, volumes] => do
      let region ← Json.optional? Json.text? region
      let runtime ← Json.defaulted? {} Runtime.ofJson? runtime
      let volumes ← Json.defaulted? [] (Json.list? Binding.ofJson?) volumes
      return { region, runtime, volumes }
    | _ => none

end SandboxSpec

namespace Sandbox

/-- A sandbox of which nothing is known but its name. -/
def named (name : String) : Sandbox where
  metadata := { name }

/-- The name of a sandbox. -/
def name (s : Sandbox) : String := s.metadata.name

/-- The sandbox as a document. -/
def toJson (s : Sandbox) : Json :=
  .object (Json.member "metadata" s.metadata.toJson ++ Json.member "spec" s.spec.toJson ++
    Json.member "status" (Json.orNull .ofText s.status))

/-- The sandbox that a document writes. -/
def ofJson? (json : Json) : Option Sandbox :=
  (json.fields? ["metadata", "spec", "status"]).bind fun
    | [metadata, spec, status] => do
      let metadata ← Json.required? Metadata.ofJson? metadata
      let spec ← Json.defaulted? {} SandboxSpec.ofJson? spec
      let status ← Json.optional? Json.text? status
      return { metadata, spec, status }
    | _ => none

end Sandbox

namespace SandboxRequest

/-- The request for a sandbox of a name, an image and memory in megabytes, with
volumes mounted in it and perhaps in a region. -/
def ofImage (name image : String) (memory : UInt32) (region : Option String)
    (volumes : List Binding) : SandboxRequest where
  metadata := { name }
  spec := { region, runtime := { image, memory := some memory }, volumes }

/-- The name that is asked for. -/
def name (r : SandboxRequest) : String := r.metadata.name

/-- The request as a document. -/
def toJson (r : SandboxRequest) : Json :=
  .object (Json.member "metadata" r.metadata.toJson ++ Json.member "spec" r.spec.toJson)

end SandboxRequest

/-- **What is found under a name.** A lookup that fails in any way that is not a
definite absence is transient, and says why. -/
inductive Lookup (α : Type) where
  | found (value : α)
  | notFound
  | transient (error : String)
  deriving DecidableEq, Repr

end RemountCheck
