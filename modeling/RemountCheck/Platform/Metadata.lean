import RemountCheck.Json.Fields

/-!
# What every resource is known by

* `RemountCheck.Metadata` – the name of a resource, and perhaps a name to display;
* `RemountCheck.Metadata.toJson`, `RemountCheck.Metadata.ofJson?` – its written form.
-/

namespace RemountCheck

/-- **The names of a resource**: the one it is known by, and one to display. -/
structure Metadata where
  name : String
  displayName : Option String := none
  deriving DecidableEq, Repr

namespace Metadata

/-- The metadata as a document. -/
def toJson (m : Metadata) : Json :=
  .object (Json.member "name" (.ofText m.name) ++
    Json.memberIfAny "displayName" .ofText m.displayName)

/-- The metadata that a document writes. -/
def ofJson? (json : Json) : Option Metadata :=
  (json.fields? ["name", "displayName"]).bind fun
    | [name, displayName] => do
      let name ← Json.required? Json.text? name
      let displayName ← Json.optional? Json.text? displayName
      return { name, displayName }
    | _ => none

end Metadata

end RemountCheck
