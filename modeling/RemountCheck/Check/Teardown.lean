import RemountCheck.Check.Absence

/-!
# Tearing down what a check may have created

What a check may create is written down before it creates anything, so that a check that
stops half-way is cleaned up in full. Each resource gets one delete, in order; a delete
that fails, or finds nothing to delete, does not keep the others from theirs.

* `RemountCheck.Resource` – what can be torn down, and
  `RemountCheck.Teardown.register` – writing it down, once;
* `RemountCheck.Teardown.run` – the deletes, and the waits for those that are to be
  confirmed;
* `RemountCheck.Teardown.Report` – what became of each resource.
-/

namespace RemountCheck

/-- **What can be torn down**: a volume, or a sandbox, whose deletion may have to be
confirmed by a wait. -/
inductive Resource where
  | sandbox (name : String) (confirm : Bool)
  | volume (name : String)
  deriving DecidableEq, Repr

namespace Resource

/-- The name of a resource. -/
def name : Resource → String
  | sandbox name _ => name
  | volume name => name

/-- The word for the kind of a resource. -/
def kind : Resource → String
  | sandbox .. => "sandbox"
  | volume _ => "volume"

/-- Whether the deletion of a resource has to be confirmed. -/
def confirmed : Resource → Bool
  | sandbox _ confirm => confirm
  | volume _ => false

/-- The call that deletes a resource. -/
def deletion : Resource → Call
  | sandbox name _ => .deleteSandbox name
  | volume name => .deleteVolume name

/-- Deletes a resource. -/
def delete : Resource → Routine (Except Failure Unit)
  | sandbox name _ => Routine.ask (.deleteSandbox name)
  | volume name => Routine.ask (.deleteVolume name)

end Resource

/-- **What is to be torn down**, in order, and how deletions are waited for. -/
structure Teardown where
  resources : List Resource := []
  policy : Policy
  deriving DecidableEq, Repr

namespace Teardown

/-- Writes a resource down after the others, unless it is there already. -/
def register (t : Teardown) (r : Resource) : Teardown :=
  if r ∈ t.resources then t else { t with resources := t.resources ++ [r] }

/-- What became of one resource. -/
inductive Fate where
  /-- Its delete was accepted, and what its wait ended with, if there was one. -/
  | deleted (gone : Option Bool)
  /-- It was not there. -/
  | alreadyGone
  /-- Its delete failed. -/
  | failed (failure : Failure)
  deriving DecidableEq, Repr

/-- **What became of the resources** of a teardown, by name and in order. -/
structure Report where
  deleted : List String := []
  alreadyGone : List String := []
  failed : List (String × String) := []
  /-- Those deleted whose absence was not confirmed within the budget. -/
  unconfirmed : List String := []
  deriving DecidableEq, Repr

namespace Report

/-- Whether nothing is left to see to. -/
def isClean (r : Report) : Bool := r.failed.isEmpty && r.unconfirmed.isEmpty

/-- The report of one more resource, before those that follow it. -/
def cons (resource : Resource) (fate : Fate) (r : Report) : Report :=
  match fate with
  | .deleted gone =>
    { r with
      deleted := resource.name :: r.deleted
      unconfirmed :=
        if gone = some false then resource.name :: r.unconfirmed else r.unconfirmed }
  | .alreadyGone => { r with alreadyGone := resource.name :: r.alreadyGone }
  | .failed failure => { r with failed := (resource.name, failure.message) :: r.failed }

/-- The report of resources with their fates. -/
def ofFates (fates : List (Resource × Fate)) : Report :=
  fates.foldr (fun (resource, fate) r => r.cons resource fate) {}

end Report

/-- What a teardown says of a resource in each of its events. -/
def resourceFields (r : Resource) : List (String × Log.Value) :=
  [("kind", .text r.kind), ("resource", .text r.name)]

/-- **Tears one resource down**: its delete, and its wait if one is due. -/
def dispose (policy : Policy) (r : Resource) : Routine Fate := do
  match ← r.delete with
  | .ok () =>
    Routine.tell (.info "deleted" (resourceFields r))
    if r.confirmed then
      let gone ← policy.await r.name
      if !gone then
        Routine.tell (.warn "deletion not confirmed during cleanup" [("resource", .text r.name)])
      return .deleted (some gone)
    else return .deleted none
  | .error failure =>
    if failure.isNotFound then
      Routine.tell (.debug "already gone" (resourceFields r))
      return .alreadyGone
    else
      Routine.tell (.warn "cleanup delete failed"
        (resourceFields r ++ [("error", .text failure.message)]))
      return .failed failure

/-- Tears resources down, one after the other. -/
def disposeAll (policy : Policy) : List Resource → Routine (List (Resource × Fate))
  | [] => return []
  | r :: rest => do
    let fate ← dispose policy r
    let fates ← disposeAll policy rest
    return (r, fate) :: fates

/-- **Tearing everything down**, in order, and reporting it. -/
def run (t : Teardown) : Routine Report := do
  return .ofFates (← disposeAll t.policy t.resources)

end Teardown

end RemountCheck
