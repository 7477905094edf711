import Std.Data.ExtTreeMap
import RemountCheck.Platform.Call

/-!
# The state of a platform in memory

A platform that lives in memory answers like a remote one, with the faults that it is told
to have. This module holds what it knows and how its faults are set.

* `RemountCheck.Memory.Faults` – what goes wrong, fixed for the life of a platform;
* `RemountCheck.Memory.State` – the volumes with their files, the sandboxes, how many
  lookups are still to fail, and the calls that were made.

A file is kept under the path that it has below the mount point, so that it is the same
file whatever path its volume is mounted at. A sandbox whose deletion was accepted lingers:
it keeps answering a number of lookups before it is gone.
-/

namespace RemountCheck

namespace Memory

/-- **What goes wrong** on a platform in memory. -/
structure Faults where
  /-- How many lookups a deleted sandbox still answers. -/
  deletionLag : Nat := 0
  /-- The sandboxes that never disappear after their deletion. -/
  stuck : List String := []
  /-- The resources whose deletion fails. -/
  failingDelete : List String := []
  /-- Whether no volume can be created. -/
  failingVolumeCreate : Bool := false
  /-- Commands that contain this text fail. -/
  failingExec : Option String := none
  /-- Commands that contain this text crash. -/
  crashingExec : Option String := none
  /-- Whether a volume loses its files when a sandbox that mounts it is deleted. -/
  volatile : Bool := false
  deriving DecidableEq, Repr

/-- The files of a volume, by their paths below the mount point. -/
abbrev Files := Std.ExtTreeMap String String

/-- The volumes of a platform, by name. -/
abbrev Volumes := Std.ExtTreeMap String Files

/-- A sandbox that the platform knows of. -/
structure Resident where
  sandbox : Sandbox
  /-- Once its deletion is accepted: how many more lookups it answers. -/
  deleting : Option Nat := none
  deriving DecidableEq, Repr

/-- Whether a sandbox is in use: its deletion was not accepted yet. -/
def Resident.isLive (r : Resident) : Bool := r.deleting.isNone

/-- **The state** of a platform in memory. -/
structure State where
  volumes : Volumes := ∅
  sandboxes : Std.ExtTreeMap String Resident := ∅
  /-- How many of the next lookups fail. -/
  transientLookups : Nat := 0
  /-- The calls that were made, in order. A call that crashed is not among them. -/
  record : List Call := []

namespace State

/-- The state with one more call in its record. -/
def recording (s : State) (c : Call) : State := { s with record := s.record ++ [c] }

/-- The state with a sandbox that the platform already knew of. -/
def withSandbox (s : State) (name : String) : State :=
  { s with sandboxes := s.sandboxes.insert name { sandbox := .named name } }

end State

end Memory

end RemountCheck
