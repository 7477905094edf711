import RemountCheck.Platform.Sandbox
import RemountCheck.Text.Affix

/-!
# Finding a path in the volumes of a sandbox

A path of a sandbox's file system lies in a volume if the volume's mount path, without
slashes at its end, is the path or a beginning of it that a slash follows. Of several such
volumes the one mounted deepest holds the path, and of several mounted at one place the one
that was bound last.

* `RemountCheck.Memory.MountMatch` – a binding that a path lies under;
* `RemountCheck.Binding.match?` – whether and how a path lies under a binding;
* `RemountCheck.Memory.resolve?` – the volume that holds a path, and the path's rest below
  the mount point.
-/

namespace RemountCheck

namespace Memory

/-- How a path lies under a binding: the length of the mount path, the volume, and the rest
of the path below the mount point. -/
structure MountMatch where
  depth : Nat
  volume : String
  key : String
  deriving DecidableEq, Repr

/-- What follows a mount path in a path: nothing, or a slash and more. -/
def belowMount? (mount path : List Char) : Option (List Char) :=
  match mount.isPrefixOf? path with
  | some [] => some []
  | some ('/' :: rest) => some ('/' :: rest)
  | _ => none

end Memory

open Memory in
/-- **How a path lies under a binding**, if it does. -/
def Binding.match? (b : Binding) (path : List Char) : Option MountMatch :=
  let mount := Text.dropTrailing '/' b.mountPath.toList
  (belowMount? mount path).map fun rest =>
    { depth := mount.length, volume := b.volume, key := String.ofList (Text.dropLeading '/' rest) }

namespace Memory

/-- The deepest of several matches, and of equally deep ones the last. All of them are
beginnings of one path, so that deeper means longer. -/
def deepest? : List MountMatch → Option MountMatch
  | [] => none
  | m :: rest =>
    match deepest? rest with
    | none => some m
    | some best => some (if best.depth < m.depth then m else best)

/-- **The volume that holds a path**, and the path's rest below the mount point. -/
def resolve? (bindings : List Binding) (path : List Char) : Option (String × String) :=
  (deepest? (bindings.filterMap (·.match? path))).map fun m => (m.volume, m.key)

end Memory

end RemountCheck
