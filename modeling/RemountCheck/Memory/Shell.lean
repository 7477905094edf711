import RemountCheck.Memory.Mount
import RemountCheck.Memory.State
import RemountCheck.Text.Blank
import RemountCheck.Text.Quoted

/-!
# The shell of a platform in memory

A sandbox in memory runs the commands of a check and no others: it recognises their
beginnings and gives the output that a shell would give; any other command prints nothing.
Only a write changes anything.

* `RemountCheck.Memory.Line` – a command as the shell understands it, and
  `RemountCheck.Memory.Line.ofText`, how it is recognised;
* `RemountCheck.Memory.Line.run` – its output, and the volumes after it.

A write is cut at its last ` > `: before it stands a quoted word, after it the path. The
redirection of any other command, and everything after its first argument, is ignored.
-/

namespace RemountCheck

namespace Memory

/-! ### Recognising commands -/

/-- **A command** as the shell understands it. -/
inductive Line where
  /-- Write what a quoted word means, and a newline, to a path. -/
  | write (word path : List Char)
  /-- Print the content of a path. -/
  | read (path : List Char)
  /-- Say whether there is a file at a path. -/
  | existence (path : List Char)
  /-- List the volume that a path lies in. -/
  | listing (path : List Char)
  /-- Show the entry of a path. -/
  | details (path : List Char)
  /-- List the mounts whose paths contain a text. -/
  | mounts (needle : List Char)
  /-- Say who runs the commands. -/
  | identity
  /-- Anything else. -/
  | other
  deriving DecidableEq, Repr

/-- A write, from what follows its fixed beginning. Without a redirection it is nothing. -/
def Line.ofWrite (rest : List Char) : Line :=
  match Text.splitLast? " > ".toList rest with
  | some (word, path) => .write word path
  | none => .other

/-- A listing of a directory, named by a slash at its end, or of one file. -/
def Line.ofListing (rest : List Char) : Line :=
  let path := Text.firstWord rest
  if path.getLast? = some '/' then .listing path else .details path

/-- **How a command is recognised**: by its beginning, or in one case as a whole. -/
def Line.ofText (command : List Char) : Line :=
  match "printf '%s\\n' ".toList.isPrefixOf? command with
  | some rest => .ofWrite rest
  | none =>
  match "cat ".toList.isPrefixOf? command with
  | some path => .read path
  | none =>
  match "test -f ".toList.isPrefixOf? command with
  | some rest => .existence (Text.firstWord rest)
  | none =>
  match "ls -la ".toList.isPrefixOf? command with
  | some rest => .ofListing rest
  | none =>
  match "mount | grep ".toList.isPrefixOf? command with
  | some needle => .mounts needle
  | none => if command = "whoami && groups".toList then .identity else .other

/-! ### Running commands -/

/-- The content of the file at a path, if there is one. -/
def contentAt? (volumes : Volumes) (bindings : List Binding) (path : List Char) : Option String :=
  (resolve? bindings path).bind fun (volume, key) => volumes[volume]?.bind (·[key]?)

/-- The entry of a file in a listing, with what follows its fixed beginning. -/
def entry (rest : String) : String := "-rw-r--r-- 1 root root " ++ rest

/-- The volumes after a write of a content and a newline to a path, if the path lies in a
volume that exists. -/
def written? (volumes : Volumes) (bindings : List Binding) (path content : List Char) :
    Option Volumes :=
  (resolve? bindings path).bind fun (volume, key) =>
    volumes[volume]?.map fun files =>
      volumes.insert volume (files.insert key (String.ofList (content ++ ['\n'])))

/-- The names in the volume that a path lies in, in ascending order. A volume that does not
exist has none. -/
def namesAt? (volumes : Volumes) (bindings : List Binding) (path : List Char) :
    Option (List String) :=
  (resolve? bindings path).map fun (volume, _) =>
    match volumes[volume]? with
    | some files => files.keys
    | none => []

/-- The output of a command that changes nothing. -/
def Line.output (volumes : Volumes) (bindings : List Binding) : Line → String
  | .read path =>
    (contentAt? volumes bindings path).getD
      ("cat: can't open '" ++ String.ofList path ++ "': No such file or directory")
  | .existence path =>
    if (contentAt? volumes bindings path).isSome then "File exists" else "File does not exist"
  | .listing path =>
    match namesAt? volumes bindings path with
    | some names => "\n".intercalate ("total 0" :: names.map entry)
    | none => "ls: " ++ String.ofList path ++ ": No such file or directory"
  | .details path =>
    match contentAt? volumes bindings path with
    | some content => entry (toString content.utf8ByteSize ++ " " ++ String.ofList path)
    | none => "Cannot access file"
  | .mounts needle =>
    "\n".intercalate
      ((bindings.filter fun b => Text.contains needle b.mountPath.toList).map fun b =>
        b.volume ++ " on " ++ b.mountPath ++ " type ext4 (rw)")
  | .identity => "root\nroot"
  | .write .. | .other => ""

/-- **Runs a command**: its output, and the volumes after it. -/
def Line.run (volumes : Volumes) (bindings : List Binding) : Line → String × Volumes
  | .write word path =>
    match Text.Quoted.decode? word with
    | none => ("sh: syntax error: unterminated quoted string", volumes)
    | some content =>
      match written? volumes bindings path content with
      | some volumes => ("", volumes)
      | none =>
        ("sh: can't create " ++ String.ofList path ++ ": Read-only file system", volumes)
  | line => (line.output volumes bindings, volumes)

end Memory

end RemountCheck
