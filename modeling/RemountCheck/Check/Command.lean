import RemountCheck.Text.Affix
import RemountCheck.Text.Quoted

/-!
# The commands of a check

The shell commands that a check runs inside its sandboxes.

* `RemountCheck.Command` – a command by its purpose;
* `RemountCheck.Command.text` – its text for the shell;
* `RemountCheck.filePath` – where a file of a mounted volume is found;
* `RemountCheck.writtenContent` – what a file was written with, given how it
  reads back: the write ends its content with one newline, which is taken off
  again.

A write does not go through `echo`, which would interpret backslashes and a
leading dash: `printf '%s\n'` stores its quoted argument as it stands.
-/

namespace RemountCheck

/-- A text as one quoted shell word. -/
def quoted (s : String) : String := String.ofList (Text.Quoted.encode s.toList)

/-- The path of a file under a mount, with one slash between the two. -/
def filePath (mount file : String) : String :=
  String.ofList (Text.dropTrailing '/' mount.toList) ++ "/" ++ file

/-- A text without its final newline, if it ends in one. -/
def dropNewline : List Char → List Char
  | [] => []
  | ['\n'] => []
  | c :: s => c :: dropNewline s

/-- **What a file was written with**, given how it reads back. -/
def writtenContent (raw : String) : String := String.ofList (dropNewline raw.toList)

/-- Exactly one newline is taken off. -/
theorem dropNewline_append_newline (s : List Char) : dropNewline (s ++ ['\n']) = s := by
  induction s with
  | nil => rfl
  | cons c s ih =>
    cases s with
    | nil => simp [dropNewline]
    | cons d s => simpa [dropNewline] using ih

/-- A command of a check, by its purpose. -/
inductive Command where
  /-- Write the content and a newline to a file. -/
  | write (content path : String)
  /-- List what is mounted at a path. -/
  | mounts (mount : String)
  /-- List the directory that is a mount. -/
  | listing (mount : String)
  /-- Say whether a file exists. -/
  | existence (path : String)
  /-- Show a file's entry in its directory. -/
  | details (path : String)
  /-- Say who runs the commands. -/
  | identity
  /-- Read a file. -/
  | read (path : String)
  deriving DecidableEq, Repr

/-- **The text of a command** for the shell. -/
def Command.text : Command → String
  | .write content path => "printf '%s\\n' " ++ quoted content ++ " > " ++ path
  | .mounts mount =>
    "mount | grep " ++ String.ofList (Text.dropTrailing '/' (Text.dropLeading '/' mount.toList))
  | .listing mount => "ls -la " ++ String.ofList (Text.dropTrailing '/' mount.toList) ++ "/"
  | .existence path =>
    "test -f " ++ path ++ " && echo 'File exists' || echo 'File does not exist'"
  | .details path => "ls -la " ++ path ++ " 2>/dev/null || echo 'Cannot access file'"
  | .identity => "whoami && groups"
  | .read path => "cat " ++ path

/-- A command begins with a `p` exactly if it writes. -/
theorem Command.head?_text (command : Command) :
    command.text.toList.head? = some 'p' ↔ ∃ content path, command = .write content path := by
  unfold Command.text
  split <;> simp

end RemountCheck
