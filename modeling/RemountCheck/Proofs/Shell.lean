import Mathlib.Data.List.Basic
import RemountCheck.Check.Command
import RemountCheck.Memory.Shell

/-!
# What the shell makes of a check's commands

The text of a command goes through the shell of a platform in memory, which has to find in it
again what the check put there. This module follows the two commands that matter, the write and
the read, and says of the others only that they change nothing.

| what is put into a text | how it is found again | lemma |
|---|---|---|
| a path after ` > ` | by the last ` > ` | `RemountCheck.Text.splitLast?_redirection` |
| a content as a quoted word | by reading the word | `RemountCheck.Text.Quoted.decode?_encode` |
| a file under a mount | by taking the mount path off | `RemountCheck.Memory.resolve?_filePath` |
| a line | by taking one newline off | `RemountCheck.writtenContent_append_newline` |

Together they make what is written through one mount readable through any other. The one thing that
can go wrong is a path that itself contains a redirection, or completes one with the space before
it.
-/

namespace RemountCheck

/-! ### The last cut -/

namespace Text

/-- A text can be cut exactly where it contains the separator. -/
theorem isSome_splitLast? (sep s : List Char) : (splitLast? sep s).isSome = contains sep s := by
  induction s with
  | nil => cases sep <;> rfl
  | cons c s ih =>
    rw [contains, ← ih, splitLast?]
    cases splitLast? sep s <;> simp

/-- More text in front does not move the last cut. -/
theorem splitLast?_append {sep s before after : List Char}
    (h : splitLast? sep s = some (before, after)) (word : List Char) :
    splitLast? sep (word ++ s) = some (word ++ before, after) := by
  induction word with
  | nil => exact h
  | cons c word ih => simp [splitLast?, ih]

/-- **A redirection is found again**, whatever stands before it, unless its path contains another
or begins like the rest of one. -/
theorem splitLast?_redirection {path : List Char} (hinside : contains " > ".toList path = false)
    (hstart : ¬"> ".toList <+: path) (word : List Char) :
    splitLast? " > ".toList (word ++ (" > ".toList ++ path)) = some (word, path) := by
  -- the last cut lies neither in the path nor across its beginning
  have hpath : splitLast? [' ', '>', ' '] path = none := by
    simpa [← isSome_splitLast?] using hinside
  have hspace : ['>', ' '].isPrefixOf? path = none := by
    simpa [← List.isPrefixOf_iff_prefix, ← List.isSome_isPrefixOf?_eq_isPrefixOf] using hstart
  have hhere : splitLast? " > ".toList (" > ".toList ++ path) = some ([], path) := by
    simp [splitLast?, hpath, hspace, List.isPrefixOf?]
  simpa using splitLast?_append hhere word

/-- What stands before and after the last cut is the text, with the separator between. -/
theorem append_of_splitLast? {sep s before after : List Char}
    (h : splitLast? sep s = some (before, after)) : s = before ++ (sep ++ after) := by
  induction s generalizing before with
  | nil =>
    obtain ⟨rest, hrest, heq⟩ := Option.map_eq_some_iff.mp h
    cases heq
    exact (List.isPrefixOf?_eq_some_iff_append_eq.mp hrest).symm
  | cons c s ih =>
    rw [splitLast?] at h
    cases hs : splitLast? sep s with
    | some cut =>
      rw [hs] at h
      cases h
      rw [ih hs, List.cons_append]
    | none =>
      rw [hs] at h
      obtain ⟨rest, hrest, heq⟩ := Option.map_eq_some_iff.mp h
      cases heq
      exact (List.isPrefixOf?_eq_some_iff_append_eq.mp hrest).symm

/-- **The last redirection** of a text is the one whose path contains no other and does not begin
like the rest of one. -/
theorem splitLast?_redirection_iff {s word path : List Char} :
    splitLast? " > ".toList s = some (word, path) ↔
      s = word ++ (" > ".toList ++ path) ∧ contains " > ".toList path = false ∧
        ¬"> ".toList <+: path := by
  constructor
  · intro h
    refine ⟨append_of_splitLast? h, ?_⟩
    induction s generalizing word with
    | nil => cases h
    | cons c s ih =>
      rw [splitLast?] at h
      cases hs : splitLast? " > ".toList s with
      | some cut =>
        rw [hs] at h
        cases h
        exact ih hs
      | none =>
        rw [hs] at h
        obtain ⟨rest, hrest, heq⟩ := Option.map_eq_some_iff.mp h
        cases heq
        -- no redirection begins after this one, neither with its space nor in the path
        have hlater : contains " > ".toList s = false := by
          rw [← isSome_splitLast?, hs]
          rfl
        obtain ⟨rfl, rfl⟩ : ' ' = c ∧ '>' :: ' ' :: path = s := by
          simpa using List.isPrefixOf?_eq_some_iff_append_eq.mp hrest
        have hpath : ¬"> ".toList <+: path ∧ contains " > ".toList path = false := by
          simpa [contains, List.isPrefixOf, ← List.isPrefixOf_iff_prefix] using hlater
        exact hpath.symm
  · rintro ⟨rfl, hinside, hstart⟩
    exact splitLast?_redirection hinside hstart word

end Text

/-! ### Paths and contents -/

theorem toList_filePath (mount file : String) :
    (filePath mount file).toList = Text.dropTrailing '/' mount.toList ++ '/' :: file.toList := by
  simp [filePath]

/-- A content that reads back with one newline more is what was written. -/
theorem writtenContent_append_newline (content : String) :
    writtenContent (String.ofList (content.toList ++ ['\n'])) = content := by
  simp [writtenContent, dropNewline_append_newline]

namespace Memory

/-- The path of a file below the mount point: its name without the slashes at its start. -/
def fileKey (file : String) : String := String.ofList (Text.dropLeading '/' file.toList)

/-- **The path of a file leads back to the volume**, wherever that is mounted. -/
theorem resolve?_filePath (b : Binding) (file : String) :
    resolve? [b] (filePath b.mountPath file).toList = some (b.volume, fileKey file) := by
  have hbelow : belowMount? (Text.dropTrailing '/' b.mountPath.toList)
      (filePath b.mountPath file).toList = some ('/' :: file.toList) := by
    have hprefix :=
      List.isPrefixOf?_eq_some_iff_append_eq.mpr (toList_filePath b.mountPath file).symm
    rw [belowMount?, hprefix]
    rfl
  simp [resolve?, Binding.match?, hbelow, deepest?, Text.dropLeading, fileKey]

/-! ### Commands -/

namespace Line

variable {volumes : Volumes} {b : Binding} {files : Files}

/-- A command that is no write changes nothing. -/
theorem run_eq_output {line : Line} (h : ∀ word path, line ≠ .write word path)
    (volumes : Volumes) (bindings : List Binding) :
    line.run volumes bindings = (line.output volumes bindings, volumes) := by
  cases line with
  | write word path => exact absurd rfl (h word path)
  | _ => rfl

theorem ofListing_ne_write (rest word path : List Char) : ofListing rest ≠ .write word path := by
  simp only [ofListing]
  split <;> exact nofun

/-- What does not begin like a write is none. -/
theorem ofText_ne_write_of_isPrefixOf? {text : List Char}
    (h : "printf '%s\\n' ".toList.isPrefixOf? text = none) (word path : List Char) :
    ofText text ≠ .write word path := by
  rw [ofText, h]
  dsimp only
  split
  · exact nofun
  split
  · exact nofun
  split
  · exact ofListing_ne_write _ word path
  split
  · exact nofun
  split <;> exact nofun

/-- A write is recognised by its first letter at the latest. -/
theorem ofText_ne_write {text : List Char} (h : text.head? ≠ some 'p') (word path : List Char) :
    ofText text ≠ .write word path := by
  refine ofText_ne_write_of_isPrefixOf? ?_ word path
  cases text with
  | nil => rfl
  | cons c text =>
    have hc : c ≠ 'p' := fun hc => h (by rw [hc]; rfl)
    simp [List.isPrefixOf?, hc.symm]

/-- **What is a write to the shell**: it begins like one, and what follows is a word and its last
redirection. -/
theorem ofText_eq_write_iff {text word path : List Char} :
    ofText text = .write word path ↔
      text = "printf '%s\\n' ".toList ++ (word ++ (" > ".toList ++ path)) ∧
        Text.contains " > ".toList path = false ∧ ¬"> ".toList <+: path := by
  cases hbegin : "printf '%s\\n' ".toList.isPrefixOf? text with
  | none =>
    refine iff_of_false (ofText_ne_write_of_isPrefixOf? hbegin word path) ?_
    rintro ⟨rfl, -⟩
    rw [List.isPrefixOf?_eq_some_iff_append_eq.mpr rfl] at hbegin
    cases hbegin
  | some rest =>
    obtain rfl := List.isPrefixOf?_eq_some_iff_append_eq.mp hbegin
    rw [ofText, hbegin]
    simp only [List.append_cancel_left_eq, ← Text.splitLast?_redirection_iff]
    rw [ofWrite]
    cases Text.splitLast? " > ".toList rest with
    | none => exact iff_of_false nofun nofun
    | some cut => simp [Prod.ext_iff]

/-- No command of a check but the write is a write to the shell. -/
theorem ofText_text_ne_write {command : Command} (h : ∀ content path, command ≠ .write content path)
    (word path : List Char) : ofText command.text.toList ≠ .write word path := by
  refine ofText_ne_write (fun hhead => ?_) word path
  obtain ⟨content, path, hcommand⟩ := command.head?_text.mp hhead
  exact h content path hcommand

/-- A write reaches the shell as it was meant. -/
theorem ofText_write {path : String} (hinside : Text.contains " > ".toList path.toList = false)
    (hstart : ¬"> ".toList <+: path.toList) (content : String) :
    ofText (Command.write content path).text.toList =
      .write (Text.Quoted.encode content.toList) path.toList := by
  refine ofText_eq_write_iff.mpr ⟨?_, hinside, hstart⟩
  change ("printf '%s\\n' " ++ quoted content ++ " > " ++ path).toList = _
  simp [quoted]

/-- A read reaches the shell as it was meant. -/
theorem ofText_read (path : String) :
    ofText (Command.read path).text.toList = .read path.toList := by
  change ofText ("cat " ++ path).toList = _
  simp [ofText, List.isPrefixOf?]

/-- The volumes after a content was written to a file. -/
def stored (volumes : Volumes) (volume : String) (files : Files) (file content : String) :
    Volumes :=
  volumes.insert volume
    (files.insert (fileKey file) (String.ofList (content.toList ++ ['\n'])))

/-- **A write through a mount** stores the content in the volume. -/
theorem run_write (h : volumes[b.volume]? = some files) (content file : String) :
    (write (Text.Quoted.encode content.toList) (filePath b.mountPath file).toList).run volumes [b] =
      ("", stored volumes b.volume files file content) := by
  simp [run, Text.Quoted.decode?_encode, written?, resolve?_filePath, h, stored]

/-- **A read through a mount** gives what is stored in the volume. -/
theorem output_read {file raw : String} (h : volumes[b.volume]? = some files)
    (hraw : files[fileKey file]? = some raw) :
    (read (filePath b.mountPath file).toList).output volumes [b] = raw := by
  simp [output, contentAt?, resolve?_filePath, h, hraw]

end Line

end Memory

end RemountCheck
