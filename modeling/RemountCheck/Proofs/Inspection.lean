import Mathlib.Data.List.Sort
import RemountCheck.Proofs.Integrity
import RemountCheck.Proofs.Mounts

/-!
# Inspecting files on a platform in memory

A check looks at its file in four ways: it asks whether the file exists, shows its entry, lists its
directory and reads it. Each command is taken apart by a rule of its own – the whole rest of the
line, its first word, its first word with a slash at the end – and only then led to a volume. This
module says when all four come to the same file, and that what they say of it then agrees.

| command | the path is | it says |
|---|---|---|
| read | the rest of the line | what the file holds, or that there is none |
| existence | the first word | whether there is a file |
| details | the first word, without a slash at its end | the length of what the file holds |
| listing | the first word, with a slash at its end | the names in the volume |

So the path must be one word, and to be taken for a file it must not end in a slash; nothing else is
asked of it.

* `RemountCheck.Memory.State.Prints` – what a command prints in a sandbox;
* `RemountCheck.Memory.State.FileAt` – what the file at a path holds, if the path leads to one;
* `RemountCheck.Memory.State.NamesIn` – the names in a volume, in ascending order: there is only one
  such list, so that a listing cannot depend on the order in which the files were written;
* `RemountCheck.Memory.State.SpeaksOf` – the commands agree on a path;
* `RemountCheck.Memory.inspection_agrees_with_reading` – they do, in every state that a platform can
  come to.

Only in such a state, since a file could otherwise hold the very text that a read prints where there
is none. What a platform stores ends in a newline, and that text does not.
-/

namespace RemountCheck

namespace Text

/-- A text without blanks is its own first word. -/
theorem firstWord_eq_self {s : List Char} (h : ∀ c ∈ s, isBlank c = false) : firstWord s = s := by
  have hdrop : s.dropWhile isBlank = s := by
    cases s with
    | nil => rfl
    | cons c s => exact List.dropWhile_cons_of_neg (by simp [h c])
  rw [firstWord, hdrop]
  exact List.takeWhile_eq_self_iff.mpr fun c hc => by simp [h c hc]

/-- A text is one word if none of its characters is found to be blank. -/
theorem isBlank_eq_false_of_any {s : List Char} (h : s.any isBlank = false) :
    ∀ c ∈ s, isBlank c = false := fun c hc =>
  Bool.eq_false_of_not_eq_true (List.any_eq_false.mp h c hc)

end Text

namespace Memory

/-! ### How the commands are recognised -/

section Recognised

variable {path : String}

theorem Line.ofText_existence (hne : path ≠ "")
    (hword : ∀ c ∈ path.toList, Text.isBlank c = false) :
    Line.ofText (Command.existence path).text.toList = .existence path.toList := by
  have hfirst := Text.firstWord_append_blank hword (by simpa using hne) ' ' (by decide)
    "&& echo 'File exists' || echo 'File does not exist'".toList
  change Line.ofText
    ("test -f " ++ path ++ " && echo 'File exists' || echo 'File does not exist'").toList = _
  simpa [Line.ofText, List.isPrefixOf?] using hfirst

/-- A first word that does not end in a slash is shown as one file. -/
theorem Line.ofListing_of_word {word : List Char} (hne : word ≠ [])
    (hword : ∀ c ∈ word, Text.isBlank c = false) (hslash : word.getLast? ≠ some '/')
    (rest : List Char) : Line.ofListing (word ++ ' ' :: rest) = .details word := by
  have hfirst := Text.firstWord_append_blank hword hne ' ' (by decide) rest
  rw [Line.ofListing, hfirst, if_neg hslash]

theorem Line.ofText_details (hne : path ≠ "")
    (hword : ∀ c ∈ path.toList, Text.isBlank c = false)
    (hslash : path.toList.getLast? ≠ some '/') :
    Line.ofText (Command.details path).text.toList = .details path.toList := by
  have hrest := Line.ofListing_of_word (by simpa using hne) hword hslash
    "2>/dev/null || echo 'Cannot access file'".toList
  change Line.ofText
    ("ls -la " ++ path ++ " 2>/dev/null || echo 'Cannot access file'").toList = _
  simpa [Line.ofText, List.isPrefixOf?] using hrest

/-- A mount is listed with one slash at its end, whatever slashes it has there. -/
theorem Line.ofText_listing {mount : String}
    (hword : ∀ c ∈ mount.toList, Text.isBlank c = false) :
    Line.ofText (Command.listing mount).text.toList =
      .listing (Text.dropTrailing '/' mount.toList ++ ['/']) := by
  obtain ⟨n, hmount⟩ := Text.exists_eq_dropTrailing_append '/' mount.toList
  have htrimmed : ∀ c ∈ Text.dropTrailing '/' mount.toList ++ ['/'], Text.isBlank c = false := by
    intro c hc
    rcases List.mem_append.mp hc with hc | hc
    · exact hword c (by rw [hmount]; exact List.mem_append_left _ hc)
    · obtain rfl := List.mem_singleton.mp hc
      decide
  have hrest : Line.ofListing (Text.dropTrailing '/' mount.toList ++ ['/']) =
      .listing (Text.dropTrailing '/' mount.toList ++ ['/']) := by
    rw [Line.ofListing, Text.firstWord_eq_self htrimmed, if_pos (by simp)]
  change Line.ofText
    ("ls -la " ++ String.ofList (Text.dropTrailing '/' mount.toList) ++ "/").toList = _
  simpa [Line.ofText, List.isPrefixOf?] using hrest

end Recognised

/-! ### What the commands print -/

/-- **A command prints** a text in a sandbox: it ends well, and this is its output. -/
def State.Prints (s : State) (faults : Faults) (name : String) (command : Command)
    (output : String) : Prop :=
  ((platform faults).reply (.exec name command.text) s).1 =
    .ok (.ok (.structured { logs := some output, exitCode := some 0, status := some "completed" }))

/-- **What the file at a path holds**, if the path leads to one in a sandbox that is in use. -/
def State.FileAt (s : State) (name path content : String) : Prop :=
  ∃ volume key, s.Reaches name path.toList volume key ∧ s.contentOf? volume key = some content

/-- **The names in a volume**, each once and in ascending order. -/
structure State.NamesIn (s : State) (volume : String) (names : List String) : Prop where
  ascending : names.Pairwise (· < ·)
  mem_iff : ∀ key, key ∈ names ↔ (s.contentOf? volume key).isSome

/-- What a read says where there is no file. -/
def noSuchFile (path : String) : String :=
  "cat: can't open '" ++ path ++ "': No such file or directory"

/-- A listing of names. -/
def listingOf (names : List String) : String := "\n".intercalate ("total 0" :: names.map entry)

/-- **The commands agree on a path**: on whether there is a file, and if there is one, on what it
holds. -/
structure State.SpeaksOf (s : State) (faults : Faults) (name path : String) : Prop where
  /-- A file is said to exist exactly where there is one. -/
  existence_iff : s.Prints faults name (.existence path) "File exists" ↔
    ∃ content, s.FileAt name path content
  /-- Exactly there a read prints something else than its message. -/
  read_iff : (∃ content, s.FileAt name path content) ↔
    ¬s.Prints faults name (.read path) (noSuchFile path)
  /-- What the file holds is read, and its entry shows how many bytes that takes. -/
  of_file : ∀ content, s.FileAt name path content →
    s.Prints faults name (.read path) content ∧
      s.Prints faults name (.details path)
        (entry (toString content.utf8ByteSize ++ " " ++ path))
  /-- Where there is no file, all three say so. -/
  of_none : (∀ content, ¬s.FileAt name path content) →
    s.Prints faults name (.existence path) "File does not exist" ∧
      s.Prints faults name (.read path) (noSuchFile path) ∧
      s.Prints faults name (.details path) "Cannot access file"

section Prints

variable {faults : Faults} {s : State} {name : String} {sandbox : Sandbox} {command : Command}

/-- A command of a check that is no write does not write. -/
theorem not_writes_text (h : ∀ content path, command ≠ .write content path)
    (volume key content : String) : ¬s.Writes name command.text volume key content := by
  rintro ⟨word, path, hcommand, hinside, hstart, -⟩
  exact Line.ofText_text_ne_write h word path
    (Line.ofText_eq_write_iff.mpr ⟨hcommand, hinside, hstart⟩)

/-- **A command that is no write leaves nothing but an entry in the record.** -/
theorem next_of_not_write (hcrashing : faults.crashingExec = none)
    (h : ∀ content path, command ≠ .write content path) (s : State) (name : String) :
    (platform faults).next (.exec name command.text) s =
      s.recording (.exec name command.text) := by
  -- beside that entry a command can only leave a write, and this text is that of none
  rw [next_eq, crash?_exec hcrashing]
  rcases exec_cases faults name command.text (s.recording (.exec name command.text)) with
    heq | ⟨volume, key, content, hwrites, -⟩
  · exact heq
  · exact absurd hwrites (not_writes_text h volume key content)

/-- **What a command prints** in a sandbox that is in use, if it is no write. -/
theorem prints_iff (command : Command) (hfailing : faults.failingExec = none)
    (hcrashing : faults.crashingExec = none) (hlive : s.sandboxes[name]? = some ⟨sandbox, none⟩)
    (h : ∀ content path, command ≠ .write content path) {line : Line}
    (hline : Line.ofText command.text.toList = line) {output : String} :
    s.Prints faults name command output ↔
      line.output s.volumes sandbox.spec.volumes = output := by
  subst hline
  have hrun := Line.run_eq_output (Line.ofText_text_ne_write h) s.volumes sandbox.spec.volumes
  rw [State.Prints, reply_exec hfailing hcrashing hlive rfl, hrun]
  simp

/-- What the file at a path holds is what the shell finds there. -/
theorem fileAt_iff (hlive : s.sandboxes[name]? = some ⟨sandbox, none⟩) (path content : String) :
    s.FileAt name path content ↔
      contentAt? s.volumes sandbox.spec.volumes path.toList = some content := by
  rw [contentAt?, Option.bind_eq_some_iff]
  constructor
  · rintro ⟨volume, key, ⟨other, hother, hresolve⟩, hcontent⟩
    obtain rfl : other = sandbox := by simpa using hother.symm.trans hlive
    exact ⟨(volume, key), hresolve, hcontent⟩
  · rintro ⟨⟨volume, key⟩, hresolve, hcontent⟩
    exact ⟨volume, key, ⟨sandbox, hlive, hresolve⟩, hcontent⟩

/-! ### One path -/

section Path

variable {path : String}

theorem prints_existence_iff (output : String) (hfailing : faults.failingExec = none)
    (hcrashing : faults.crashingExec = none) (hlive : s.sandboxes[name]? = some ⟨sandbox, none⟩)
    (hne : path ≠ "") (hword : ∀ c ∈ path.toList, Text.isBlank c = false) :
    s.Prints faults name (.existence path) output ↔
      (if (contentAt? s.volumes sandbox.spec.volumes path.toList).isSome then "File exists"
        else "File does not exist") = output :=
  prints_iff (.existence path) hfailing hcrashing hlive nofun
    (Line.ofText_existence hne hword)

theorem prints_read_iff (path output : String) (hfailing : faults.failingExec = none)
    (hcrashing : faults.crashingExec = none) (hlive : s.sandboxes[name]? = some ⟨sandbox, none⟩) :
    s.Prints faults name (.read path) output ↔
      (contentAt? s.volumes sandbox.spec.volumes path.toList).getD (noSuchFile path) = output := by
  rw [prints_iff (.read path) hfailing hcrashing hlive nofun (Line.ofText_read path),
    Line.output, String.ofList_toList]
  unfold noSuchFile
  exact Iff.rfl

theorem prints_details_iff (output : String) (hfailing : faults.failingExec = none)
    (hcrashing : faults.crashingExec = none) (hlive : s.sandboxes[name]? = some ⟨sandbox, none⟩)
    (hne : path ≠ "") (hword : ∀ c ∈ path.toList, Text.isBlank c = false)
    (hslash : path.toList.getLast? ≠ some '/') :
    s.Prints faults name (.details path) output ↔
      ((contentAt? s.volumes sandbox.spec.volumes path.toList).elim "Cannot access file"
        fun content => entry (toString content.utf8ByteSize ++ " " ++ path)) = output := by
  rw [prints_iff (.details path) hfailing hcrashing hlive nofun
    (Line.ofText_details hne hword hslash), Line.output, String.ofList_toList]
  cases contentAt? s.volumes sandbox.spec.volumes path.toList <;> rfl

/-- What a platform stores is never what a read says where there is no file. -/
theorem State.FileAt.ne_noSuchFile (hs : s.Consistent faults) {content other : String}
    (h : s.FileAt name path content) : content ≠ noSuchFile other := by
  obtain ⟨volume, key, -, hcontent⟩ := h
  obtain ⟨files, hfiles, hkey⟩ := Option.bind_eq_some_iff.mp hcontent
  -- the two texts differ in their last character
  have hstored : content.toList.getLast? = some '\n' :=
    (hs.files volume files hfiles key content hkey).1
  have hsaid : (noSuchFile other).toList.getLast? = some 'y' := by
    have hend : "': No such file or directory".toList.getLast? = some 'y' := by decide
    unfold noSuchFile
    rw [String.toList_append, List.getLast?_append, hend, Option.some_or]
  rintro rfl
  cases hsaid.symm.trans hstored

/-- **The commands agree on a path** that is one word and does not end in a slash. -/
theorem speaksOf (hfailing : faults.failingExec = none) (hcrashing : faults.crashingExec = none)
    (hs : s.Consistent faults) (hlive : s.sandboxes[name]? = some ⟨sandbox, none⟩) (hne : path ≠ "")
    (hword : ∀ c ∈ path.toList, Text.isBlank c = false)
    (hslash : path.toList.getLast? ≠ some '/') : s.SpeaksOf faults name path := by
  have hexistence {output : String} :=
    prints_existence_iff output hfailing hcrashing hlive hne hword
  have hread {output : String} :=
    prints_read_iff path output hfailing hcrashing hlive
  have hdetails {output : String} :=
    prints_details_iff output hfailing hcrashing hlive hne hword hslash
  have hfile {content : String} := fileAt_iff hlive path content
  rcases hfound : contentAt? s.volumes sandbox.spec.volumes path.toList with _ | content
  · simp only [hfound] at hexistence hread hdetails hfile
    have hnone : ¬∃ content, s.FileAt name path content := fun ⟨content, h⟩ => nomatch hfile.mp h
    exact
      { existence_iff := iff_of_false (fun h => absurd (hexistence.mp h) (by decide)) hnone
        read_iff := iff_of_false hnone (not_not_intro (hread.mpr rfl))
        of_file := fun content h => absurd ⟨content, h⟩ hnone
        of_none := fun _ => ⟨hexistence.mpr rfl, hread.mpr rfl, hdetails.mpr rfl⟩ }
  · simp only [hfound] at hexistence hread hdetails hfile
    have hthere : s.FileAt name path content := hfile.mpr rfl
    exact
      { existence_iff := iff_of_true (hexistence.mpr rfl) ⟨content, hthere⟩
        read_iff := iff_of_true ⟨content, hthere⟩ fun h => hthere.ne_noSuchFile hs (hread.mp h)
        of_file := fun other h => by
          obtain rfl := Option.some.inj (hfile.mp h)
          exact ⟨hread.mpr rfl, hdetails.mpr rfl⟩
        of_none := fun h => absurd hthere (h content) }

end Path

/-! ### One directory -/

/-- **The names in a volume are determined**: there is one way to put them in ascending order. -/
theorem State.NamesIn.unique {volume : String} {names names' : List String}
    (h : s.NamesIn volume names) (h' : s.NamesIn volume names') : names = names' :=
  h.ascending.eq_of_mem_iff h'.ascending fun key => (h.mem_iff key).trans (h'.mem_iff key).symm

theorem namesIn_keys {volume : String} {files : Files} (h : s.volumes[volume]? = some files) :
    s.NamesIn volume files.keys where
  ascending := files.ordered_keys.imp fun hlt => compareOfLessAndEq_eq_lt.mp hlt
  mem_iff key := by
    rw [Std.ExtTreeMap.mem_keys, State.contentOf?, h, Option.bind_some,
      Std.ExtTreeMap.mem_iff_isSome_getElem?]

/-- The slashes at the end of a mount do not change the volume that is listed. -/
theorem volume_of_trimmed {bindings : List Binding} {mount : String} {volume key : String}
    (h : resolve? bindings (mount ++ "/").toList = some (volume, key)) :
    (resolve? bindings (Text.dropTrailing '/' mount.toList ++ ['/'])).map Prod.fst =
      some volume := by
  -- what was taken off the mount comes back as slashes after the one that was put there
  obtain ⟨n, hmount⟩ := Text.exists_eq_dropTrailing_append '/' mount.toList
  have hslashes : (mount ++ "/").toList =
      Text.dropTrailing '/' mount.toList ++ ['/'] ++ List.replicate n '/' := by
    calc (mount ++ "/").toList
        = Text.dropTrailing '/' mount.toList ++ (List.replicate n '/' ++ ['/']) := by
          rw [← List.append_assoc, ← hmount, String.toList_append]
          rfl
      _ = Text.dropTrailing '/' mount.toList ++ ['/'] ++ List.replicate n '/' := by
          rw [← List.replicate_succ', List.replicate_succ, List.append_assoc, List.singleton_append]
  rw [← volume_of_slashes bindings (by simp) n, ← hslashes, h]
  rfl

/-- **A listing shows the names in the volume** that the mount lies in. -/
theorem prints_listing (hfailing : faults.failingExec = none)
    (hcrashing : faults.crashingExec = none) {mount volume key : String} {files : Files}
    (hword : ∀ c ∈ mount.toList, Text.isBlank c = false)
    (hreach : s.Reaches name (mount ++ "/").toList volume key)
    (hfiles : s.volumes[volume]? = some files) :
    s.Prints faults name (.listing mount) (listingOf files.keys) := by
  obtain ⟨sandbox, hlive, hresolve⟩ := hreach
  obtain ⟨found, hfound, rfl⟩ := Option.map_eq_some_iff.mp (volume_of_trimmed hresolve)
  have hnames : namesAt? s.volumes sandbox.spec.volumes
      (Text.dropTrailing '/' mount.toList ++ ['/']) = some files.keys := by
    simp [namesAt?, hfound, hfiles]
  rw [prints_iff (.listing mount) hfailing hcrashing hlive nofun
    (Line.ofText_listing hword), Line.output, hnames]
  rfl

end Prints

/-! ### The law of inspection -/

/-- **What is said of files agrees with what is read of them**, on a platform in memory whose
commands are not told to fail, however it was set up and whatever calls were made. In a sandbox that
is in use, the commands agree on every path that is one word and does not end in a slash. A mount
that is one word and lies in a volume that exists is listed by the names in the volume, of which
there is one list only. And no command but a write changes anything. -/
theorem inspection_agrees_with_reading {faults : Faults} (hfailing : faults.failingExec = none)
    (hcrashing : faults.crashingExec = none) (existing : List String) (transientLookups : Nat)
    (cs : List Call) {name : String} {sandbox : Sandbox}
    (hlive : ((platform faults).after cs (.start existing transientLookups)).sandboxes[name]? =
      some ⟨sandbox, none⟩) :
    let s := (platform faults).after cs (.start existing transientLookups)
    (∀ path : String, path ≠ "" → (∀ c ∈ path.toList, Text.isBlank c = false) →
        path.toList.getLast? ≠ some '/' → s.SpeaksOf faults name path) ∧
      (∀ mount volume key : String, (∀ c ∈ mount.toList, Text.isBlank c = false) →
        s.Reaches name (mount ++ "/").toList volume key → volume ∈ s.volumes →
          (∃! names, s.NamesIn volume names) ∧
            ∀ names, s.NamesIn volume names →
              s.Prints faults name (.listing mount) (listingOf names)) ∧
      ∀ command : Command, (∀ content path, command ≠ .write content path) →
        (platform faults).next (.exec name command.text) s =
          s.recording (.exec name command.text) := by
  intro s
  have hs : s.Consistent faults :=
    consistent_after (consistent_start faults existing transientLookups) cs
  refine ⟨fun path hne hword hslash => speaksOf hfailing hcrashing hs hlive hne hword hslash,
    fun mount volume key hword hreach hvolume => ?_,
    fun command hread => next_of_not_write hcrashing hread s name⟩
  obtain ⟨files, hfiles⟩ := Option.isSome_iff_exists.mp
    (Std.ExtTreeMap.mem_iff_isSome_getElem?.mp hvolume)
  have hkeys := namesIn_keys hfiles
  refine ⟨⟨files.keys, hkeys, fun names hnames => hnames.unique hkeys⟩, fun names hnames => ?_⟩
  obtain rfl := hnames.unique hkeys
  exact prints_listing hfailing hcrashing hword hreach hfiles

/-- Two files that were written in descending order are listed in ascending order, under a mount
with any slashes at its end. -/
theorem inspection_agrees_with_reading_of_two_files :
    let p := platform {}
    let cs : List Call :=
      [.createVolume { metadata := { name := "volume" }, spec := {} },
        .createSandbox
          { metadata := { name := "box" }, spec := { volumes := [⟨"volume", "/m/", false⟩] } },
        .exec "box" (Command.write "b" "/m/b").text, .exec "box" (Command.write "ä" "/m/a").text]
    let s := p.after cs (.start [] 0)
    s.Reaches "box" "/m///".toList "volume" "" ∧ "volume" ∈ s.volumes ∧
      s.NamesIn "volume" ["a", "b"] ∧
      s.Prints {} "box" (.listing "/m//") (listingOf ["a", "b"]) ∧
      s.FileAt "box" "/m//a" "ä\n" ∧
      s.Prints {} "box" (.existence "/m//a") "File exists" ∧
      s.Prints {} "box" (.read "/m//a") "ä\n" ∧
      s.Prints {} "box" (.details "/m//a") "-rw-r--r-- 1 root root 3 /m//a" ∧
      p.next (.exec "box" (Command.read "/m//a").text) s =
        s.recording (.exec "box" (Command.read "/m//a").text) := by
  intro p cs s
  have hlive : s.sandboxes["box"]? = some ⟨_, none⟩ := rfl
  have hreach : s.Reaches "box" "/m///".toList "volume" "" := ⟨_, hlive, by decide⟩
  have hvolume : "volume" ∈ s.volumes := by decide
  obtain ⟨files, hfiles, hkeys⟩ :
      ∃ files : Files, s.volumes["volume"]? = some files ∧ files.keys = ["a", "b"] :=
    ⟨_, rfl, by decide⟩
  have hnames : s.NamesIn "volume" ["a", "b"] := hkeys ▸ namesIn_keys hfiles
  have hfile : s.FileAt "box" "/m//a" "ä\n" :=
    ⟨"volume", "a", ⟨_, hlive, by decide⟩, by decide⟩
  obtain ⟨hpath, hmount, hrecord⟩ :=
    @inspection_agrees_with_reading {} rfl rfl [] 0 cs _ _ hlive
  have hspeaks := hpath "/m//a" (by decide) (Text.isBlank_eq_false_of_any (by decide)) (by decide)
  have hlisted :=
    hmount "/m//" "volume" "" (Text.isBlank_eq_false_of_any (by decide)) hreach hvolume
  obtain ⟨hread, hdetails⟩ := hspeaks.of_file "ä\n" hfile
  exact ⟨hreach, hvolume, hnames, hlisted.2 _ hnames, hfile,
    hspeaks.existence_iff.mpr ⟨_, hfile⟩, hread, hdetails, hrecord _ nofun⟩

end Memory

end RemountCheck
