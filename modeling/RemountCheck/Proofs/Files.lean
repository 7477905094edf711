import RemountCheck.Proofs.Success
import RemountCheck.Proofs.Territory

/-!
# The files of a platform in memory

A file is written through one sandbox and read through another, and in between any calls may be
made. This module says what a write does, which calls disturb a file, and that a file which none
disturbed reads back as it was written, whatever the sandboxes are and wherever they mount its
volume.

* `RemountCheck.Memory.State.Reaches` – a path leads to a file in a sandbox that is in use;
* `RemountCheck.Memory.State.Writes` – a command writes to a file if it is run;
* `RemountCheck.Memory.exec_cases` – no other command changes a volume;
* `RemountCheck.Memory.VolumePassage` – what a call may do to what stands under the name of a
  volume, and `RemountCheck.Memory.volumePassage_next`, that it does nothing else;
* `RemountCheck.Memory.Disturbs` – a call writes to a file, or takes it away with its volume;
* `RemountCheck.Memory.contentOf?_next`, `RemountCheck.Memory.contentOf?_after` – what is not
  disturbed stays;
* `RemountCheck.Memory.read_after_write` – what was written is read.

A file is known by its volume and by its path below the mount point. A sandbox may mount a volume
several times, and one volume below another; which file a path leads to is then up to
`RemountCheck.Memory.resolve?`, and nothing here depends on how it decides.
-/

namespace RemountCheck

namespace Memory

/-! ### Files, paths and writes -/

/-- What a file holds, if there is one. -/
def State.contentOf? (s : State) (volume key : String) : Option String :=
  s.volumes[volume]?.bind (·[key]?)

/-- **A path leads to a file** in a sandbox that is in use. -/
def State.Reaches (s : State) (name : String) (path : List Char) (volume key : String) : Prop :=
  ∃ sandbox : Sandbox, s.sandboxes[name]? = some ⟨sandbox, none⟩ ∧
    resolve? sandbox.spec.volumes path = some (volume, key)

/-- **A command writes** a content to a file if it is run in a sandbox: it prints a word that means
the content, and redirects it to a path that leads to the file. -/
def State.Writes (s : State) (name command volume key content : String) : Prop :=
  ∃ word path : List Char,
    command.toList = "printf '%s\\n' ".toList ++ (word ++ (" > ".toList ++ path)) ∧
      Text.contains " > ".toList path = false ∧ ¬"> ".toList <+: path ∧
      Text.Quoted.decode? word = some content.toList ∧ s.Reaches name path volume key

/-- The volumes after a content and a newline were written to a file. A volume that does not exist
is not created. -/
def withLine (volumes : Volumes) (volume key content : String) : Volumes :=
  volumes.modify volume fun files => files.insert key (content ++ "\n")

section Line

variable {volumes : Volumes} {bindings : List Binding} {path : List Char}
  {volume key content : String}

theorem getElem?_withLine (volumes : Volumes) (volume key content other : String) :
    (withLine volumes volume key content)[other]? =
      if volume = other then volumes[other]?.map (·.insert key (content ++ "\n"))
      else volumes[other]? := by
  rw [withLine, Std.ExtTreeMap.getElem?_modify]
  by_cases hvolume : volume = other
  · subst hvolume
    simp
  · simp [hvolume]

/-- What is written to a path goes to the file that the path leads to. -/
theorem getD_written? (hresolve : resolve? bindings path = some (volume, key)) :
    (written? volumes bindings path content.toList).getD volumes =
      withLine volumes volume key content := by
  have hline : String.ofList (content.toList ++ ['\n']) = content ++ "\n" := by
    rw [String.ofList_append, String.ofList_toList]
  refine Std.ExtTreeMap.ext_getElem? fun other => ?_
  rw [getElem?_withLine, written?, hresolve]
  by_cases hvolume : volume = other
  · subst hvolume
    cases hfiles : volumes[volume]? with
    | none => simp [hfiles]
    | some files => simp [hfiles, hline]
  · cases hfiles : volumes[volume]? with
    | none => simp [hfiles, hvolume]
    | some files => simp [hfiles, Std.ExtTreeMap.getElem?_insert, hvolume]

/-- What a write leaves of the volumes, if its word means something. -/
theorem Line.run_write_eq {word decoded : List Char}
    (hword : Text.Quoted.decode? word = some decoded) :
    ((Line.write word path).run volumes bindings).2 =
      (written? volumes bindings path decoded).getD volumes := by
  simp only [Line.run, hword]
  cases written? volumes bindings path decoded <;> rfl

end Line

section Calls

variable {faults : Faults} {s : State} {name command volume key content : String}

/-- **A command that writes** leaves the file with what it writes, and all else as it was. -/
theorem exec_of_writes (hfailing : faults.failingExec = none)
    (h : s.Writes name command volume key content) :
    (exec faults name command s).2 =
      { s with volumes := withLine s.volumes volume key content } := by
  obtain ⟨word, path, hcommand, hinside, hstart, hword, sandbox, hlive, hresolve⟩ := h
  have hline : Line.ofText command.toList = .write word path :=
    Line.ofText_eq_write_iff.mpr ⟨hcommand, hinside, hstart⟩
  rw [exec_eq hfailing hlive rfl]
  dsimp only
  rw [hline, Line.run_write_eq hword, getD_written? hresolve]

/-- **A command changes nothing unless it writes.** -/
theorem exec_cases (faults : Faults) (name command : String) (s : State) :
    (exec faults name command s).2 = s ∨
      ∃ volume key content, s.Writes name command volume key content ∧
        (exec faults name command s).2 =
          { s with volumes := withLine s.volumes volume key content } := by
  cases hconcerns : concerns faults.failingExec command with
  | true => exact .inl (by rw [exec, if_pos hconcerns])
  | false =>
    rcases hresident : s.sandboxes[name]? with _ | ⟨sandbox, _ | left⟩
    · exact .inl (by simp [exec, hresident, hconcerns])
    · have hexec : (exec faults name command s).2 = { s with
          volumes := ((Line.ofText command.toList).run s.volumes sandbox.spec.volumes).2 } := by
        simp [exec, hresident, hconcerns]
      rw [hexec]
      by_cases hline : ∃ word path, Line.ofText command.toList = .write word path
      · obtain ⟨word, path, hline⟩ := hline
        rw [hline]
        cases hword : Text.Quoted.decode? word with
        | none => exact .inl (by simp only [Line.run, hword])
        | some decoded =>
          rw [Line.run_write_eq hword]
          cases hresolve : resolve? sandbox.spec.volumes path with
          | none => exact .inl (by simp [written?, hresolve])
          | some found =>
            obtain ⟨volume, key⟩ := found
            obtain ⟨hcommand, hinside, hstart⟩ := Line.ofText_eq_write_iff.mp hline
            refine .inr ⟨volume, key, .ofList decoded, ?_, ?_⟩
            · exact ⟨word, path, hcommand, hinside, hstart, by simpa using hword, sandbox, hresident,
                hresolve⟩
            · rw [← getD_written? hresolve, String.toList_ofList]
      · left
        rw [Line.run_eq_output fun word path hwrite => hline ⟨word, path, hwrite⟩]
    · exact .inl (by simp [exec, hresident, hconcerns])

/-- **Creating a volume** fails and changes nothing, or adds it where there was none. -/
theorem createVolume_cases (faults : Faults) (request : VolumeRequest) (s : State) :
    (createVolume faults request s).2 = s ∨
      s.volumes[request.name]? = none ∧ (createVolume faults request s).2 =
        { s with volumes := s.volumes.insert request.name ∅ } := by
  unfold createVolume
  split
  · exact .inl rfl
  · split
    · exact .inl rfl
    · rename_i hname
      exact .inr ⟨Std.ExtTreeMap.getElem?_eq_none hname, rfl⟩

/-- **Deleting a volume** fails and changes nothing, or takes it away. -/
theorem deleteVolume_cases (faults : Faults) (name : String) (s : State) :
    (deleteVolume faults name s).2 = s ∨
      (deleteVolume faults name s).1 = .ok () ∧ (deleteVolume faults name s).2 =
        { s with volumes := s.volumes.erase name } := by
  unfold deleteVolume
  split
  · exact .inl rfl
  · split
    · exact .inr ⟨rfl, rfl⟩
    · exact .inl rfl

theorem volumes_createSandbox (request : SandboxRequest) (s : State) :
    (createSandbox request s).2.volumes = s.volumes := by
  rcases createSandbox_cases request s with ⟨failure, heq⟩ | ⟨-, heq⟩ <;> rw [heq]

theorem volumes_getSandbox (faults : Faults) (name : String) (s : State) :
    (getSandbox faults name s).2.volumes = s.volumes := by
  rcases getSandbox_cases faults name s with
    ⟨pending, error, -, heq⟩ | ⟨-, ⟨-, heq⟩ | ⟨r, -, -, heq⟩ | ⟨r, -, -, -, heq⟩ |
      ⟨r, left, -, -, -, heq⟩⟩ <;> rw [heq]

/-! ### What a call does to a volume -/

/-- **What a call does to what stands under the name of a volume**, from before the call to after
it. -/
inductive VolumePassage (faults : Faults) (s : State) (name : String) (c : Call)
    (before after : Option Files) : Prop where
  /-- Nothing happens to it. -/
  | kept (h : after = before)
  /-- A volume is created. -/
  | created (request : VolumeRequest) (hc : c = .createVolume request)
    (hname : request.name = name) (hbefore : before = none) (hafter : after = some ∅)
  /-- The volume is deleted. -/
  | deleted (hc : c = .deleteVolume name)
    (hok : ((platform faults).reply (.deleteVolume name) s).1 = .ok (.ok ()))
    (hafter : after = none)
  /-- The volume is wiped, when a sandbox that mounts it is deleted. -/
  | wiped (mounting : String) (sandbox : Sandbox) (hc : c = .deleteSandbox mounting)
    (hvolatile : faults.volatile = true)
    (hok : ((platform faults).reply (.deleteSandbox mounting) s).1 = .ok (.ok ()))
    (hlive : s.sandboxes[mounting]? = some ⟨sandbox, none⟩)
    (hmounts : ∃ b ∈ sandbox.spec.volumes, b.volume = name)
    (hafter : after = before.map fun _ => ∅)
  /-- A file of the volume is written. -/
  | written (writer command key content : String) (hc : c = .exec writer command)
    (hwrites : s.Writes writer command name key content)
    (hafter : after = before.map (·.insert key (content ++ "\n")))

/-- **One step of a volume.** -/
theorem volumePassage_next (faults : Faults) (name : String) (s : State) (c : Call) :
    VolumePassage faults s name c s.volumes[name]? ((platform faults).next c s).volumes[name]? := by
  rw [next_eq]
  split
  · exact .kept rfl
  · cases c with
    | createVolume request =>
      rcases createVolume_cases faults request (s.recording (.createVolume request)) with
        heq | ⟨hfree, heq⟩ <;> rw [answer, heq]
      · exact .kept rfl
      · rcases eq_or_ne request.name name with rfl | hname
        · exact .created request rfl rfl hfree Std.ExtTreeMap.getElem?_insert_self
        · exact .kept (by simp [Std.ExtTreeMap.getElem?_insert, hname, State.recording])
    | deleteVolume other =>
      rcases deleteVolume_cases faults other (s.recording (.deleteVolume other)) with
        heq | ⟨hok, heq⟩ <;> rw [answer, heq]
      · exact .kept rfl
      · rcases eq_or_ne other name with rfl | hname
        · exact .deleted rfl (congrArg Except.ok hok) (by simp)
        · exact .kept (by simp [Std.ExtTreeMap.getElem?_erase, hname, State.recording])
    | createSandbox request => exact .kept (by rw [answer, volumes_createSandbox]; rfl)
    | getSandbox other => exact .kept (by rw [answer, volumes_getSandbox]; rfl)
    | deleteSandbox mounting =>
      rcases deleteSandbox_cases faults mounting (s.recording (.deleteSandbox mounting)) with
        ⟨failure, heq⟩ | ⟨r, left, -, -, heq⟩ | ⟨⟨sandbox, deleting⟩, hr, hlive, heq⟩
      · rw [answer, heq]
        exact .kept rfl
      · rw [answer, heq]
        exact .kept rfl
      · obtain rfl : deleting = none := hlive
        have hok : (deleteSandbox faults mounting (s.recording (.deleteSandbox mounting))).1 =
            .ok () := congrArg Prod.fst heq
        rw [answer, heq]
        by_cases hvolatile : faults.volatile = true
        · by_cases hmounted : name ∈ sandbox.spec.volumes.map (·.volume)
          · obtain ⟨b, hb, hname⟩ := List.mem_map.mp hmounted
            refine .wiped mounting sandbox rfl hvolatile (congrArg Except.ok hok) hr
              ⟨b, hb, hname⟩ ?_
            simp only [if_pos hvolatile, getElem?_foldl_wipe, if_pos hmounted]
            rfl
          · exact .kept (by simp only [if_pos hvolatile, getElem?_foldl_wipe, if_neg hmounted]; rfl)
        · exact .kept (by simp only [if_neg hvolatile]; rfl)
    | exec writer command =>
      rcases exec_cases faults writer command (s.recording (.exec writer command)) with
        heq | ⟨volume, key, content, hwrites, heq⟩ <;> rw [answer, heq]
      · exact .kept rfl
      · rcases eq_or_ne volume name with rfl | hname
        · exact .written writer command key content rfl hwrites
            (by rw [getElem?_withLine, if_pos rfl]; rfl)
        · exact .kept (by rw [getElem?_withLine, if_neg hname]; rfl)

/-! ### What disturbs a file -/

/-- **A call disturbs a file** in a state: it writes to the file, it deletes the volume, or it
deletes a sandbox in use that mounts the volume, and volumes are then wiped. -/
def Disturbs (faults : Faults) (s : State) (volume key : String) : Call → Prop
  | .exec name command => ∃ content, s.Writes name command volume key content
  | .deleteVolume name =>
    name = volume ∧ ((platform faults).reply (.deleteVolume name) s).1 = .ok (.ok ())
  | .deleteSandbox name =>
    faults.volatile = true ∧ ((platform faults).reply (.deleteSandbox name) s).1 = .ok (.ok ()) ∧
      ∃ sandbox : Sandbox, s.sandboxes[name]? = some ⟨sandbox, none⟩ ∧
        ∃ b ∈ sandbox.spec.volumes, b.volume = volume
  | _ => False

variable {c : Call} {text : String}

/-- **A call that does not disturb a file leaves it as it is.** -/
theorem contentOf?_next (h : s.contentOf? volume key = some text)
    (hc : ¬Disturbs faults s volume key c) :
    ((platform faults).next c s).contentOf? volume key = some text := by
  obtain ⟨files, hfiles, htext⟩ := Option.bind_eq_some_iff.mp h
  rcases volumePassage_next faults volume s c with hkept | ⟨request, -, -, hbefore, -⟩ |
    ⟨rfl, hok, -⟩ | ⟨mounting, sandbox, rfl, hvolatile, hok, hlive, hmounts, -⟩ |
    ⟨writer, command, other, content, rfl, hwrites, hafter⟩
  · rw [State.contentOf?, hkept]
    exact h
  · cases hbefore.symm.trans hfiles
  · exact absurd ⟨rfl, hok⟩ hc
  · exact absurd ⟨hvolatile, hok, sandbox, hlive, hmounts⟩ hc
  · have hkey : other ≠ key := fun hkey => hc ⟨content, hkey ▸ hwrites⟩
    rw [State.contentOf?, hafter, hfiles]
    simpa [Std.ExtTreeMap.getElem?_insert, hkey] using htext

/-- **A file that no call disturbs stays as it is**, each call being judged in the state in which it
is made. -/
theorem contentOf?_after {cs : List Call} (h : s.contentOf? volume key = some text)
    (hcs : ∀ pre c post, cs = pre ++ c :: post →
      ¬Disturbs faults ((platform faults).after pre s) volume key c) :
    ((platform faults).after cs s).contentOf? volume key = some text := by
  induction cs generalizing s with
  | nil => exact h
  | cons c cs ih =>
    have hfirst : ¬Disturbs faults s volume key c := hcs [] c cs rfl
    refine ih (contentOf?_next h hfirst) fun pre d post heq => ?_
    exact hcs (c :: pre) d post (by rw [heq, List.cons_append])

/-! ### Reading what was written -/

/-- **A read prints what the file holds** that its path leads to. -/
theorem reply_read {path : String} (hfailing : faults.failingExec = none)
    (hcrashing : faults.crashingExec = none) (hpath : s.Reaches name path.toList volume key)
    (h : s.contentOf? volume key = some text) :
    ((platform faults).reply (.exec name (Command.read path).text) s).1 =
      .ok (.ok (.structured
        { logs := some text, exitCode := some 0, status := some "completed" })) := by
  obtain ⟨sandbox, hlive, hresolve⟩ := hpath
  have hprinted : contentAt? s.volumes sandbox.spec.volumes path.toList = some text := by
    rw [contentAt?, hresolve]
    exact h
  have hrun : ((Line.read path.toList).run s.volumes sandbox.spec.volumes).1 = text := by
    simp [Line.run, Line.output, hprinted]
  rw [reply_exec hfailing hcrashing hlive rfl, Line.ofText_read, hrun]

/-- A write of a check is a write to the file that its path leads to. -/
theorem writes_text {path : String}
    (hinside : Text.contains " > ".toList path.toList = false)
    (hstart : ¬"> ".toList <+: path.toList) (hpath : s.Reaches name path.toList volume key) :
    s.Writes name (Command.write content path).text volume key content := by
  obtain ⟨hcommand, -⟩ := Line.ofText_eq_write_iff.mp (Line.ofText_write hinside hstart content)
  exact ⟨_, path.toList, hcommand, hinside, hstart, Text.Quoted.decode?_encode content.toList,
    hpath⟩

variable (faults) in
/-- **What was written is read**, on a platform in memory whose commands are not told to fail, in
any state, through any sandboxes and mounts. If a path that holds no redirection leads to a file of
a volume that exists, a write to it puts the content and a newline into this file and changes
nothing else. Whatever calls follow, as long as none disturbs the file, a read of a path that
leads to it prints just that. And no command but such a write changes a volume. -/
theorem read_after_write (hfailing : faults.failingExec = none)
    (hcrashing : faults.crashingExec = none) (s : State) (content : String) {path : String}
    (hinside : Text.contains " > ".toList path.toList = false) (hstart : ¬"> ".toList <+: path.toList)
    (hpath : s.Reaches name path.toList volume key) (hvolume : volume ∈ s.volumes) :
    let p := platform faults
    let write := Call.exec name (Command.write content path).text
    let after := p.next write s
    after = { s with
        volumes := withLine s.volumes volume key content
        record := s.record ++ [write] } ∧
      after.contentOf? volume key = some (content ++ "\n") ∧
      (∀ cs, (∀ pre c post, cs = pre ++ c :: post →
          ¬Disturbs faults (p.after pre after) volume key c) →
        ∀ reader readPath, (p.after cs after).Reaches reader readPath.toList volume key →
          (p.reply (.exec reader (Command.read readPath).text) (p.after cs after)).1 =
              .ok (.ok (.structured
                { logs := some (content ++ "\n"), exitCode := some 0, status := some "completed" })) ∧
            writtenContent (content ++ "\n") = content) ∧
      ∀ (t : State) (other command : String),
        (p.next (.exec other command) t).volumes ≠ t.volumes →
          ∃ volume key content, t.Writes other command volume key content ∧
            (p.next (.exec other command) t).volumes = withLine t.volumes volume key content := by
  intro p write after
  have hafter : after = { s with
      volumes := withLine s.volumes volume key content
      record := s.record ++ [write] } := by
    have hnone : crash? faults write = none := by simp [write, crash?, concerns, hcrashing]
    have hwrites : (s.recording write).Writes name (Command.write content path).text volume key
        content := writes_text hinside hstart hpath
    change (platform faults).next write s = _
    rw [next_eq, hnone]
    exact exec_of_writes hfailing hwrites
  have hcontent : after.contentOf? volume key = some (content ++ "\n") := by
    obtain ⟨files, hfiles⟩ := Option.isSome_iff_exists.mp
      (Std.ExtTreeMap.mem_iff_isSome_getElem?.mp hvolume)
    rw [hafter, State.contentOf?, getElem?_withLine, if_pos rfl, hfiles]
    simp
  refine ⟨hafter, hcontent, fun cs hcs reader readPath hread => ⟨?_, ?_⟩, ?_⟩
  · exact reply_read hfailing hcrashing hread (contentOf?_after hcontent hcs)
  · have hline := writtenContent_append_newline content
    rwa [String.ofList_append, String.ofList_toList] at hline
  · intro t other command hchanged
    rw [next_eq] at hchanged ⊢
    split at hchanged
    · exact absurd rfl hchanged
    · rename_i hnone
      rw [if_neg hnone]
      rcases exec_cases faults other command (t.recording (.exec other command)) with
        heq | ⟨volume, key, content, hwrites, heq⟩
      · rw [answer, heq] at hchanged
        exact absurd rfl hchanged
      · exact ⟨volume, key, content, hwrites, congrArg State.volumes heq⟩

/-- The reader may mount the volume below another, and the writer and the other volume may be gone
when it reads. -/
theorem read_after_write_below_another_mount :
    let p := platform { deletionLag := 1 }
    let s := p.after
      [.createVolume { metadata := { name := "inner" }, spec := {} },
        .createVolume { metadata := { name := "outer" }, spec := {} },
        .createSandbox
          { metadata := { name := "writer" }, spec := { volumes := [⟨"inner", "/a/", false⟩] } },
        .createSandbox
          { metadata := { name := "reader" }
            spec := { volumes := [⟨"outer", "/b", false⟩, ⟨"inner", "/b/c", false⟩] } }]
      (.start [] 0)
    let after := p.next (.exec "writer" (Command.write "it's" "/a//x").text) s
    let later := p.after [.deleteSandbox "writer", .deleteVolume "outer"] after
    Text.contains " > ".toList "/a//x".toList = false ∧ ¬"> ".toList <+: "/a//x".toList ∧
      s.Reaches "writer" "/a//x".toList "inner" "x" ∧ "inner" ∈ s.volumes ∧
      later.Reaches "reader" "/b/c/x".toList "inner" "x" ∧
      (p.reply (.exec "reader" (Command.read "/b/c/x").text) later).1 =
        .ok (.ok (.structured
          { logs := some "it's\n", exitCode := some 0, status := some "completed" })) := by
  intro p s after later
  have hinside : Text.contains " > ".toList "/a//x".toList = false := by decide
  have hstart : ¬"> ".toList <+: "/a//x".toList := by decide
  have hwriter : s.Reaches "writer" "/a//x".toList "inner" "x" := ⟨_, rfl, by decide⟩
  have hvolume : "inner" ∈ s.volumes := by decide
  have hreader : later.Reaches "reader" "/b/c/x".toList "inner" "x" := ⟨_, rfl, by decide⟩
  obtain ⟨-, -, hread, -⟩ := read_after_write { deletionLag := 1 } rfl rfl s "it's" hinside hstart
    hwriter hvolume
  refine ⟨hinside, hstart, hwriter, hvolume, hreader, (hread _ ?_ "reader" "/b/c/x" hreader).1⟩
  intro pre c post heq hc
  -- nothing is wiped, and the volume that is deleted is another one
  rcases pre with _ | ⟨d, _ | ⟨e, pre⟩⟩
  · obtain ⟨rfl, -⟩ := List.cons.inj heq
    exact Bool.false_ne_true hc.1
  · obtain ⟨-, heq⟩ := List.cons.inj heq
    obtain ⟨rfl, -⟩ := List.cons.inj heq
    exact absurd hc.1 (by decide)
  · simp at heq

end Calls

end Memory

end RemountCheck
