import Mathlib.Data.List.Nodup
import Mathlib.Logic.Function.Basic
import RemountCheck.Program.CommandLine

/-!
# What arguments make a command line

A command line can be written in many ways: its options come in any order, those that have their
usual values may be left out, and a value stands behind its option or is joined to it by an equals
sign. All of them are read back as the line that they write, and a line that is spoiled in one place
is refused.

The reading keeps a value **pending** until the next option, so that one argument is not accepted
where it is read. What makes this harmless is that a pending value is always accepted before
anything else is. Reading options and then settling is settling and then accepting them one after
the other (`RemountCheck.CommandLine.foldlM_give_bind_settle`), and that is a loop over the options
which forgets how they were spelled.

* `RemountCheck.CommandLine.Numeral` – the decimal numerals of a number;
* `RemountCheck.CommandLine.Setting` – what an option is set to, and how that is written;
* `RemountCheck.CommandLine.Item`, `RemountCheck.CommandLine.argumentsOf` – an option as it is
  given, and the arguments that give some options;
* `RemountCheck.CommandLine.Gives` – the options that give a line;
* `RemountCheck.CommandLine.Refused` – a line is not run, and not for want of help;
* `RemountCheck.CommandLine.arguments_round_trip` – the round trip, and what breaks it.

| a line that gives an option | is refused |
|---|---|
| twice | when the second is accepted |
| with a number outside of its range | when the number is accepted |
| with a value of its own that begins with a dash | when the value is read, as another argument |
-/

namespace RemountCheck

namespace CommandLine

/-! ### Numerals -/

/-- **A decimal numeral** of a number: digits, at least one, perhaps with zeros in front. -/
structure Numeral (text : String) (n : Nat) : Prop where
  ne_empty : text ≠ ""
  digits : ∀ c ∈ text.toList, c.isDigit = true
  value : Nat.ofDigitChars 10 text.toList 0 = n

section Numeral

variable {text : String} {n : Nat}

/-- A number in its usual form is a numeral of itself. -/
theorem numeral_toString (n : Nat) : Numeral (toString n) n where
  ne_empty h := by
    have hdigits := congrArg String.toList h
    rw [Nat.toString_eq_repr, Nat.toList_repr] at hdigits
    exact Nat.toDigits_ne_nil hdigits
  digits c hc := by
    rw [Nat.toString_eq_repr, Nat.toList_repr] at hc
    exact Nat.isDigit_of_mem_toDigits (by decide) (by decide) hc
  value := by
    rw [Nat.toString_eq_repr, Nat.toList_repr]
    exact Nat.ofDigitChars_toDigits (by decide) (by decide)

theorem digit?_of_isDigit {c : Char} (h : c.isDigit = true) :
    Text.digit? c = some (c.toNat - '0'.toNat) := by
  rw [Text.digit?, if_pos]
  simpa [Char.isDigit, Char.le_def] using h

/-- Digits are read with the value that they have. -/
theorem digitsValue?_of_digits {s : List Char} (h : ∀ c ∈ s, c.isDigit = true) (before : Nat) :
    digitsValue? before s = some (Nat.ofDigitChars 10 s before) := by
  induction s generalizing before with
  | nil => rfl
  | cons c s ih =>
    obtain ⟨hc, hs⟩ := List.forall_mem_cons.mp h
    rw [digitsValue?, digit?_of_isDigit hc, Option.bind_some, ih hs, Nat.mul_comm before 10]
    rfl

theorem Numeral.digitsValue?_eq (h : Numeral text n) : digitsValue? 0 text.toList = some n := by
  rw [digitsValue?_of_digits h.digits, h.value]

/-- A numeral begins with a digit. -/
theorem Numeral.exists_cons (h : Numeral text n) :
    ∃ c s, text.toList = c :: s ∧ c.isDigit = true := by
  obtain ⟨c, s, hcs⟩ := List.exists_cons_of_ne_nil (mt String.toList_eq_nil_iff.mp h.ne_empty)
  exact ⟨c, s, hcs, h.digits c (by simp [hcs])⟩

theorem Numeral.head?_ne (h : Numeral text n) : text.toList.head? ≠ some '-' := by
  obtain ⟨c, s, hcs, hc⟩ := h.exists_cons
  rw [hcs, List.head?_cons]
  rintro ⟨⟩
  exact absurd hc (by decide)

theorem Numeral.natural?_eq (h : Numeral text n) : natural? text.toList = some n := by
  obtain ⟨c, s, hcs, hc⟩ := h.exists_cons
  have hvalue := h.digitsValue?_eq
  rw [hcs] at hvalue ⊢
  have hplus : c ≠ '+' := fun heq => absurd (heq ▸ hc) (by decide)
  unfold natural?
  split <;> simp_all

theorem Numeral.unsigned?_eq (h : Numeral text n) : unsigned? text.toList = some n := by
  obtain ⟨c, s, hcs, hc⟩ := h.exists_cons
  have hvalue := h.natural?_eq
  rw [hcs] at hvalue ⊢
  have hminus : c ≠ '-' := fun heq => absurd (heq ▸ hc) (by decide)
  unfold unsigned?
  split <;> simp_all

/-- A minus sign before a number that is not zero makes it no number here. -/
theorem Numeral.unsigned?_minus (h : Numeral text n) (hn : n ≠ 0) :
    unsigned? ('-' :: text.toList) = none := by
  obtain ⟨c, s, hcs, -⟩ := h.exists_cons
  have hvalue := h.digitsValue?_eq
  rw [hcs] at hvalue ⊢
  simp [unsigned?, hvalue, hn]

theorem Numeral.word32?_eq (h : Numeral text n) (least : Nat) :
    word32? least text = if least ≤ n ∧ n < UInt32.size then some (UInt32.ofNat n) else none := by
  rw [word32?, h.unsigned?_eq, Option.filter_some]
  split <;> simp_all

theorem Numeral.word32?_minus (h : Numeral text n) (hn : n ≠ 0) (least : Nat) :
    word32? least ("-" ++ text) = none := by
  rw [word32?, String.toList_append]
  change (Option.filter _ (unsigned? ('-' :: text.toList))).map _ = none
  rw [h.unsigned?_minus hn]
  rfl

theorem Numeral.word64?_eq (h : Numeral text n) :
    word64? text = if n < UInt64.size then some (UInt64.ofNat n) else none := by
  rw [word64?, h.natural?_eq, Option.filter_some]
  split <;> simp_all

theorem word64?_minus (text : String) : word64? ("-" ++ text) = none := by
  rw [word64?, String.toList_append]
  rfl

end Numeral

/-! ### What an option is set to -/

/-- **What an option is set to**: a number, on or off, or a region if there is one. -/
inductive Setting where
  | number (n : Nat)
  | switch (on : Bool)
  | place (region : Option String)

/-- What a line sets an option to. -/
def setting (line : CommandLine) : Flag → Setting
  | .maxAttempts => .number line.maxAttempts.toNat
  | .pauseMs => .number line.pauseMs.toNat
  | .uniqueNames => .switch line.uniqueNames
  | .strictLookup => .switch line.strictLookup
  | .region => .place line.region
  | .memory => .number line.memory.toNat
  | .volumeSize => .number line.volumeSize.toNat

/-- A line with one option set to what another line has. -/
def copying (base line : CommandLine) : Flag → CommandLine
  | .maxAttempts => { base with maxAttempts := line.maxAttempts }
  | .pauseMs => { base with pauseMs := line.pauseMs }
  | .uniqueNames => { base with uniqueNames := line.uniqueNames }
  | .strictLookup => { base with strictLookup := line.strictLookup }
  | .region => { base with region := line.region }
  | .memory => { base with memory := line.memory }
  | .volumeSize => { base with volumeSize := line.volumeSize }

/-- **A setting is written** by giving its option with a text: a number by a numeral, a region as it
stands, and what is on by nothing more than the option. What is off, and a region that is absent,
cannot be written. -/
def Setting.WrittenAs : Setting → String → Prop
  | number n, text => Numeral text n
  | switch on, _ => on = true
  | place region, text => region = some text

/-- The least number that an option takes, and the least that is too large, if it takes any. -/
def Flag.range? : Flag → Option (Nat × Nat)
  | .maxAttempts => some (1, UInt32.size)
  | .pauseMs => some (0, UInt64.size)
  | .memory => some (0, UInt32.size)
  | .volumeSize => some (0, UInt32.size)
  | _ => none

/-- **A number outside of an option's range**: too small, too large, or negative. -/
inductive OutOfRange (flag : Flag) : String → Prop where
  | tooSmall {text : String} {n least bound : Nat} (hrange : flag.range? = some (least, bound))
    (h : Numeral text n) (hn : n < least) : OutOfRange flag text
  | tooLarge {text : String} {n least bound : Nat} (hrange : flag.range? = some (least, bound))
    (h : Numeral text n) (hn : bound ≤ n) : OutOfRange flag text
  | negative {text : String} {n least bound : Nat} (hrange : flag.range? = some (least, bound))
    (h : Numeral text n) (hn : n ≠ 0) : OutOfRange flag ("-" ++ text)

section Setting

variable {line base : CommandLine} {flag : Flag} {text : String}

/-- A line is what its options are set to. -/
theorem eq_of_setting_eq {line' : CommandLine} (h : line.setting = line'.setting) :
    line = line' := by
  have hflag (flag : Flag) : line.setting flag = line'.setting flag := congrFun h flag
  obtain ⟨hattempts, hpause⟩ := And.intro (hflag .maxAttempts) (hflag .pauseMs)
  obtain ⟨hunique, hstrict⟩ := And.intro (hflag .uniqueNames) (hflag .strictLookup)
  obtain ⟨hmemory, hsize⟩ := And.intro (hflag .memory) (hflag .volumeSize)
  have hregion := hflag .region
  cases line
  cases line'
  simp_all [setting, UInt32.toNat_inj, UInt64.toNat_inj]

theorem Numeral.word32?_toNat {n : UInt32} (h : Numeral text n.toNat) {least : Nat}
    (hleast : least ≤ n.toNat) : word32? least text = some n := by
  rw [h.word32?_eq, if_pos ⟨hleast, n.toNat_lt_size⟩, UInt32.ofNat_toNat]

theorem Numeral.word64?_toNat {n : UInt64} (h : Numeral text n.toNat) : word64? text = some n := by
  rw [h.word64?_eq, if_pos n.toNat_lt_size, UInt64.ofNat_toNat]

theorem setting_copying (base line : CommandLine) (flag : Flag) :
    (base.copying line flag).setting = Function.update base.setting flag (line.setting flag) := by
  funext other
  cases flag <;> cases other <;> rfl

/-- **An option that is given as a line has it** is set to that. -/
theorem set?_of_writtenAs (hattempts : 1 ≤ line.maxAttempts.toNat)
    (h : (line.setting flag).WrittenAs text) (base : CommandLine) :
    base.set? flag text = some (base.copying line flag) := by
  cases flag with
  | maxAttempts => rw [set?, h.word32?_toNat hattempts, Option.map_some, copying]
  | pauseMs => rw [set?, h.word64?_toNat, Option.map_some, copying]
  | uniqueNames => rw [set?, copying, show line.uniqueNames = true from h]
  | strictLookup => rw [set?, copying, show line.strictLookup = true from h]
  | region => rw [set?, copying, show line.region = some text from h]
  | memory | volumeSize =>
    rw [set?, h.word32?_toNat (Nat.zero_le _), Option.map_some, copying]

/-- Only an option with a value has a range. -/
theorem OutOfRange.takesValue (h : OutOfRange flag text) : flag.takesValue = true := by
  cases h with
  | tooSmall hrange | tooLarge hrange | negative hrange =>
    cases flag with
    | uniqueNames | strictLookup => cases hrange
    | _ => rfl

/-- **A number outside of its option's range is not accepted.** -/
theorem set?_of_outOfRange (h : OutOfRange flag text) (base : CommandLine) :
    base.set? flag text = none := by
  cases h with
  | tooSmall hrange h hn | tooLarge hrange h hn =>
    cases flag with
    | maxAttempts | memory | volumeSize =>
      cases hrange
      rw [set?, h.word32?_eq, if_neg (by omega), Option.map_none]
    | pauseMs =>
      cases hrange
      rw [set?, h.word64?_eq, if_neg (by omega), Option.map_none]
    | uniqueNames | strictLookup | region => cases hrange
  | negative hrange h hn =>
    cases flag with
    | maxAttempts | memory | volumeSize => rw [set?, h.word32?_minus hn, Option.map_none]
    | pauseMs => rw [set?, word64?_minus, Option.map_none]
    | uniqueNames | strictLookup | region => cases hrange

end Setting

/-! ### Arguments -/

/-- A long argument: two dashes and a name, and perhaps a value after an equals sign. -/
def longArgument (name : String) : Option String → String
  | none => "--" ++ name
  | some value => "--" ++ name ++ "=" ++ value

/-- **An option as it is given**: with the text of its value, which is joined to it or stands in an
argument of its own. An option that takes no value is given without. -/
structure Item where
  flag : Flag
  text : String := ""
  joined : Bool := false

/-- The arguments that give an option. -/
def Item.arguments (item : Item) : List String :=
  if item.flag.takesValue then
    if item.joined then [longArgument item.flag.name (some item.text)]
    else [longArgument item.flag.name none, item.text]
  else [longArgument item.flag.name none]

/-- **The arguments that give some options**, in their order. -/
def argumentsOf (items : List Item) : List String := items.flatMap Item.arguments

/-- **Some options give a line**: none is given twice, each is given as the line has it, and those
that are left out have their usual values. -/
structure Gives (items : List Item) (line : CommandLine) : Prop where
  once : (items.map (·.flag)).Nodup
  written : ∀ item ∈ items, (line.setting item.flag).WrittenAs item.text
  usual : ∀ flag, flag ∉ items.map (·.flag) → line.setting flag = setting {} flag

/-- **A stray argument**: one that does not begin with a dash or is nothing else, or one with a name
that no option has. -/
inductive Stray : String → Prop where
  | positional {text : String} (h : text.toList.head? ≠ some '-') : Stray text
  | dash : Stray "-"
  | unknown {name : String} (value : Option String) (hname : name ∉ Flag.all.map Flag.name)
    (hhelp : name ≠ "help") (hempty : name ≠ "") (hequals : '=' ∉ name.toList) :
    Stray (longArgument name value)

section Shape

theorem splitEquals_of_notMem {s : List Char} (h : '=' ∉ s) : splitEquals s = (s, none) := by
  induction s with
  | nil => rfl
  | cons c s ih =>
    obtain ⟨hc, hs⟩ := not_or.mp (mt List.mem_cons.mpr h)
    rw [splitEquals, ih hs]
    exact Ne.symm hc

theorem splitEquals_append {s : List Char} (h : '=' ∉ s) (rest : List Char) :
    splitEquals (s ++ '=' :: rest) = (s, some rest) := by
  induction s with
  | nil => rfl
  | cons c s ih =>
    obtain ⟨hc, hs⟩ := not_or.mp (mt List.mem_cons.mpr h)
    rw [List.cons_append, splitEquals, ih hs]
    exact Ne.symm hc

/-- **A long argument has the shape of one**, with its name and its value. -/
theorem ofString_longArgument {name : String} (hempty : name ≠ "") (hequals : '=' ∉ name.toList)
    (value : Option String) :
    Argument.ofString (longArgument name value) = .long name value := by
  obtain ⟨c, s, hcs⟩ := List.exists_cons_of_ne_nil (mt String.toList_eq_nil_iff.mp hempty)
  cases value with
  | none =>
    have htext : (longArgument name none).toList = '-' :: '-' :: name.toList := by
      simp [longArgument]
    rw [Argument.ofString, htext, hcs]
    simp only
    rw [← hcs, splitEquals_of_notMem hequals]
    simp
  | some value =>
    have htext : (longArgument name (some value)).toList =
        '-' :: '-' :: (name.toList ++ '=' :: value.toList) := by
      simp [longArgument]
    rw [Argument.ofString, htext, hcs, List.cons_append]
    simp only
    rw [← List.cons_append, ← hcs, splitEquals_append hequals]
    simp

theorem ofString_of_head?_ne {text : String} (h : text.toList.head? ≠ some '-') :
    Argument.ofString text = .plain text := by
  rw [Argument.ofString]
  split <;> simp_all

/-- An argument that is no more than a text is that text. -/
theorem eq_of_ofString_eq_plain {text other : String}
    (h : Argument.ofString text = .plain other) : other = text := by
  rw [Argument.ofString] at h
  split at h <;> simp_all

namespace Flag

theorem name_ne_empty (flag : Flag) : flag.name ≠ "" := by
  cases flag <;> decide

theorem equals_notMem_name (flag : Flag) : '=' ∉ flag.name.toList := by
  cases flag <;> decide

theorem name_ne_help (flag : Flag) : flag.name ≠ "help" := by
  cases flag <;> decide

/-- An option is found by its name. -/
theorem ofName?_name (flag : Flag) : ofName? flag.name = some flag := by
  cases flag <;> decide

theorem ofName?_eq_none {name : String} (h : name ∉ all.map Flag.name) : ofName? name = none := by
  rw [ofName?, List.find?_eq_none]
  intro flag hflag
  simpa using fun heq => h (List.mem_map.mpr ⟨flag, hflag, heq⟩)

end Flag

end Shape

/-! ### What is refused -/

/-- **A line is refused**: it is not run, and the exit code says that something is wrong with it. -/
def Refused {α : Type} (x : Except Rejection α) : Prop :=
  ∃ rejection : Rejection, x = .error rejection ∧ rejection.exitCode = 2

/-- Help is not asked for: what is not read is refused. -/
def Strict {α : Type} (x : Except Rejection α) : Prop :=
  ∀ rejection : Rejection, x = .error rejection → rejection.exitCode = 2

section Refused

variable {α β : Type} {x : Except Rejection α} {f : α → Except Rejection β}

theorem Refused.strict (h : Refused x) : Strict x := by
  obtain ⟨rejection, rfl, hcode⟩ := h
  rintro other heq
  obtain rfl := Except.error.inj heq
  exact hcode

theorem strict_ok (a : α) : Strict (.ok a : Except Rejection α) := nofun

/-- What is neither read nor a request for help is refused. -/
theorem Strict.refused (h : Strict x) (hx : ∀ a, x ≠ .ok a) : Refused x := by
  cases x with
  | ok a => exact absurd rfl (hx a)
  | error rejection => exact ⟨rejection, rfl, h rejection rfl⟩

theorem Strict.bind (h : Strict x) (hf : ∀ a, x = .ok a → Strict (f a)) : Strict (x.bind f) := by
  cases x with
  | ok a => exact hf a rfl
  | error rejection => exact fun other heq => h other (congrArg _ (Except.error.inj heq))

/-- What follows does not matter once something is refused. -/
theorem Refused.bind (h : Refused x) (f : α → Except Rejection β) : Refused (x.bind f) := by
  obtain ⟨rejection, rfl, hcode⟩ := h
  exact ⟨rejection, rfl, hcode⟩

/-- What is refused wherever it follows is refused, unless something is before. -/
theorem Strict.refused_bind (h : Strict x) (hf : ∀ a, x = .ok a → Refused (f a)) :
    Refused (x.bind f) := by
  cases x with
  | ok a => exact hf a rfl
  | error rejection => exact ⟨rejection, rfl, h rejection rfl⟩

end Refused

/-! ### Accepting and settling -/

namespace Progress

variable {p q : Progress} {flag : Flag} {text : String}

theorem strict_accept (p : Progress) (flag : Flag) (text : String) :
    Strict (p.accept flag text) := by
  rw [accept]
  split
  · exact Refused.strict ⟨_, rfl, rfl⟩
  · split
    · exact strict_ok _
    · exact Refused.strict ⟨_, rfl, rfl⟩

/-- **What is accepted** is given for the first time, with a value that sets the option. -/
theorem accept_eq_ok_iff :
    p.accept flag text = .ok q ↔ flag ∉ p.given ∧ ∃ line,
      p.line.set? flag text = some line ∧ { p with line, given := flag :: p.given } = q := by
  rw [accept]
  split
  · simp_all
  · cases hset : p.line.set? flag text <;> simp_all

theorem strict_settle (p : Progress) : Strict p.settle := by
  rw [settle]
  split
  · exact strict_ok _
  · exact Refused.strict ⟨_, rfl, rfl⟩
  · exact strict_accept _ _ _

theorem settle_of_pending_none (h : p.pending = none) : p.settle = .ok p := by
  rw [settle, h]

/-- Nothing is pending any more once it is settled. -/
theorem pending_of_settle (h : p.settle = .ok q) : q.pending = none := by
  rw [settle] at h
  split at h
  · obtain rfl := Except.ok.inj h
    assumption
  · cases h
  · obtain ⟨-, line, -, rfl⟩ := accept_eq_ok_iff.mp h
    rfl

/-- An option that waits for its value cannot be settled. -/
theorem settle_of_pending_bare (h : p.pending = some (flag, none)) :
    p.settle = .error .missingValue := by
  rw [settle, h]

/-- No option waits for its value: the next argument is not taken for one. -/
def IsWhole (p : Progress) : Prop := ∀ flag, p.pending ≠ some (flag, none)

end Progress

/-! ### Reading an option -/

section Reading

variable {p q : Progress} {item : Item} {rest : List String}

/-- The value of an option. -/
def Item.value (item : Item) : String := if item.flag.takesValue then item.text else ""

/-- **An option is given plainly** if a value that stands alone is not taken for another option. -/
def Item.IsPlain (item : Item) : Prop :=
  item.flag.takesValue = true → item.joined = false → Argument.ofString item.text = .plain item.text

/-- Accepts an option as it is given. -/
def Progress.acceptItem (p : Progress) (item : Item) : Except Rejection Progress :=
  p.accept item.flag item.value

/-- **What reading an option does**: what is pending is settled, and then a value that stands alone
is kept pending, and any other option is accepted at once. -/
def Progress.give (p : Progress) (item : Item) : Except Rejection Progress :=
  p.settle.bind fun p =>
    if item.flag.takesValue ∧ item.joined = false then
      .ok { p with pending := some (item.flag, some item.text) }
    else p.acceptItem item

theorem parseFrom_cons {text : String} {argument : Argument}
    (h : Argument.ofString text = argument) (hend : argument ≠ .endOfOptions) :
    parseFrom p (text :: rest) = (p.read argument).bind fun p => parseFrom p rest := by
  subst h
  rw [parseFrom]
  split
  · exact absurd ‹_› hend
  · rfl

theorem ofString_optionArgument (flag : Flag) (value : Option String) :
    Argument.ofString (longArgument flag.name value) = .long flag.name value :=
  ofString_longArgument flag.name_ne_empty flag.equals_notMem_name value

/-- The name of an option that takes a value makes it wait for one. -/
theorem parseFrom_bare {flag : Flag} (hflag : flag.takesValue = true) :
    parseFrom p (longArgument flag.name none :: rest) =
      p.settle.bind fun p => parseFrom { p with pending := some (flag, none) } rest := by
  rw [parseFrom_cons (ofString_optionArgument flag none) nofun]
  simp only [Progress.read, flag.name_ne_help, if_false, flag.ofName?_name, hflag]
  cases p.settle <;> rfl

/-- **One option is read.** -/
theorem parseFrom_item (h : item.IsPlain) (p : Progress) (rest : List String) :
    parseFrom p (item.arguments ++ rest) = (p.give item).bind fun p => parseFrom p rest := by
  rcases hflag : item.flag.takesValue with _ | _
  · -- a flag is accepted as it is read
    have harguments : item.arguments = [longArgument item.flag.name none] := by
      simp [Item.arguments, hflag]
    rw [harguments, List.singleton_append,
      parseFrom_cons (ofString_optionArgument item.flag none) nofun]
    simp only [Progress.read, item.flag.name_ne_help, if_false, item.flag.ofName?_name, hflag,
      Progress.give, Progress.acceptItem, Item.value]
    simp
  · rcases hjoined : item.joined with _ | _
    · -- the value stands in the next argument, and waits there
      have harguments : item.arguments = [longArgument item.flag.name none, item.text] := by
        simp [Item.arguments, hflag, hjoined]
      rw [harguments, List.cons_append, parseFrom_bare hflag, List.singleton_append]
      simp only [parseFrom_cons (h hflag hjoined) nofun, Progress.read, Progress.give, hflag,
        hjoined]
      cases p.settle <;> rfl
    · have harguments : item.arguments = [longArgument item.flag.name (some item.text)] := by
        simp [Item.arguments, hflag, hjoined]
      rw [harguments, List.singleton_append,
        parseFrom_cons (ofString_optionArgument item.flag _) nofun]
      simp only [Progress.read, item.flag.name_ne_help, if_false, item.flag.ofName?_name, hflag,
        Progress.give, Progress.acceptItem, Item.value, hjoined]
      simp

/-- Where an option waits for its value, every argument with a name is refused. -/
theorem refused_read_long {flag : Flag} (hp : p.pending = some (flag, none)) (name : String)
    (value : Option String) : Refused (p.read (.long name value)) := by
  have hsettle := Progress.settle_of_pending_bare hp
  by_cases hhelp : name = "help"
  · simp only [Progress.read, hhelp, if_true, hsettle]
    cases value <;> exact ⟨_, rfl, rfl⟩
  · rcases hfound : Flag.ofName? name with _ | other
    · simp only [Progress.read, hhelp, if_false, hfound]
      exact ⟨_, rfl, rfl⟩
    · rcases htakes : other.takesValue with _ | _ <;>
        simp only [Progress.read, hhelp, if_false, hfound, htakes, hsettle] <;>
        cases value <;> exact ⟨_, rfl, rfl⟩

/-- **An option whose value is taken for another argument is refused**, whatever that other argument
is: the option still waits for its value. -/
theorem refused_of_not_isPlain (h : ¬item.IsPlain) (p : Progress) (rest : List String) :
    Refused (parseFrom p (item.arguments ++ rest)) := by
  simp only [Item.IsPlain, Classical.not_imp] at h
  obtain ⟨hflag, hjoined, hplain⟩ := h
  have harguments : item.arguments = [longArgument item.flag.name none, item.text] := by
    simp [Item.arguments, hflag, hjoined]
  rw [harguments, List.cons_append, parseFrom_bare hflag, List.singleton_append]
  -- each way to read on begins by settling, and there is no value to settle with
  refine p.strict_settle.refused_bind fun q _ => ?_
  have hsettle : ({ q with pending := some (item.flag, none) } : Progress).settle =
      .error .missingValue := Progress.settle_of_pending_bare rfl
  rcases hshape : Argument.ofString item.text with _ | ⟨name, value⟩ | letter | text
  · rw [parseFrom, hshape]
    simp only [hsettle]
    split <;> exact ⟨_, rfl, rfl⟩
  · rw [parseFrom_cons hshape nofun]
    exact (refused_read_long rfl name value).bind _
  · rw [parseFrom_cons hshape nofun, Progress.read, hsettle]
    split <;> exact ⟨_, rfl, rfl⟩
  · rw [eq_of_ofString_eq_plain hshape] at hshape
    exact absurd hshape hplain

/-- A stray argument is refused where no option waits for a value. -/
theorem refused_of_stray {text : String} (h : Stray text) (hp : p.IsWhole) (rest : List String) :
    Refused (parseFrom p (text :: rest)) := by
  have hplain (h : Argument.ofString text = .plain text) :
      Refused (parseFrom p (text :: rest)) := by
    rw [parseFrom_cons h nofun]
    refine Refused.bind ?_ _
    rw [Progress.read]
    split
    · exact absurd ‹_› (hp _)
    · exact ⟨_, rfl, rfl⟩
  cases h with
  | positional h => exact hplain (ofString_of_head?_ne h)
  | dash => exact hplain rfl
  | unknown value hname hhelp hempty hequals =>
    rw [parseFrom_cons (ofString_longArgument hempty hequals value) nofun]
    refine Refused.bind ?_ _
    simp only [Progress.read, hhelp, if_false, Flag.ofName?_eq_none hname]
    exact ⟨_, rfl, rfl⟩

end Reading

/-! ### Reading options one after the other -/

section Items

variable {p q : Progress} {item : Item} {items : List Item}

theorem argumentsOf_cons (item : Item) (items : List Item) :
    argumentsOf (item :: items) = item.arguments ++ argumentsOf items := rfl

/-- **Options are read one after the other.** -/
theorem parseFrom_argumentsOf (h : ∀ item ∈ items, item.IsPlain) (p : Progress)
    (rest : List String) :
    parseFrom p (argumentsOf items ++ rest) =
      (items.foldlM Progress.give p).bind fun p => parseFrom p rest := by
  induction items generalizing p with
  | nil => rfl
  | cons item items ih =>
    obtain ⟨hitem, hitems⟩ := List.forall_mem_cons.mp h
    rw [argumentsOf_cons, List.append_assoc, parseFrom_item hitem, List.foldlM_cons]
    cases hgive : p.give item with
    | error rejection => rfl
    | ok q => exact ih hitems q

/-- Reading an option and then settling is settling and then accepting the option. -/
theorem give_bind_settle (p : Progress) (item : Item) :
    (p.give item).bind Progress.settle = p.settle.bind (·.acceptItem item) := by
  rw [Progress.give]
  cases hsettle : p.settle with
  | error rejection => rfl
  | ok q =>
    have hpending := Progress.pending_of_settle hsettle
    change Except.bind (if _ then _ else _) Progress.settle = q.acceptItem item
    split
    · rename_i hitem
      -- the value was pending until now: it is accepted from where nothing is
      have hq : ({ q with pending := none } : Progress) = q := by rw [← hpending]
      change ({ q with pending := none } : Progress).accept item.flag item.text = _
      rw [hq, Progress.acceptItem, Item.value, if_pos hitem.1]
    · -- it was accepted at once, and settling adds nothing
      cases haccept : q.acceptItem item with
      | error rejection => rfl
      | ok r =>
        obtain ⟨-, line, -, rfl⟩ := Progress.accept_eq_ok_iff.mp haccept
        exact Progress.settle_of_pending_none hpending

/-- **Reading options and then settling is settling and then accepting them**, one after the
other: nothing is left of how they were spelled. -/
theorem foldlM_give_bind_settle (items : List Item) (p : Progress) :
    (items.foldlM Progress.give p).bind Progress.settle =
      p.settle.bind fun p => items.foldlM Progress.acceptItem p := by
  induction items generalizing p with
  | nil => cases hsettle : p.settle <;> simp [Except.bind, pure, Except.pure, hsettle]
  | cons item items ih =>
    calc ((item :: items).foldlM Progress.give p).bind Progress.settle
        = (p.give item).bind fun q => (items.foldlM Progress.give q).bind Progress.settle := by
          rw [List.foldlM_cons]
          cases p.give item <;> rfl
      _ = (p.give item).bind fun q =>
            q.settle.bind fun q => items.foldlM Progress.acceptItem q := by
          simp only [ih]
      _ = ((p.give item).bind Progress.settle).bind fun q =>
            items.foldlM Progress.acceptItem q := by
          cases p.give item <;> rfl
      _ = p.settle.bind fun q => (item :: items).foldlM Progress.acceptItem q := by
          rw [give_bind_settle]
          cases p.settle <;> rfl

/-- **A line of options is read by accepting them**, one after the other. -/
theorem parse_argumentsOf (h : ∀ item ∈ items, item.IsPlain) :
    parse (argumentsOf items) = (items.foldlM Progress.acceptItem {}).map (·.line) := by
  have hread := parseFrom_argumentsOf h {} []
  have haccept := foldlM_give_bind_settle items {}
  rw [List.append_nil] at hread
  calc parse (argumentsOf items)
      = (items.foldlM Progress.give {}).bind fun p => p.settle.map (·.line) := hread
    _ = ((items.foldlM Progress.give {}).bind Progress.settle).map (·.line) := by
        cases items.foldlM Progress.give {} <;> rfl
    _ = (items.foldlM Progress.acceptItem {}).map (·.line) := congrArg (Except.map _) haccept

/-! ### Options that are not accepted -/

theorem strict_give (p : Progress) (item : Item) : Strict (p.give item) := by
  refine p.strict_settle.bind fun q _ => ?_
  split
  · exact strict_ok _
  · exact q.strict_accept _ _

theorem strict_foldlM_acceptItem (items : List Item) (p : Progress) :
    Strict (items.foldlM Progress.acceptItem p) := by
  induction items generalizing p with
  | nil => exact strict_ok p
  | cons item items ih =>
    rw [List.foldlM_cons]
    exact (p.strict_accept _ _).bind fun q _ => ih q

/-- **Options that are accepted** are different, and were not given before, and the value of each
sets it. -/
theorem of_foldlM_acceptItem (h : items.foldlM Progress.acceptItem p = .ok q) :
    (items.map (·.flag)).Nodup ∧ ∀ item ∈ items,
      item.flag ∉ p.given ∧ ∃ base : CommandLine, base.set? item.flag item.value ≠ none := by
  induction items generalizing p with
  | nil => exact ⟨List.nodup_nil, nofun⟩
  | cons item items ih =>
    rw [List.foldlM_cons] at h
    rcases haccept : p.acceptItem item with rejection | r
    · rw [haccept] at h
      cases h
    · rw [haccept] at h
      obtain ⟨hnodup, hitems⟩ := ih h
      -- `given` grows by the option, so that none of the later ones can be it again
      obtain ⟨hfresh, line, hset, rfl⟩ := Progress.accept_eq_ok_iff.mp haccept
      refine ⟨List.nodup_cons.mpr ⟨fun hmem => ?_, hnodup⟩, List.forall_mem_cons.mpr
        ⟨⟨hfresh, p.line, by simp [hset]⟩, fun other hother => ?_⟩⟩
      · obtain ⟨other, hother, hsame⟩ := List.mem_map.mp hmem
        exact (hitems other hother).1 (by simp [hsame])
      · obtain ⟨hgiven, hbase⟩ := hitems other hother
        exact ⟨fun hmem => hgiven (List.mem_cons_of_mem _ hmem), hbase⟩

/-- Options of which one is not given plainly are refused. -/
theorem refused_of_exists_not_isPlain (h : ∃ item ∈ items, ¬item.IsPlain) (p : Progress)
    (rest : List String) : Refused (parseFrom p (argumentsOf items ++ rest)) := by
  induction items generalizing p with
  | nil => simp at h
  | cons item items ih =>
    rw [argumentsOf_cons, List.append_assoc]
    by_cases hitem : item.IsPlain
    · rw [parseFrom_item hitem]
      have hitems : ∃ item ∈ items, ¬item.IsPlain := by simpa [hitem] using h
      exact (strict_give p item).refused_bind fun q _ => ih hitems q
    · exact refused_of_not_isPlain hitem p _

/-- **Options that are not accepted are refused**, however they are given. -/
theorem refused_of_not_accepted (h : ∀ q, items.foldlM Progress.acceptItem {} ≠ .ok q) :
    Refused (parse (argumentsOf items)) := by
  by_cases hplain : ∀ item ∈ items, item.IsPlain
  · rw [parse_argumentsOf hplain]
    obtain ⟨rejection, heq, hcode⟩ := (strict_foldlM_acceptItem items {}).refused h
    exact ⟨rejection, by rw [heq]; rfl, hcode⟩
  · have hsome : ∃ item ∈ items, ¬item.IsPlain := by simpa using hplain
    simpa [parse] using refused_of_exists_not_isPlain hsome {} []

/-- No option waits for its value after one that is given plainly. -/
theorem isWhole_of_give (h : p.give item = .ok q) : q.IsWhole := by
  rw [Progress.give] at h
  cases hsettle : p.settle with
  | error rejection =>
    rw [hsettle] at h
    cases h
  | ok r =>
    rw [hsettle] at h
    change (if _ then _ else _) = _ at h
    split at h
    · obtain rfl := Except.ok.inj h
      intro flag
      simp
    · obtain ⟨-, line, -, rfl⟩ := Progress.accept_eq_ok_iff.mp h
      intro flag
      simp [Progress.pending_of_settle hsettle]

/-- **A stray argument after some options is refused.** -/
theorem refused_of_stray_after (hplain : ∀ item ∈ items, item.IsPlain) (hp : p.IsWhole)
    {text : String} (h : Stray text) (rest : List String) :
    Refused (parseFrom p (argumentsOf items ++ text :: rest)) := by
  induction items generalizing p with
  | nil => exact refused_of_stray h hp rest
  | cons item items ih =>
    obtain ⟨hitem, hitems⟩ := List.forall_mem_cons.mp hplain
    rw [argumentsOf_cons, List.append_assoc, parseFrom_item hitem]
    exact (strict_give p item).refused_bind fun q hgive => ih hitems (isWhole_of_give hgive)

/-! ### Options that give a line -/

variable {line : CommandLine}

/-- A setting that is written with a text is written with the value that is read. -/
theorem writtenAs_value (h : (line.setting item.flag).WrittenAs item.text) :
    (line.setting item.flag).WrittenAs item.value := by
  obtain ⟨flag, text, joined⟩ := item
  cases flag <;> exact h

/-- What a line has is given plainly. -/
theorem isPlain_of_writtenAs
    (hregion : ∀ region, line.region = some region → region.toList.head? ≠ some '-')
    (h : (line.setting item.flag).WrittenAs item.text) : item.IsPlain := by
  intro hflag _
  obtain ⟨flag, text, joined⟩ := item
  cases flag with
  | uniqueNames | strictLookup => cases hflag
  | region => exact ofString_of_head?_ne (hregion text h)
  | maxAttempts | pauseMs | memory | volumeSize =>
    exact ofString_of_head?_ne (Numeral.head?_ne h)

/-- **Options that a line has are accepted**, and then set to what the line has, while all others
stay as they were. -/
theorem exists_foldlM_acceptItem (hattempts : 1 ≤ line.maxAttempts.toNat)
    (honce : (items.map (·.flag)).Nodup) (hfresh : ∀ item ∈ items, item.flag ∉ p.given)
    (hwritten : ∀ item ∈ items, (line.setting item.flag).WrittenAs item.text) :
    ∃ q, items.foldlM Progress.acceptItem p = .ok q ∧ ∀ flag, q.line.setting flag =
      if flag ∈ items.map (·.flag) then line.setting flag else p.line.setting flag := by
  induction items generalizing p with
  | nil => exact ⟨p, rfl, by simp⟩
  | cons item items ih =>
    obtain ⟨hitem, hitems⟩ := List.nodup_cons.mp honce
    obtain ⟨hfirst, hrest⟩ := List.forall_mem_cons.mp hfresh
    obtain ⟨hwrite, hwrites⟩ := List.forall_mem_cons.mp hwritten
    -- what the first option sets stays, since the others are different from it
    have hset := set?_of_writtenAs hattempts (writtenAs_value hwrite) p.line
    have haccept := Progress.accept_eq_ok_iff.mpr ⟨hfirst, _, hset, rfl⟩
    have hlater : ∀ other ∈ items, other.flag ∉ item.flag :: p.given := by
      intro other hother
      rw [List.mem_cons, not_or]
      exact ⟨fun heq => hitem (List.mem_map.mpr ⟨other, hother, heq⟩), hrest other hother⟩
    obtain ⟨q, hq, hsettings⟩ := ih
      (p := { p with line := p.line.copying line item.flag, given := item.flag :: p.given })
      hitems hlater hwrites
    refine ⟨q, ?_, fun flag => ?_⟩
    · rw [List.foldlM_cons, Progress.acceptItem, haccept]
      exact hq
    · rw [hsettings, setting_copying, List.map_cons]
      by_cases hflag : flag = item.flag
      · subst hflag
        simp
      · simp [hflag]

end Items

/-- **The round trip of command lines.** Options that give a line are read back as that line, in
whatever order and however they are spelled: each option at most once, all whose value is not the
usual one, numbers in decimal, and a region that does not begin with a dash. The line is refused,
and not for want of help, if an option is given once more, anywhere and with any text; if a stray
argument is put after the options, with anything behind it; and if the text of one option is
replaced by a number outside of its range. -/
theorem arguments_round_trip {line : CommandLine} {items : List Item}
    (hattempts : 1 ≤ line.maxAttempts.toNat)
    (hregion : ∀ region, line.region = some region → region.toList.head? ≠ some '-')
    (h : Gives items line) :
    parse (argumentsOf items) = .ok line ∧
      (∀ before after again, items = before ++ after → again.flag ∈ items.map (·.flag) →
        Refused (parse (argumentsOf (before ++ again :: after)))) ∧
      (∀ text, Stray text → ∀ rest, Refused (parse (argumentsOf items ++ text :: rest))) ∧
      ∀ before item after text, items = before ++ item :: after → OutOfRange item.flag text →
        Refused (parse (argumentsOf (before ++ { item with text } :: after))) := by
  have hplain : ∀ item ∈ items, item.IsPlain := fun item hitem =>
    isPlain_of_writtenAs hregion (h.written item hitem)
  refine ⟨?_, ?_, fun text htext rest => ?_, ?_⟩
  · obtain ⟨q, hq, hsettings⟩ :=
      exists_foldlM_acceptItem (p := {}) hattempts h.once (by simp) h.written
    have hline : q.line = line := by
      refine eq_of_setting_eq (funext fun flag => ?_)
      rw [hsettings]
      split
      · rfl
      · exact (h.usual flag ‹_›).symm
    rw [parse_argumentsOf hplain, hq, ← hline]
    rfl
  · rintro before after again rfl hagain
    refine refused_of_not_accepted fun q hq => ?_
    -- if they were accepted, they would be different, also with the new one brought to the front
    have hnodup := (of_foldlM_acceptItem hq).1
    rw [List.map_append, List.map_cons, List.nodup_middle, ← List.map_append] at hnodup
    exact (List.nodup_cons.mp hnodup).1 hagain
  · have hwhole : ({} : Progress).IsWhole := fun _ => (Option.some_ne_none _).symm
    exact refused_of_stray_after hplain hwhole htext rest
  · rintro before item after text rfl hrange
    refine refused_of_not_accepted fun q hq => ?_
    obtain ⟨-, base, hset⟩ := (of_foldlM_acceptItem hq).2 { item with text } (by simp)
    rw [Item.value, if_pos hrange.takesValue] at hset
    exact hset (set?_of_outOfRange hrange base)

/-- A number may have zeros in front, a value may hold an equals sign, and an option may be given
its usual value. -/
theorem arguments_round_trip_of_five_options :
    let line : CommandLine :=
      { maxAttempts := 5, strictLookup := true, region := some "eu=1", memory := 4096 }
    let items : List Item :=
      [{ flag := .memory, text := "0004096", joined := true }, { flag := .strictLookup },
        { flag := .region, text := "eu=1", joined := true },
        { flag := .maxAttempts, text := toString 5 }, { flag := .pauseMs, text := toString 1000 }]
    argumentsOf items = ["--memory=0004096", "--strict-lookup", "--region=eu=1", "--max-attempts",
        "5", "--poll-interval-ms", "1000"] ∧
      1 ≤ line.maxAttempts.toNat ∧
      (∀ region, line.region = some region → region.toList.head? ≠ some '-') ∧
      Gives items line ∧ parse (argumentsOf items) = .ok line ∧
      Refused (parse (argumentsOf (items ++ [{ flag := .region, text := "--help" }]))) ∧
      Refused (parse (argumentsOf items ++ [longArgument "max-attempt" (some "5"), "--help"])) ∧
      Refused (parse (argumentsOf ({ flag := .memory, text := "4294967296", joined := true } ::
        items.tail))) := by
  intro line items
  have hattempts : 1 ≤ line.maxAttempts.toNat := by decide
  have hregion : ∀ region, line.region = some region → region.toList.head? ≠ some '-' := by
    rintro region ⟨⟩
    decide
  have hgives : Gives items line :=
    { once := by decide
      written := by
        simp only [items, List.forall_mem_cons, List.not_mem_nil, false_imp_iff, implies_true,
          and_true]
        exact ⟨⟨by decide, List.all_eq_true.mp (by decide), by decide⟩, rfl, rfl,
          numeral_toString 5, numeral_toString 1000⟩
      usual := by
        intro flag
        cases flag <;> simp [items, line, setting] }
  obtain ⟨hparse, hagain, hstray, hrange⟩ := arguments_round_trip hattempts hregion hgives
  refine ⟨by decide, hattempts, hregion, hgives, hparse,
    hagain items [] _ (by simp) (by decide), hstray _ ?_ _,
    hrange [] _ _ "4294967296" rfl ?_⟩
  · exact .unknown _ (by decide) (by decide) (by decide) (by decide)
  · exact .tooLarge rfl ⟨by decide, List.all_eq_true.mp (by decide), rfl⟩ (by decide)

end CommandLine

end RemountCheck
