import RemountCheck.Text.Digits

/-!
# The command line

A run takes seven options. Five take a value, which follows as the next argument
or after an equals sign; two are flags. Arguments are read from left to right,
and the first that cannot be accepted decides what is wrong with the line. A
value that stands in an argument of its own is kept **pending**: it is accepted
only once the next known option or the end of the line is reached, so that an
argument that is wrong in itself comes before a value that is out of range.

* `RemountCheck.CommandLine` – what the arguments ask for;
* `RemountCheck.CommandLine.parse` – reading them;
* `RemountCheck.CommandLine.Rejection` – why a line is not run, and with which
  exit code (`RemountCheck.CommandLine.Rejection.exitCode`).
-/

namespace RemountCheck

/-- **What the arguments ask for.** -/
structure CommandLine where
  maxAttempts : UInt32 := 30
  pauseMs : UInt64 := 1000
  uniqueNames : Bool := false
  strictLookup : Bool := false
  region : Option String := none
  memory : UInt32 := 2048
  volumeSize : UInt32 := 1024
  deriving DecidableEq, Repr

namespace CommandLine

/-! ### The options -/

/-- The options, other than the request for help. -/
inductive Flag where
  | maxAttempts
  | pauseMs
  | uniqueNames
  | strictLookup
  | region
  | memory
  | volumeSize
  deriving DecidableEq, Repr

namespace Flag

/-- The options in the order in which they are documented. -/
def all : List Flag :=
  [maxAttempts, pauseMs, uniqueNames, strictLookup, region, memory, volumeSize]

/-- The name of an option, after its two dashes. -/
def name : Flag → String
  | maxAttempts => "max-attempts"
  | pauseMs => "poll-interval-ms"
  | uniqueNames => "unique-names"
  | strictLookup => "strict-lookup"
  | region => "region"
  | memory => "memory"
  | volumeSize => "volume-size"

/-- Whether an option takes a value. -/
def takesValue : Flag → Bool
  | uniqueNames => false
  | strictLookup => false
  | _ => true

/-- The option of a name, which has to be written out in full. -/
def ofName? (name : String) : Option Flag := all.find? (·.name = name)

end Flag

/-- Why a line is not run. -/
inductive Rejection where
  /-- Help was asked for. -/
  | help
  /-- An argument that means nothing here. -/
  | unknownArgument
  /-- An option without the value that it takes. -/
  | missingValue
  /-- A value that is no number of the option's range. -/
  | invalidValue
  /-- An option given twice. -/
  | repeatedOption
  /-- A flag with a value. -/
  | unexpectedValue
  deriving DecidableEq, Repr

/-- Asking for help is no mistake. -/
def Rejection.exitCode : Rejection → UInt8
  | .help => 0
  | _ => 2

/-! ### Values -/

/-- The number that a run of digits denotes, given what stands before it. -/
def digitsValue? (before : Nat) : List Char → Option Nat
  | [] => some before
  | c :: s => (Text.digit? c).bind fun d => digitsValue? (before * 10 + d) s

/-- **A natural number in decimal.** A plus sign and zeros may stand before the
digits, of which there is at least one. -/
def natural? : List Char → Option Nat
  | [] => none
  | ['+'] => none
  | '+' :: s => digitsValue? 0 s
  | s => digitsValue? 0 s

/-- A whole number in decimal that is not negative: with a minus sign, only zero. -/
def unsigned? : List Char → Option Nat
  | '-' :: c :: s => (digitsValue? 0 (c :: s)).filter (· = 0)
  | s => natural? s

/-- A number of 32 bits that is at least `least`. A sign before a zero is accepted. -/
def word32? (least : Nat) (s : String) : Option UInt32 :=
  ((unsigned? s.toList).filter fun n => least ≤ n ∧ n < UInt32.size).map UInt32.ofNat

/-- A number of 64 bits. A minus sign is refused, even before a zero. -/
def word64? (s : String) : Option UInt64 :=
  ((natural? s.toList).filter (· < UInt64.size)).map UInt64.ofNat

/-- **The line with one more option given**, if the value is one of the option's.
The value of a flag is ignored. -/
def set? (line : CommandLine) (flag : Flag) (value : String) : Option CommandLine :=
  match flag with
  | .maxAttempts => (word32? 1 value).map fun n => { line with maxAttempts := n }
  | .pauseMs => (word64? value).map fun n => { line with pauseMs := n }
  | .uniqueNames => some { line with uniqueNames := true }
  | .strictLookup => some { line with strictLookup := true }
  | .region => some { line with region := some value }
  | .memory => (word32? 0 value).map fun n => { line with memory := n }
  | .volumeSize => (word32? 0 value).map fun n => { line with volumeSize := n }

/-! ### Reading -/

/-- One argument by its shape. -/
inductive Argument where
  /-- The two dashes after which no option is read. -/
  | endOfOptions
  /-- Two dashes and a name, perhaps with a value after an equals sign. -/
  | long (name : String) (value : Option String)
  /-- One dash and at least one character, the first of which is kept. -/
  | short (letter : Char)
  /-- Anything else, the lone dash included. -/
  | plain (text : String)
  deriving DecidableEq, Repr

/-- What stands before and after the first equals sign, if there is one. -/
def splitEquals : List Char → List Char × Option (List Char)
  | [] => ([], none)
  | '=' :: s => ([], some s)
  | c :: s => let (name, value) := splitEquals s; (c :: name, value)

/-- **The shape of an argument.** -/
def Argument.ofString (text : String) : Argument :=
  match text.toList with
  | ['-', '-'] => .endOfOptions
  | '-' :: '-' :: s =>
    let (name, value) := splitEquals s
    .long (String.ofList name) (value.map String.ofList)
  | '-' :: c :: _ => .short c
  | _ => .plain text

/-- What has been read so far: the line that the accepted options make, the
options given, and an option that is still pending, with its value if that has
been read. -/
structure Progress where
  line : CommandLine := {}
  given : List Flag := []
  pending : Option (Flag × Option String) := none
  deriving DecidableEq, Repr

namespace Progress

/-- Accepts an option with its value. It may be given only once. -/
def accept (p : Progress) (flag : Flag) (value : String) : Except Rejection Progress :=
  if flag ∈ p.given then .error .repeatedOption
  else
    match p.line.set? flag value with
    | some line => .ok { p with line, given := flag :: p.given }
    | none => .error .invalidValue

/-- **Settles the pending option**, if there is one: it needs a value and has to
be acceptable. -/
def settle (p : Progress) : Except Rejection Progress :=
  match p.pending with
  | none => .ok p
  | some (_, none) => .error .missingValue
  | some (flag, some value) => accept { p with pending := none } flag value

/-- Reads one argument that is not the end of the options. -/
def read (p : Progress) : Argument → Except Rejection Progress
  | .endOfOptions => .error .unknownArgument
  | .long name value =>
    if name = "help" then
      match value with
      | some _ => .error .unexpectedValue
      | none => p.settle.bind fun _ => .error .help
    else
      match Flag.ofName? name with
      | none => .error .unknownArgument
      | some flag =>
        match flag.takesValue, value with
        | true, some value => p.settle.bind (·.accept flag value)
        | true, none => p.settle.map fun p => { p with pending := some (flag, none) }
        | false, some _ => .error .unexpectedValue
        | false, none => p.settle.bind (·.accept flag "")
  | .short letter =>
    if letter = 'h' then p.settle.bind fun _ => .error .help else .error .unknownArgument
  | .plain text =>
    match p.pending with
    | some (flag, none) => .ok { p with pending := some (flag, some text) }
    | _ => .error .unknownArgument

end Progress

/-- Reads the arguments from `p` on. Nothing may follow the end of the options. -/
def parseFrom (p : Progress) : List String → Except Rejection CommandLine
  | [] => p.settle.map (·.line)
  | text :: rest =>
    match Argument.ofString text with
    | .endOfOptions => if rest.isEmpty then p.settle.map (·.line) else .error .unknownArgument
    | argument => (p.read argument).bind fun p => parseFrom p rest

/-- **Reading the arguments** of a command line, without the program's name. -/
def parse (arguments : List String) : Except Rejection CommandLine := parseFrom {} arguments

end CommandLine

end RemountCheck
