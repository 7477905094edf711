import RemountCheck.Text.Blank
import RemountCheck.Text.Escaped

/-!
# Log events

What a run tells about itself is a sequence of events. An event has a level, a
message and named values in the order in which they are written; it is a value
like any other, so that a run can be asked what it said.

* `RemountCheck.Log.Event` – an event, built with `Event.debug`, `Event.info`,
  `Event.warn` and `Event.error`;
* `RemountCheck.Log.Event.number?` – the number that an event carries under a name;
* `RemountCheck.Log.Event.line` – the event as one line of text.
-/

namespace RemountCheck

namespace Log

/-- How much an event matters. -/
inductive Level where
  | debug
  | info
  | warn
  | error
  deriving DecidableEq, Repr

/-- The name of a level, as it is written. -/
def Level.name : Level → String
  | .debug => "DEBUG"
  | .info => "INFO"
  | .warn => "WARN"
  | .error => "ERROR"

/-- A value that an event carries: a text as it stands, a number, or an optional
text to be shown with quotes. -/
inductive Value where
  | text (s : String)
  | number (n : Int)
  | shown (s : Option String)
  deriving DecidableEq, Repr

/-- A value as it is written. -/
def Value.render : Value → String
  | .text s => s
  | .number n => toString n
  | .shown s => Text.shown s

/-- **An event**: its level, its message and its named values in order. -/
structure Event where
  level : Level
  message : String
  fields : List (String × Value)
  deriving DecidableEq, Repr

namespace Event

/-- An event for those who follow every detail. -/
def debug (message : String) (fields : List (String × Value)) : Event := ⟨.debug, message, fields⟩

/-- An event of the normal course of things. -/
def info (message : String) (fields : List (String × Value)) : Event := ⟨.info, message, fields⟩

/-- An event that deserves attention and stops nothing. -/
def warn (message : String) (fields : List (String × Value)) : Event := ⟨.warn, message, fields⟩

/-- An event that spoils the run. -/
def error (message : String) (fields : List (String × Value)) : Event := ⟨.error, message, fields⟩

/-- The number that the event carries under a name, if it carries one. -/
def number? (e : Event) (name : String) : Option Int :=
  e.fields.findSome? fun
    | (key, .number n) => if key = name then some n else none
    | _ => none

/-- **The event as a line**: level, target and message, then each value after its
name, up to the end of the first line and without blanks at either end. -/
def line (e : Event) (target : String) : String :=
  let head := e.level.name ++ " " ++ target ++ " " ++ e.message
  let written := e.fields.map fun (name, value) => name ++ "=" ++ value.render
  String.ofList (Text.trim ((", ".intercalate (head :: written)).toList.takeWhile (· ≠ '\n')))

end Event

end Log

end RemountCheck
