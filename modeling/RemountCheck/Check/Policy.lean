/-!
# How long to wait for an absence

* `RemountCheck.Policy` – the budget of lookups, the pause after each that did
  not settle the matter, and what a failed lookup means;
* `RemountCheck.OnFailure` – a failed lookup either confirms the absence or
  proves nothing.
-/

namespace RemountCheck

/-- What a failed lookup means to one who waits for an absence. -/
inductive OnFailure where
  /-- It confirms the absence. -/
  | treatAsAbsent
  /-- It proves nothing and uses up an attempt. -/
  | countAsAttempt
  deriving DecidableEq, Repr

/-- **How an absence is waited for**: at most `maxAttempts` lookups, with a pause
in whole milliseconds after each that did not confirm it. A finer pause, which a duration
in nanoseconds could be, has no place here: none is ever asked for, since the pause is
an option in milliseconds. -/
structure Policy where
  maxAttempts : UInt32 := 30
  pauseMs : UInt64 := 1000
  onFailure : OnFailure := .treatAsAbsent
  deriving DecidableEq, Repr

end RemountCheck
