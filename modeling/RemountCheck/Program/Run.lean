import RemountCheck.Check.Run
import RemountCheck.Http.Client
import RemountCheck.Program.CommandLine

/-!
# The program

From the variables of its environment and the arguments of its command line, the program sets
up a client and a plan, runs the check, and ends with an exit code and a few events of its
own.

* `RemountCheck.Program.start` – what is announced, and the client and the plan, or why there
  are none;
* `RemountCheck.Program.run` – the whole program over a transport;
* `RemountCheck.Program.Ending` – what it comes to, with its exit code
  (`RemountCheck.Program.Ending.exitCode`) and its events
  (`RemountCheck.Program.Ending.events`).
-/

namespace RemountCheck

namespace Program

/-! ### Setting up -/

/-- The region that a run is meant for: the one that is asked for, or that of the settings. -/
def region (settings : Settings) (line : CommandLine) : String :=
  line.region.getD settings.region

/-- **The plan of a run.** The suffix is used only where unique names are asked for. -/
def plan (settings : Settings) (line : CommandLine) (suffix : String) : Plan where
  names := if line.uniqueNames then .withSuffix suffix else .fixed
  image := settings.image
  region := some (region settings line)
  memory := line.memory
  volumeSize := line.volumeSize
  policy :=
    { maxAttempts := line.maxAttempts
      pauseMs := line.pauseMs
      onFailure := if line.strictLookup then .countAsAttempt else .treatAsAbsent }

/-- The event that tells what a run is meant for. -/
def startEvent (settings : Settings) (line : CommandLine) : Log.Event :=
  .info "using platform"
    [("environment", .text settings.environment.name), ("image", .text settings.image),
      ("region", .text (region settings line)),
      ("available_regions", .text (", ".intercalate settings.environment.profile.regions))]

/-- **Setting up a run**: the client and the plan, unless a credential is missing. That a carrier
for the client's requests cannot be set up, for want of what it needs from the machine, is left
out: a carrier is given. -/
def start (settings : Settings) (line : CommandLine) (suffix : String) :
    Except Failure (Http.Client × Plan) :=
  settings.connection.map fun c => (.ofConnection c, plan settings line suffix)

/-! ### What a run comes to -/

/-- **What a run comes to**: the command line is not accepted, there is nothing to run with,
or the check is made, and crashes or ends with a report. -/
inductive Ending where
  | rejected (rejection : CommandLine.Rejection)
  | unstarted (failure : Failure)
  | crashed (crash : Crash)
  | finished (report : Report)
  deriving DecidableEq, Repr

namespace Ending

/-- What a check comes to. -/
def ofCheck : Except Crash Report → Ending
  | .error crash => crashed crash
  | .ok report => finished report

/-- **The exit code.** Only a check that passed, and a request for help, end well. -/
def exitCode : Ending → UInt8
  | rejected rejection => rejection.exitCode
  | unstarted _ => 1
  | crashed _ => 101
  | finished report => report.exitStatus

/-- The event that tells the outcome of a check. -/
def outcomeEvent : Outcome → Log.Event
  | .success => .info "volume persistence test passed" []
  | .mismatch expected actual =>
    .error "volume persistence test failed" [("expected", .text expected), ("got", .text actual)]
  | .aborted stage error =>
    .error "volume persistence test aborted"
      [("stage", .text stage.name), ("error", .text error)]

/-- The event that sums a report up. -/
def summary (report : Report) : Log.Event :=
  .info "run finished"
    [("reached", .text report.verdict.reached.name),
      ("deleted", .number report.teardown.deleted.length),
      ("already_gone", .number report.teardown.alreadyGone.length),
      ("failed", .number report.teardown.failed.length),
      ("unconfirmed", .number report.teardown.unconfirmed.length)]

/-- The events at the end of a run. -/
def events : Ending → List Log.Event
  | rejected _ => []
  | unstarted failure => [.error "test could not start" [("error", .text failure.message)]]
  | crashed _ => []
  | finished report => [summary report, outcomeEvent report.verdict.outcome]

end Ending

/-- The target of the program's own events. -/
def target : String := "sandbox_persistence"

/-- **A run of the program**: what it announced before the check, what happened in the check,
what it came to, and the session that the transport is left in. -/
structure Result (τ : Type) where
  announced : List Log.Event
  trace : Trace
  ending : Ending
  session : Http.Client.Session τ

/-- The program's own events. -/
def Result.events (r : Result τ) : List Log.Event := r.announced ++ r.ending.events

/-- The run of an accepted command line over a transport. -/
def runLine (t : Http.Transport τ) (v : Variables) (suffix : String) (line : CommandLine)
    (state : τ) : Result τ :=
  let settings := Settings.ofVariables v
  let announced := [startEvent settings line]
  match start settings line suffix with
  | .error failure => ⟨announced, [], .unstarted failure, { transport := state }⟩
  | .ok (client, plan) =>
    let run := plan.check.runOn (client.platform t) { transport := state }
    ⟨announced, run.trace, .ofCheck run.value, run.state⟩

/-- **The program** over a transport, given the variables of its environment, a suffix for
unique names and its arguments. -/
def run (t : Http.Transport τ) (v : Variables) (suffix : String) (arguments : List String)
    (state : τ) : Result τ :=
  match CommandLine.parse arguments with
  | .error rejection => ⟨[], [], .rejected rejection, { transport := state }⟩
  | .ok line => runLine t v suffix line state

end Program

end RemountCheck
