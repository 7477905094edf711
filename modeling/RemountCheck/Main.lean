import Std.Time.DateTime.Timestamp
import RemountCheck.Program.Relay
import RemountCheck.Program.Run

/-!
# The command line program

The outer layer of the program: it reads the environment and the arguments, performs the
script of a check by exchanging lines with a relay on its standard streams, tells its events
on the standard error stream, and ends with the exit code. What it does is decided by
`RemountCheck.Program` and `RemountCheck.Http.Client`: the script and the calls are performed by
`RemountCheck.Script.perform` and `RemountCheck.Http.Client.perform`, which are the same in any
monad. Here there are just a relay for a carrier, a clock and a stream for the events.
-/

namespace RemountCheck

namespace Relay

/-- Tells an event, unless it is a detail. -/
def tell (event : Log.Event) : IO Unit :=
  match event.level with
  | .debug => pure ()
  | _ => IO.eprintln (event.line Program.target)

/-- Pauses, a thousand seconds at a time where the pause is long. -/
def sleep (ms : Nat) : IO Unit := do
  for _ in List.range (ms / 1000000) do
    IO.sleep 1000000
  IO.sleep (UInt32.ofNat (ms % 1000000))

/-- **The carrier** that the relay is: a request is a line, and so is what came of it. -/
def carrier : Http.Carrier IO where
  send request := do
    let output ← IO.getStdout
    output.putStr (requestLine request ++ "\n")
    output.flush
    return received (← (← IO.getStdin).getLine)

/-- What scripts are performed by: a client's calls over the relay, events and pauses. -/
def performer (client : Http.Client) : Performer IO where
  call c := return .ok (← client.perform carrier tell c)
  log := tell
  pause ms := sleep ms.toNat

/-- A suffix for the names of this run. -/
def newSuffix : IO String := do
  let now ← Std.Time.Timestamp.now
  let bytes ← IO.getRandomBytes 3
  let random := bytes.foldl (fun n b => n * 256 + b.toNat) 0
  return Names.uniqueSuffix now.toSecondsSinceUnixEpoch.val.toNat random

/-- The variables of the environment that set up a run. -/
def readVariables : IO Variables := do
  return {
    environment := ← IO.getEnv "BL_ENV"
    apiBaseUrl := ← IO.getEnv "BL_API_URL"
    runBaseUrl := ← IO.getEnv "BL_RUN_URL"
    workspace := ← IO.getEnv "BL_WORKSPACE"
    apiKey := ← IO.getEnv "BL_API_KEY"
    region := ← IO.getEnv "BL_REGION" }

/-- Runs an accepted command line. -/
def runLine (line : CommandLine) : IO Program.Ending := do
  let settings := Settings.ofVariables (← readVariables)
  tell (Program.startEvent settings line)
  match Program.start settings line (← newSuffix) with
  | .error failure => return .unstarted failure
  | .ok (client, plan) => return .ofCheck (← plan.check.run.perform (performer client))

/-- What is printed where help is asked for or a command line is not accepted. -/
def usage : String :=
  "Verify that volume data survives sandbox deletion and recreation\n\n" ++
    "Options: [--max-attempts N] [--poll-interval-ms MS] [--unique-names] [--strict-lookup]\n" ++
    "         [--region REGION] [--memory MB] [--volume-size MB] [--help]"

end Relay

end RemountCheck

open RemountCheck in
/-- **The program**: from its arguments to its exit code. -/
def main (arguments : List String) : IO UInt32 := do
  let ending ←
    match CommandLine.parse arguments with
    | .error rejection =>
      IO.eprintln Relay.usage
      pure (Program.Ending.rejected rejection)
    | .ok line => Relay.runLine line
  for event in ending.events do
    Relay.tell event
  return ending.exitCode.toUInt32
