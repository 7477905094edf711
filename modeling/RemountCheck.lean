import RemountCheck.Check.Absence
import RemountCheck.Check.Command
import RemountCheck.Check.Names
import RemountCheck.Check.Plan
import RemountCheck.Check.Policy
import RemountCheck.Check.Run
import RemountCheck.Check.Stage
import RemountCheck.Check.Step
import RemountCheck.Check.Teardown
import RemountCheck.Domain.Composition
import RemountCheck.Domain.Direction
import RemountCheck.Domain.Joining
import RemountCheck.Domain.Mapping
import RemountCheck.Domain.Name
import RemountCheck.Domain.Punycode
import RemountCheck.Domain.Replacement
import RemountCheck.Domain.Table
import RemountCheck.Http.Authority
import RemountCheck.Http.Break
import RemountCheck.Http.Client
import RemountCheck.Http.Host
import RemountCheck.Http.Message
import RemountCheck.Http.Path
import RemountCheck.Http.Percent
import RemountCheck.Http.Scheme
import RemountCheck.Http.Status
import RemountCheck.Http.Url
import RemountCheck.Json.Basic
import RemountCheck.Json.Bytes
import RemountCheck.Json.Fields
import RemountCheck.Json.Finite
import RemountCheck.Json.Parser
import RemountCheck.Json.Printer
import RemountCheck.Json.Token
import RemountCheck.Log
import RemountCheck.Main
import RemountCheck.Memory.Mount
import RemountCheck.Memory.Platform
import RemountCheck.Memory.Shell
import RemountCheck.Memory.State
import RemountCheck.Platform.Call
import RemountCheck.Platform.ExecOutput
import RemountCheck.Platform.Failure
import RemountCheck.Platform.Metadata
import RemountCheck.Platform.Sandbox
import RemountCheck.Platform.Volume
import RemountCheck.Program.CommandLine
import RemountCheck.Program.Environment
import RemountCheck.Program.Relay
import RemountCheck.Program.Run
import RemountCheck.Proofs.Exchange
import RemountCheck.Proofs.Wait
import RemountCheck.Script.Basic
import RemountCheck.Script.Run
import RemountCheck.Text.Affix
import RemountCheck.Text.Blank
import RemountCheck.Text.Digits
import RemountCheck.Text.Escaped
import RemountCheck.Text.Printable
import RemountCheck.Text.Quoted
import RemountCheck.Text.Utf8
import RemountCheck.Proofs.Course
import RemountCheck.Proofs.Cleanup
import RemountCheck.Proofs.Residents
import RemountCheck.Proofs.Schedule
import RemountCheck.Proofs.Account
import RemountCheck.Proofs.Files
import RemountCheck.Proofs.Gate
import RemountCheck.Proofs.Persistence
import RemountCheck.Proofs.Departures
import RemountCheck.Proofs.Repetition
import RemountCheck.Proofs.Territory
import RemountCheck.Proofs.Leftovers
import RemountCheck.Proofs.Countdown
import RemountCheck.Proofs.Verdict
import RemountCheck.Proofs.Forgetting
import RemountCheck.Proofs.Pace
import RemountCheck.Proofs.Interleaving
import RemountCheck.Proofs.Delivery
import RemountCheck.Proofs.Wire
import RemountCheck.Proofs.Tokens
import RemountCheck.Proofs.Documents
import RemountCheck.Proofs.Records
import RemountCheck.Proofs.Readings
import RemountCheck.Proofs.Bytes
import RemountCheck.Proofs.Outputs
import RemountCheck.Proofs.Resources
import RemountCheck.Proofs.Paths
import RemountCheck.Proofs.Addresses
import RemountCheck.Proofs.Requests
import RemountCheck.Proofs.Wiring
import RemountCheck.Proofs.Refusals
import RemountCheck.Proofs.Integrity
import RemountCheck.Proofs.Narration
import RemountCheck.Proofs.Words
import RemountCheck.Proofs.Mounts
import RemountCheck.Proofs.Inspection
import RemountCheck.Proofs.Arguments
