import RemountCheck.Http.Client
import RemountCheck.Json.Fields

/-!
# Requests through a relay

The program opens no connections of its own: it hands its requests to a relay that does, one
line of JSON each, and reads one line for what came of it.

* `RemountCheck.Relay.requestLine` – a request as a line: its method, its URL, its headers and
  its body;
* `RemountCheck.Relay.received` – what a line says came of a request: an object with the
  `status` of a response and its `body`, which is missing where it broke off. Any other line
  says that no response came.

The relay follows redirects too, so that no place stands in a response that it hands back.
-/

namespace RemountCheck

namespace Relay

open Http

/-- **A request as a line.** -/
def requestLine (r : Request) : String :=
  Json.render <| .object <|
    Json.member "method" (.ofText r.method.name) ++ Json.member "url" (.ofText r.target) ++
      Json.member "headers"
        (.object (r.headers.flatMap fun (name, value) => Json.member name (.ofText value))) ++
      Json.memberIfAny "body" .ofText r.body

/-- The response that a document describes, if it describes one. -/
def response? (json : Json) : Option Received :=
  match json with
  | .object members =>
    ((Json.lastMember? "status" members).bind Json.word32?).map fun status =>
      let body := (Json.lastMember? "body" members).bind Json.text?
      .response ⟨status.toNat⟩ (body.map fun text => text.toList.flatMap String.utf8EncodeChar)
  | _ => none

/-- **What a line says came of a request.** -/
def received (line : String) : Received :=
  ((Json.parse? line).bind response?).getD .nothing

end Relay

end RemountCheck
