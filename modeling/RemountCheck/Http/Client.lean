import RemountCheck.Http.Message
import RemountCheck.Json.Bytes
import RemountCheck.Json.Printer
import RemountCheck.Program.Environment
import RemountCheck.Script.Run

/-!
# The platform over HTTP

A client turns each call into one request and whatever comes of that into an answer. Volumes
and sandboxes are kept at one address, and commands are run at another:

| call | request |
|---|---|
| create a volume | `POST {api}/volumes` |
| delete a volume | `DELETE {api}/volumes/{name}` |
| create a sandbox | `POST {api}/sandboxes` |
| look a sandbox up | `GET {api}/sandboxes/{name}` |
| delete a sandbox | `DELETE {api}/sandboxes/{name}` |
| run a command | `POST {run}/{workspace}/sandboxes/{name}/process` |

* `RemountCheck.Http.Client` – a client, made from the settings of a connection;
* `RemountCheck.Http.Client.request` – the request of a call, or why there is none;
* `RemountCheck.Http.Client.answer` – the answer to a call, from what came of its request;
* `RemountCheck.Http.Client.perform` – a call from its request to its answer, over any carrier;
* `RemountCheck.Http.Client.platform` – the platform that a client makes of a transport.

An absence is never invented: a lookup says that there is no sandbox only if a response says
so, and a response of success says that there is one, whatever its body holds.
-/

namespace RemountCheck

namespace Http

/-- **A client.** Slashes at the end of its base addresses have been taken off. -/
structure Client where
  apiBaseUrl : String
  runBaseUrl : String
  workspace : String
  apiKey : String
  deriving DecidableEq, Repr

namespace Client

/-- The client of a connection. -/
def ofConnection (c : Connection) : Client where
  apiBaseUrl := String.ofList (Text.dropTrailing '/' c.apiBaseUrl.toList)
  runBaseUrl := String.ofList (Text.dropTrailing '/' c.runBaseUrl.toList)
  workspace := c.workspace
  apiKey := c.apiKey

/-! ### From calls to requests -/

/-- The method of a call's request. -/
def method : Call → Method
  | .createVolume _ | .createSandbox _ | .exec .. => .post
  | .getSandbox _ => .get
  | .deleteVolume _ | .deleteSandbox _ => .delete

/-- The text of the URL of a call's request. -/
def address (client : Client) : Call → String
  | .createVolume _ => client.apiBaseUrl ++ "/volumes"
  | .deleteVolume name => client.apiBaseUrl ++ "/volumes/" ++ name
  | .createSandbox _ => client.apiBaseUrl ++ "/sandboxes"
  | .getSandbox name | .deleteSandbox name => client.apiBaseUrl ++ "/sandboxes/" ++ name
  | .exec sandbox _ =>
    client.runBaseUrl ++ "/" ++ client.workspace ++ "/sandboxes/" ++ sandbox ++ "/process"

/-- **The request of a call**, or why there is none. -/
def request (client : Client) (c : Call) : Except Undelivered Request :=
  prepare (method c) (client.address c) client.apiKey client.workspace (c.body?.map Json.render)

/-! ### From responses to answers -/

/-- The body of a response as a text. A body that broke off is an empty one. -/
def bodyText (body : Option (List UInt8)) : String := Text.Utf8.lossy (body.getD [])

/-- What a response says that is no success. -/
def refusal (doing : String) (status : Status) (body : Option (List UInt8)) : String :=
  doing ++ " returned " ++ status.print ++ ": " ++ bodyText body

/-- **The resource that a body writes.** What is read of its bytes has to be text, and the rest has
to be JSON all the same. -/
def resource? (read? : Json → Option α) (body : Option (List UInt8)) : Option α :=
  body.bind fun bytes => (Json.ofBytes? bytes).bind read?

/-- The answer to the creation of a resource, here called by its kind. -/
def created (kind : String) (read? : Json → Option α) : Delivery → Except Failure α
  | .error e => .error (.provision (kind ++ " create failed: " ++ e.message))
  | .ok (status, body) =>
    if status.isSuccess then
      match resource? read? body with
      | some resource => .ok resource
      | none =>
        .error (.unreadable ("failed to parse " ++ kind ++ " response: error decoding response body"))
    else .error (.provision (refusal (kind ++ " create") status body))

/-- The answer to the deletion of a resource, here called by its kind. -/
def deleted (kind name : String) : Delivery → Except Failure Unit
  | .error e => .error (.backend (kind ++ " delete failed: " ++ e.message))
  | .ok (status, body) =>
    if status.isNotFound then .error (.notFound (kind ++ " " ++ name))
    else if status.isSuccess then .ok ()
    else .error (.backend (refusal (kind ++ " delete") status body))

/-- The sandbox that a body of success describes, if it describes one. -/
def described? (body : Option (List UInt8)) : Option Sandbox :=
  (Json.parse? (bodyText body)).bind Sandbox.ofJson?

/-- **The answer to a lookup.** A sandbox that is there and is not described has at least the
name that was asked for. -/
def lookedUp (name : String) : Delivery → Lookup Sandbox
  | .error e => .transient ("sandbox get failed: " ++ e.message)
  | .ok (status, body) =>
    if status.isNotFound then .notFound
    else if status.isSuccess then .found ((described? body).getD (.named name))
    else .transient (refusal "sandbox get" status body)

/-- The answer to a command. -/
def executed (sandbox : String) : Delivery → Except Failure ExecOutput
  | .error e => .error (.exec ("process exec failed: " ++ e.message))
  | .ok (status, body) =>
    if status.isNotFound then .error (.notFound ("sandbox " ++ sandbox))
    else if status.isSuccess then
      match body with
      | some bytes => .ok (.ofBody (Text.Utf8.lossy bytes))
      | none => .error (.exec "failed to read process output: error decoding response body")
    else .error (.exec (refusal "process exec" status body))

/-- **The answer to a call**, from what came of its request. -/
def answer : (c : Call) → Delivery → c.Answer
  | .createVolume _ => created "volume" Volume.ofJson?
  | .deleteVolume name => deleted "volume" name
  | .createSandbox _ => created "sandbox" Sandbox.ofJson?
  | .getSandbox name => lookedUp name
  | .deleteSandbox name => deleted "sandbox" name
  | .exec sandbox _ => executed sandbox

/-! ### Events -/

/-- The events of a call before its request is made. -/
def announcement : Call → List Log.Event
  | .createVolume request =>
    [.info "creating volume"
      (("volume", .text request.name) ::
        (request.spec.size.map fun n => ("size_mb", Log.Value.number n.toNat)).toList)]
  | .deleteVolume name => [.info "deleting volume" [("volume", .text name)]]
  | .createSandbox request =>
    [.info "creating sandbox"
      [("sandbox", .text request.name), ("image", .text request.spec.runtime.image),
        ("volumes", .number request.spec.volumes.length)]]
  | .getSandbox _ => []
  | .deleteSandbox name => [.info "deleting sandbox" [("sandbox", .text name)]]
  | .exec sandbox command =>
    [.debug "exec" [("sandbox", .text sandbox), ("command", .text command)]]

/-- The events of a call after a response: a sandbox that is there may not be described. -/
def remark : Call → Delivery → List Log.Event
  | .getSandbox name, .ok (status, body) =>
    if status.isSuccess && (described? body).isNone then
      [.error "unreadable sandbox response, treating sandbox as present"
        [("sandbox", .text name), ("error", .text "not a sandbox")]]
    else []
  | _, _ => []

/-! ### Calls -/

/-- What comes of a request, or of its lack. -/
def deliver [Monad m] (carrier : Carrier m) : Except Undelivered Request → m Delivery
  | .error e => pure (.error e)
  | .ok request => carrier.exchange redirectLimit request

/-- **A call is performed** over a carrier: it is told of, its request is sent, what came of that
may be told of too, and is the answer. -/
def perform [Monad m] (client : Client) (carrier : Carrier m) (tell : Log.Event → m Unit)
    (c : Call) : m c.Answer := do
  (announcement c).forM tell
  let delivery ← deliver carrier (client.request c)
  (remark c delivery).forM tell
  return answer c delivery

/-! ### The platform -/

/-- **A session** of a client: the state of the transport that its requests are sent through. -/
structure Session (τ : Type) where
  transport : τ

/-- A transport as a carrier. The events that were told are kept beside its state. -/
def noting (t : Transport τ) : Carrier (StateM (τ × List Log.Event)) where
  send r := fun (s, events) => let (received, s) := t.send r s; (received, s, events)
  leads? := t.leads?

/-- Keeps an event that is told. -/
def note (event : Log.Event) : StateM (τ × List Log.Event) Unit :=
  modify fun (s, events) => (s, events ++ [event])

/-- **The platform** that a client makes of a transport. It never crashes. -/
def platform (client : Client) (t : Transport τ) : Platform (Session τ) where
  reply c s :=
    let (answer, transport, events) := (client.perform (noting t) note c).run (s.transport, [])
    (.ok answer, events, { transport })

end Client

end Http

end RemountCheck
