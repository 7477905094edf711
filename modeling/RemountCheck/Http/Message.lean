import RemountCheck.Http.Status
import RemountCheck.Http.Url

/-!
# Requests and what comes of them

* `RemountCheck.Http.Request` – a request that can be sent: a method, a URL, the two headers
  by which the platform knows its user, and a body or none;
* `RemountCheck.Http.prepare` – the request for a URL's text, or why there is none;
* `RemountCheck.Http.Received` – what comes of a request that is sent: a response, whose body
  may break off, or nothing;
* `RemountCheck.Http.Carrier` – anything that requests can be sent through, in a monad, and
  `RemountCheck.Http.Transport`, anything that has states of its own;
* `RemountCheck.Http.Carrier.exchange` – a request is sent, and then those that redirects ask for.

A request is sent once. Nothing is sent where a request cannot be made, and nothing is sent
again, unless a response asks for it: one of a redirect that names another place. Up to ten of
these are followed, one after the other. Where a place lies, as seen from a URL, and whether a
request is sent there as it is or only gets what is there, is for the carrier to say.
-/

namespace RemountCheck

namespace Http

/-- The methods that are used. -/
inductive Method where
  | get
  | post
  | delete
  deriving DecidableEq, Repr

/-- The name of a method. -/
def Method.name : Method → String
  | .get => "GET"
  | .post => "POST"
  | .delete => "DELETE"

/-- **A request** that can be sent. A body is always JSON. -/
structure Request where
  method : Method
  url : Url
  apiKey : String
  workspace : String
  body : Option String
  deriving DecidableEq, Repr

namespace Request

/-- The URL that is sent. -/
def target (r : Request) : String := r.url.withoutFragment.print

/-- The headers of a request. -/
def headers (r : Request) : List (String × String) :=
  [("x-blaxel-api-key", r.apiKey), ("x-blaxel-workspace", r.workspace)] ++
    if r.body.isSome then [("content-type", "application/json")] else []

end Request

/-! ### Making requests -/

/-- **Why no response arrives**: there is no request to send, or nothing comes back. -/
inductive Undelivered where
  /-- The text is no absolute URL, or a header cannot be sent. -/
  | unmade
  /-- The URL is not one that requests can be sent to. -/
  | unsupported (url : Url)
  /-- The request was sent and no response came. -/
  | unanswered (url : Url)
  /-- The request was sent, and it was one redirect too many that came. -/
  | astray (url : Url)
  deriving DecidableEq, Repr

/-- The wording. It shows the whole URL, with its fragment. -/
def Undelivered.message : Undelivered → String
  | .unmade => "builder error"
  | .unsupported url => "builder error for url (" ++ url.print ++ ")"
  | .unanswered url => "error sending request for url (" ++ url.print ++ ")"
  | .astray url => "error following redirect for url (" ++ url.print ++ ")"

/-- Whether a text can be sent in a header: of the controls it may hold the tab only. -/
def isHeaderText (s : String) : Bool :=
  s.toList.all fun c => c = '\t' || (0x20 ≤ c.toNat && c.toNat ≠ 0x7F)

/-- The length of the longest URL that requests are sent to. -/
def longestUrl : Nat := 65534

/-- Whether a URL can be written at the head of a request: it is not too long, and its host
holds no quotes and no braces, which the URL standard lets pass. -/
def fitsHead (url : Url) : Bool :=
  url.print.utf8ByteSize ≤ longestUrl &&
    !url.host.toList.any ['"', '`', '{', '}'].contains

/-- **The request for a URL's text.** Of several faults the first counts: no URL, a URL
without a host, a header that cannot be sent, a scheme that is not spoken, and a URL that
cannot be written at the head of a request. -/
def prepare (method : Method) (url apiKey workspace : String) (body : Option String) :
    Except Undelivered Request :=
  match Url.parse? url with
  | none => .error .unmade
  | some url =>
    let url := url.withoutUser
    if url.host = "" then .error (.unsupported url)
    else if !(isHeaderText apiKey && isHeaderText workspace) then .error .unmade
    else if url.scheme ≠ "http" ∧ url.scheme ≠ "https" then .error (.unsupported url)
    else if !fitsHead url then .error (.unsupported url)
    else .ok { method, url, apiKey, workspace, body }

/-! ### Sending requests -/

/-- **What comes of a request** that is sent: a response, with its body unless that breaks
off and with the place that it points to, if it names one, or nothing. -/
inductive Received where
  | response (status : Status) (body : Option (List UInt8)) (place : Option String := none)
  | nothing
  deriving DecidableEq, Repr

/-- What comes of a request in the end: why no response arrived, or a status, with the body
unless that broke off. -/
abbrev Delivery := Except Undelivered (Status × Option (List UInt8))

/-- What is delivered of what came of a request. -/
def Received.delivery (r : Request) : Received → Delivery
  | .response status body _ => .ok (status, body)
  | .nothing => .error (.unanswered r.url)

/-- **Where redirects lead**: for a request, the status of a response to it and the place that
the response names, the URL of that place and whether the request is sent there as it is; nothing
where the redirect is not followed. -/
abbrev Redirection := Request → Status → String → Option (Url × Bool)

/-- **A carrier** in a monad: requests are sent through it, one at a time, and it knows where
redirects lead. -/
structure Carrier (m : Type → Type) where
  send : Request → m Received
  leads? : Redirection := fun _ _ _ => none

/-- A request at another URL: as it is, or one that only gets what is there. -/
def Request.movedTo (r : Request) (url : Url) (asItIs : Bool) : Request :=
  if asItIs then { r with url } else { r with url, method := .get, body := none }

/-- The request that is asked for by what came of one, if it is a redirect that is followed. -/
def Redirection.next? (leads? : Redirection) (r : Request) : Received → Option Request
  | .response status _ (some place) =>
    if status.isRedirect then
      (leads? r status place).map fun (url, asItIs) => r.movedTo url asItIs
    else none
  | _ => none

/-- How many redirects are followed, one after the other. -/
def redirectLimit : Nat := 10

/-- **Sending a request**, and then those that redirects ask for, if so many may be followed. -/
def Carrier.exchange [Monad m] (carrier : Carrier m) : (hops : Nat) → Request → m Delivery
  | 0, r => do
    let received ← carrier.send r
    match carrier.leads?.next? r received with
    | none => return received.delivery r
    | some _ => return .error (.astray r.url)
  | hops + 1, r => do
    let received ← carrier.send r
    match carrier.leads?.next? r received with
    | none => return received.delivery r
    | some next => carrier.exchange hops next

/-- **A transport** whose states are in `τ`: to each request something comes of it, and the
transport moves to another state. -/
structure Transport (τ : Type) where
  send : Request → τ → Received × τ
  leads? : Redirection := fun _ _ _ => none

end Http

end RemountCheck
