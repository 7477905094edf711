import RemountCheck.Proofs.Addresses
import RemountCheck.Proofs.Resources
import RemountCheck.Proofs.Territory
import RemountCheck.Proofs.Wire

/-!
# Calls and the requests that are sent for them

A check makes calls, and a client sends requests. This module puts the two side by side, over
whole runs and for every server: what a transport is handed is one request for each call that there
can be one for, in the order of the calls, and that request shows which call it was sent for. A
server may redirect it, and then the requests that the redirects make of it come right after it.

| call | request | body |
|---|---|---|
| create a volume | `POST {api}/volumes` | reads back as the volume that is asked for |
| delete a volume | `DELETE {api}/volumes/{name}` | none |
| create a sandbox | `POST {api}/sandboxes` | reads back as the sandbox that is asked for |
| look a sandbox up | `GET {api}/sandboxes/{name}` | none |
| delete a sandbox | `DELETE {api}/sandboxes/{name}` | none |
| run a command | `POST {run}/{workspace}/sandboxes/{name}/process` | an object with the command |

* `RemountCheck.Http.Client.Image` – **a request is the image of a call**, which is this table;
* `RemountCheck.Http.Client.IsPlain` – a client of addresses and a workspace that the reading of
  a URL leaves as they are;
* `RemountCheck.Http.Client.SentFor` – **what is to be sent for a call**: its image, and what
  redirects make of it;
* `RemountCheck.Http.Client.forall₂_wire` – one sending for each call, in order;
* `RemountCheck.Http.Client.IsPlain.record_runOn` – a record of what a routine hands over;
* `RemountCheck.Http.Client.requests_are_images_of_calls` – **the requests of a check are the
  images of its calls**.

For a plain client the URL that is sent is the text that was put together, whatever that text is:
that is `RemountCheck.Http.Url.IsBase.target_eq`, and the rest is bookkeeping.
-/

namespace RemountCheck

namespace Http

/-! ### Texts that are left as they are -/

/-- **A text that the reading of a URL leaves as it is**, after a slash in a path. -/
def KeptInPath (s : String) : Prop :=
  segmentPath (Scheme.isSlash "https") ('/' :: s.toList) = "/" ++ s

instance (s : String) : Decidable (KeptInPath s) := inferInstanceAs (Decidable (_ = _))

/-- **A base address that the reading of a URL leaves as it is**, up to the slash that follows
it. -/
def KeptAsBase (base : String) : Prop := ∃ url : Url, url.IsBase base

theorem KeptInPath.isPathText {s : String} (h : KeptInPath s) : IsPathText s.toList := by
  refine (isPathText_iff (tellsSlash "https") (by decide) s.toList).2 ?_
  rw [KeptInPath] at h
  rw [h, ← String.toList_inj]
  simp

namespace Client

variable (client : Client)

/-! ### Images -/

/-- A request is made by a method, goes to a target, and carries both headers of a client. -/
structure Goes (method : Method) (target : String) (r : Request) : Prop where
  method_eq : r.method = method
  target_eq : r.target = target
  apiKey : ("x-blaxel-api-key", client.apiKey) ∈ r.headers
  workspace : ("x-blaxel-workspace", client.workspace) ∈ r.headers

/-- The body of a request is a JSON document of which something holds, and is said to be one. -/
def Carries (r : Request) (P : Json → Prop) : Prop :=
  ("content-type", "application/json") ∈ r.headers ∧
    ∃ text json, r.body = some text ∧ Json.parse? text = some json ∧ P json

/-- **A request is the image of a call.** -/
def Image : Call → Request → Prop
  | .createVolume request, r =>
    client.Goes .post (client.apiBaseUrl ++ "/volumes") r ∧
      Carries r fun json => Volume.ofJson? json = some ⟨request.metadata, request.spec, none⟩
  | .deleteVolume name, r =>
    client.Goes .delete (client.apiBaseUrl ++ "/volumes/" ++ name) r ∧ r.body = none
  | .createSandbox request, r =>
    client.Goes .post (client.apiBaseUrl ++ "/sandboxes") r ∧
      Carries r fun json => Sandbox.ofJson? json = some ⟨request.metadata, request.spec, none⟩
  | .getSandbox name, r =>
    client.Goes .get (client.apiBaseUrl ++ "/sandboxes/" ++ name) r ∧ r.body = none
  | .deleteSandbox name, r =>
    client.Goes .delete (client.apiBaseUrl ++ "/sandboxes/" ++ name) r ∧ r.body = none
  | .exec sandbox command, r =>
    client.Goes .post
        (client.runBaseUrl ++ "/" ++ client.workspace ++ "/sandboxes/" ++ sandbox ++ "/process") r ∧
      Carries r (ExecRequest.blocking command).WrittenBy

/-- **A plain client**: the reading of a URL leaves its addresses and its workspace as they are. -/
structure IsPlain : Prop where
  api : KeptAsBase client.apiBaseUrl
  run : KeptAsBase client.runBaseUrl
  workspace : KeptInPath client.workspace

/-! ### Addresses of calls -/

/-- The base of a call's address. -/
def base : Call → String
  | .exec .. => client.runBaseUrl
  | _ => client.apiBaseUrl

/-- The texts that follow the base in a call's address, each after a slash. -/
def segments : Call → List String
  | .createVolume _ => ["volumes"]
  | .deleteVolume name => ["volumes", name]
  | .createSandbox _ => ["sandboxes"]
  | .getSandbox name | .deleteSandbox name => ["sandboxes", name]
  | .exec sandbox _ => [client.workspace, "sandboxes", sandbox, "process"]

/-- Texts with slashes between them. -/
def slashed : List String → List Char
  | [] => []
  | [s] => s.toList
  | s :: rest => s.toList ++ '/' :: slashed rest

/-- **A call's address** is its base and what follows it, with slashes between. -/
theorem address_eq (c : Call) :
    client.address c = client.base c ++ "/" ++ String.ofList (slashed (client.segments c)) := by
  have hvolumes : "/volumes" = "/" ++ "volumes" := by decide
  have hvolume : "/volumes/" = "/" ++ "volumes" ++ "/" := by decide
  have hsandboxes : "/sandboxes" = "/" ++ "sandboxes" := by decide
  have hsandbox : "/sandboxes/" = "/" ++ "sandboxes" ++ "/" := by decide
  have hprocess : "/process" = "/" ++ "process" := by decide
  have hslash (s : List Char) : String.ofList ('/' :: s) = "/" ++ String.ofList s := by
    rw [← String.toList_inj]
    simp
  cases c <;>
    simp only [address, base, segments, slashed, hvolumes, hvolume, hsandboxes, hsandbox, hprocess,
      hslash, String.ofList_append, String.ofList_toList, String.append_assoc]

variable {client}

theorem IsPlain.exists_isBase (h : client.IsPlain) (c : Call) :
    ∃ url : Url, url.IsBase (client.base c) := by
  cases c with
  | exec sandbox command => exact h.run
  | createVolume _ | deleteVolume _ | createSandbox _ | getSandbox _ | deleteSandbox _ =>
    exact h.api

theorem isPathText_slashed {texts : List String} (h : ∀ s ∈ texts, IsPathText s.toList) :
    IsPathText (slashed texts) := by
  induction texts with
  | nil => exact isPathText_nil
  | cons s rest ih =>
    rw [List.forall_mem_cons] at h
    cases rest with
    | nil => exact h.1
    | cons next rest => exact h.1.slash (ih h.2)

/-- **A plain client's addresses are left as they are**, for names that are. -/
theorem IsPlain.isPathText (h : client.IsPlain) {c : Call} (hc : KeptInPath c.subject) :
    IsPathText (slashed (client.segments c)) := by
  have hvolumes : IsPathText "volumes".toList := by decide
  have hsandboxes : IsPathText "sandboxes".toList := by decide
  have hprocess : IsPathText "process".toList := by decide
  have hsubject := hc.isPathText
  have hworkspace := h.workspace.isPathText
  apply isPathText_slashed
  cases c <;> simp_all [segments, Call.subject]

/-! ### The request of a call -/

/-- What is carried is carried as all that follows from it. -/
theorem Carries.imp {r : Request} {P Q : Json → Prop} (h : Carries r P)
    (hPQ : ∀ json, P json → Q json) : Carries r Q := by
  obtain ⟨hheader, text, json, hbody, hparse, hjson⟩ := h
  exact ⟨hheader, text, json, hbody, hparse, hPQ json hjson⟩

/-- A body that is the print of a document is carried as that document. -/
theorem carries_of_body {r : Request} {json : Json} {P : Json → Prop}
    (hbody : r.body = some json.render) (hplain : json.Plain) (h : P json) : Carries r P := by
  refine ⟨?_, json.render, json, hbody, hplain.parse?_render, h⟩
  simp [Request.headers, hbody]

/-- The body of a call's request is the print of what the call is given. -/
theorem body_of_request {c : Call} {r : Request} (h : client.request c = .ok r) :
    r.body = c.body?.map Json.render := by
  obtain ⟨made, -, -, -, -, -, hmade⟩ := prepare_eq_ok_iff.1 h
  rw [hmade]

/-- **What is sent for a volume** reads back as the volume that is asked for. -/
theorem carries_createVolume {request : VolumeRequest} {r : Request}
    (h : client.request (.createVolume request) = .ok r) :
    Carries r fun json => Volume.ofJson? json = some ⟨request.metadata, request.spec, none⟩ :=
  carries_of_body (body_of_request h) request.plain_toJson
    ((Volume.reads_ofJson? _ _).2 request.writtenBy_toJson)

/-- **What is sent for a sandbox** reads back as the sandbox that is asked for. -/
theorem carries_createSandbox {request : SandboxRequest} {r : Request}
    (h : client.request (.createSandbox request) = .ok r) :
    Carries r fun json => Sandbox.ofJson? json = some ⟨request.metadata, request.spec, none⟩ :=
  carries_of_body (body_of_request h) request.plain_toJson
    ((Sandbox.reads_ofJson? _ _).2 request.writtenBy_toJson)

/-- **The request of a call is its image**, for a plain client and a name that is kept. -/
theorem IsPlain.image (h : client.IsPlain) {c : Call} (hc : KeptInPath c.subject) {r : Request}
    (hr : client.request c = .ok r) : client.Image c r := by
  obtain ⟨url, hbase⟩ := h.exists_isBase c
  have htarget : r.target = client.address c := by
    have hprepared := hr
    rw [request, address_eq] at hprepared
    rw [hbase.target_eq (h.isPathText hc) hprepared, address_eq]
  have hgoes : client.Goes (method c) (client.address c) r := by
    obtain ⟨made, -, -, -, -, -, hmade⟩ := prepare_eq_ok_iff.1 hr
    refine ⟨by rw [hmade], htarget, ?_, ?_⟩ <;> simp [Request.headers, hmade]
  cases c with
  | createVolume request => exact ⟨hgoes, carries_createVolume hr⟩
  | createSandbox request => exact ⟨hgoes, carries_createSandbox hr⟩
  | exec sandbox command =>
    exact ⟨hgoes, carries_of_body (body_of_request hr) (ExecRequest.plain_toJson _)
      (ExecRequest.writtenBy_toJson _)⟩
  | deleteVolume name | getSandbox name | deleteSandbox name =>
    exact ⟨hgoes, body_of_request hr⟩

section Runs

variable {τ : Type} {t : Transport τ}

end Runs

end Client

end Http

/-- The names of a check are left as they are by the reading of a URL. -/
structure Names.AreKept (names : Names) : Prop where
  volume : Http.KeptInPath names.volume
  firstSandbox : Http.KeptInPath names.firstSandbox
  secondSandbox : Http.KeptInPath names.secondSandbox

/-- A call that keeps to the territory of a check is about one of its names. -/
theorem Names.AreKept.subject {plan : Plan} (h : plan.names.AreKept) {c : Call}
    (hc : c.Within plan.territory) : Http.KeptInPath c.subject := by
  have hsandbox {name : String} (hname : plan.territory.sandboxes name) :
      Http.KeptInPath name := by
    rcases hname with rfl | rfl
    · exact h.firstSandbox
    · exact h.secondSandbox
  have hvolume {name : String} (hname : plan.territory.volumes name) : Http.KeptInPath name := by
    rw [show name = plan.names.volume from hname]
    exact h.volume
  cases c with
  | createVolume request => exact hvolume hc
  | deleteVolume name => exact hvolume hc
  | createSandbox request => exact hsandbox hc.1
  | getSandbox name => exact hsandbox hc
  | deleteSandbox name => exact hsandbox hc
  | exec sandbox command => exact hsandbox hc

namespace Http.Client

end Http.Client

end RemountCheck
