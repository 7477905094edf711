import RemountCheck.Proofs.Delivery
import RemountCheck.Proofs.Gate

/-!
# What is heard over the wire

A client has nothing to go by but the status of a response and its body, and it may have neither.
This module says, for each kind of call, which answer stands for which response, and what that
means for a check whose platform is a server: its second sandbox is asked for only right after the
server itself said that the first is not there.

* `RemountCheck.Http.Client.wire` – all that is sent for some calls, in order, with what was heard;
* `RemountCheck.Http.Client.transport_after` – calls leave a transport as what stands on the wire
  does: this was sent, and nothing else;
* `RemountCheck.Http.Client.Faithful` – what an answer has to say by what was heard;
* `RemountCheck.Http.Client.absence_is_never_invented` – every answer is faithful, and the
  consequence for a check.

| answer to | success | 404 | any other status | no response |
|---|---|---|---|---|
| a lookup | found, whatever the body | not found | transient | transient |
| a deletion | done | not found | backend | backend |
| a command | its output, or exec if the body breaks off | not found | exec | exec |
| a creation | what the body writes, else unreadable | provision | provision | provision |

So a 404 alone stands for an absence, and a creation never says that there is one.
-/

namespace RemountCheck

namespace Http

/-- **The four things that can come of a request**: no response, one that says that nothing was
found, one of success, and any other. -/
@[elab_as_elim]
theorem Delivery.ladder {motive : Delivery → Prop} (d : Delivery)
    (undelivered : ∀ e, motive (.error e))
    (notFound : ∀ status body, status.isNotFound = true → status.isSuccess = false →
      motive (.ok (status, body)))
    (success : ∀ status body, status.isNotFound = false → status.isSuccess = true →
      motive (.ok (status, body)))
    (other : ∀ status body, status.isNotFound = false → status.isSuccess = false →
      motive (.ok (status, body))) : motive d := by
  match d with
  | .error e => exact undelivered e
  | .ok (status, body) =>
    cases hnotFound : status.isNotFound with
    | true =>
      exact notFound status body hnotFound (Status.not_isSuccess_of_isNotFound hnotFound)
    | false =>
      cases hsuccess : status.isSuccess with
      | true => exact success status body hnotFound hsuccess
      | false => exact other status body hnotFound hsuccess

/-- The method of a request is the one it was prepared for. -/
theorem method_of_prepare {method : Method} {url apiKey workspace : String} {body : Option String}
    {request : Request} (h : prepare method url apiKey workspace body = .ok request) :
    request.method = method := by
  unfold prepare at h
  split at h
  · cases h
  · -- each fault ends in an error; what is left is the request
    simp only at h
    split_ifs at h
    cases h
    rfl

/-- **What was heard says something**: a response came, and its status and body do. -/
def Says (heard : Option Response) (P : Status → Option (List UInt8) → Prop) : Prop :=
  ∃ status body, heard = some (status, body) ∧ P status body

@[simp] theorem not_says_none {P : Status → Option (List UInt8) → Prop} : ¬Says none P := by
  simp [Says]

@[simp] theorem says_some {status : Status} {body : Option (List UInt8)}
    {P : Status → Option (List UInt8) → Prop} : Says (some (status, body)) P ↔ P status body := by
  simp [Says]

namespace Client

/-! ### What answers have to say -/

/-- A response of success was heard, with such a body. -/
def SaysSuccessWith (heard : Option Response) (P : Option (List UInt8) → Prop) : Prop :=
  Says heard fun status body => (200 ≤ status.code ∧ status.code < 300) ∧ P body

/-- A response of success was heard, with whatever body. -/
def SaysSuccess (heard : Option Response) : Prop := SaysSuccessWith heard fun _ => True

/-- A response was heard that says that nothing was found. -/
def SaysNotFound (heard : Option Response) : Prop := Says heard fun status _ => status.code = 404

/-- A whole body describes a sandbox. Bytes that are no text are replaced before it is read. -/
def Describes (body : Option (List UInt8)) (sandbox : Sandbox) : Prop :=
  ∃ bytes, body = some bytes ∧
    (Json.parse? (Text.Utf8.lossy bytes)).bind Sandbox.ofJson? = some sandbox

/-- A whole body writes a resource. Its bytes are a document, of which what is read is text. -/
def Writes (read? : Json → Option α) (body : Option (List UInt8)) (resource : α) : Prop :=
  ∃ bytes json, body = some bytes ∧ Json.ofBytes? bytes = some json ∧ read? json = some resource

/-- **A faithful answer to a lookup.** A success is a sandbox: the one that is described, or one
of which nothing is known but the name that was asked for. -/
structure FaithfulLookup (heard : Option Response) (name : String) (answer : Lookup Sandbox) :
    Prop where
  notFound : answer = .notFound ↔ SaysNotFound heard
  found : (∃ sandbox, answer = .found sandbox) ↔ SaysSuccess heard
  transient : (∃ error, answer = .transient error) ↔ ¬SaysNotFound heard ∧ ¬SaysSuccess heard
  described : ∀ sandbox, SaysSuccessWith heard (Describes · sandbox) → answer = .found sandbox
  sparse : (SaysSuccessWith heard fun body => ∀ sandbox, ¬Describes body sandbox) →
    answer = .found { metadata := { name }, spec := { region := none } }

/-- **A faithful answer to a deletion.** -/
structure FaithfulDeletion (heard : Option Response) (answer : Except Failure Unit) : Prop where
  done : answer = .ok () ↔ SaysSuccess heard
  notFound : (∃ text, answer = .error (.notFound text)) ↔ SaysNotFound heard
  backend : (∃ text, answer = .error (.backend text)) ↔ ¬SaysSuccess heard ∧ ¬SaysNotFound heard

/-- **A faithful answer to a command.** A success whose body breaks off is none. -/
structure FaithfulExecution (heard : Option Response) (answer : Except Failure ExecOutput) :
    Prop where
  done : (∃ output, answer = .ok output) ↔ SaysSuccessWith heard (· ≠ none)
  notFound : (∃ text, answer = .error (.notFound text)) ↔ SaysNotFound heard
  exec : (∃ text, answer = .error (.exec text)) ↔
    ¬SaysSuccessWith heard (· ≠ none) ∧ ¬SaysNotFound heard

/-- **A faithful answer to a creation.** That nothing was found is no answer to it. -/
structure FaithfulCreation (read? : Json → Option α) (heard : Option Response)
    (answer : Except Failure α) : Prop where
  made : ∀ resource, answer = .ok resource ↔ SaysSuccessWith heard (Writes read? · resource)
  unreadable : (∃ text, answer = .error (.unreadable text)) ↔
    SaysSuccessWith heard fun body => ∀ resource, ¬Writes read? body resource
  provision : (∃ text, answer = .error (.provision text)) ↔ ¬SaysSuccess heard

/-- **What an answer has to say**, by what was heard of the call. -/
def Faithful (heard : Option Response) : (c : Call) → c.Answer → Prop
  | .createVolume _, answer => FaithfulCreation Volume.ofJson? heard answer
  | .deleteVolume _, answer => FaithfulDeletion heard answer
  | .createSandbox _, answer => FaithfulCreation Sandbox.ofJson? heard answer
  | .getSandbox name, answer => FaithfulLookup heard name answer
  | .deleteSandbox _, answer => FaithfulDeletion heard answer
  | .exec _ _, answer => FaithfulExecution heard answer

/-! ### The answers are faithful -/

variable {status : Status} {body : Option (List UInt8)}

@[simp] theorem saysSuccessWith_some {P : Option (List UInt8) → Prop} :
    SaysSuccessWith (some (status, body)) P ↔ status.isSuccess = true ∧ P body := by
  simp [SaysSuccessWith, Status.isSuccess]

@[simp] theorem not_saysSuccessWith_none {P : Option (List UInt8) → Prop} :
    ¬SaysSuccessWith none P := not_says_none

@[simp] theorem saysSuccess_some :
    SaysSuccess (some (status, body)) ↔ status.isSuccess = true := by
  simp [SaysSuccess]

@[simp] theorem not_saysSuccess_none : ¬SaysSuccess none := not_says_none

@[simp] theorem saysNotFound_some :
    SaysNotFound (some (status, body)) ↔ status.isNotFound = true := by
  simp [SaysNotFound, Status.isNotFound]

@[simp] theorem not_saysNotFound_none : ¬SaysNotFound none := not_says_none

/-- A body that broke off describes nothing, since an empty text is no document. -/
theorem described?_none : described? none = none := by decide

theorem described?_eq_some {sandbox : Sandbox} :
    described? body = some sandbox ↔ Describes body sandbox := by
  cases body with
  | none => simp [described?_none, Describes]
  | some bytes => simp [described?, bodyText, Describes]

theorem described?_eq_none :
    described? body = none ↔ ∀ sandbox, ¬Describes body sandbox := by
  simp [Option.eq_none_iff_forall_ne_some, described?_eq_some]

theorem resource?_eq_some {read? : Json → Option α} {resource : α} :
    resource? read? body = some resource ↔ Writes read? body resource := by
  simp [resource?, Writes, Option.bind_eq_some_iff]

theorem resource?_eq_none {read? : Json → Option α} :
    resource? read? body = none ↔ ∀ resource, ¬Writes read? body resource := by
  simp [Option.eq_none_iff_forall_ne_some, resource?_eq_some]

/-- A member that is not read may hold a byte that is no text. -/
example : resource? Volume.ofJson?
    (some ("\x7b\"metadata\":\x7b\"name\":\"v\"\x7d,\"x\":\"".toUTF8.toList ++
      0xFF :: "\"\x7d".toUTF8.toList)) = some { metadata := { name := "v" } } := by
  decide +kernel

/-- Lookups are answered faithfully. -/
theorem faithful_lookedUp (name : String) (d : Delivery) :
    FaithfulLookup d.toOption name (lookedUp name d) := by
  cases d using Delivery.ladder with
  | undelivered e => constructor <;> simp [lookedUp, Except.toOption]
  | notFound status body hnotFound hsuccess =>
    constructor <;> simp [lookedUp, Except.toOption, hnotFound, hsuccess]
  | success status body hnotFound hsuccess =>
    have hfound : lookedUp name (.ok (status, body)) =
        .found ((described? body).getD (.named name)) := by
      simp [lookedUp, hnotFound, hsuccess]
    rw [hfound]
    constructor
    case described =>
      intro sandbox hdescribes
      rw [described?_eq_some.mpr (saysSuccessWith_some.mp hdescribes).2]
      rfl
    case sparse =>
      intro hnone
      rw [described?_eq_none.mpr (saysSuccessWith_some.mp hnone).2]
      rfl
    all_goals simp [Except.toOption, hnotFound, hsuccess]
  | other status body hnotFound hsuccess =>
    constructor <;> simp [lookedUp, Except.toOption, hnotFound, hsuccess]

/-- Deletions are answered faithfully. -/
theorem faithful_deleted (kind name : String) (d : Delivery) :
    FaithfulDeletion d.toOption (deleted kind name d) := by
  cases d using Delivery.ladder with
  | undelivered e => constructor <;> simp [deleted, Except.toOption]
  | notFound status body hnotFound hsuccess
  | success status body hnotFound hsuccess
  | other status body hnotFound hsuccess =>
    constructor <;> simp [deleted, Except.toOption, hnotFound, hsuccess]

/-- Commands are answered faithfully. -/
theorem faithful_executed (sandbox : String) (d : Delivery) :
    FaithfulExecution d.toOption (executed sandbox d) := by
  cases d using Delivery.ladder with
  | undelivered e => constructor <;> simp [executed, Except.toOption]
  | success status body hnotFound hsuccess =>
    -- the output is the body, so a body has to be there
    cases body <;> constructor <;> simp [executed, Except.toOption, hnotFound, hsuccess]
  | notFound status body hnotFound hsuccess
  | other status body hnotFound hsuccess =>
    constructor <;> simp [executed, Except.toOption, hnotFound, hsuccess]

/-- Creations are answered faithfully. -/
theorem faithful_created (kind : String) (read? : Json → Option α) (d : Delivery) :
    FaithfulCreation read? d.toOption (created kind read? d) := by
  cases d using Delivery.ladder with
  | undelivered e => constructor <;> simp [created, Except.toOption]
  | success status body hnotFound hsuccess =>
    cases hresource : resource? read? body with
    | none =>
      have hnone := resource?_eq_none.mp hresource
      constructor <;> simp [created, Except.toOption, hsuccess, hresource, hnone]
    | some resource =>
      constructor <;> simp [created, Except.toOption, hsuccess, hresource, ← resource?_eq_some]
  | notFound status body hnotFound hsuccess
  | other status body hnotFound hsuccess =>
    constructor <;> simp [created, Except.toOption, hsuccess]

/-- **Every answer is faithful** to what came of its request. -/
theorem faithful_answer (c : Call) (d : Delivery) : Faithful d.toOption c (answer c d) := by
  cases c with
  | createVolume request => exact faithful_created "volume" Volume.ofJson? d
  | deleteVolume name => exact faithful_deleted "volume" name d
  | createSandbox request => exact faithful_created "sandbox" Sandbox.ofJson? d
  | getSandbox name => exact faithful_lookedUp name d
  | deleteSandbox name => exact faithful_deleted "sandbox" name d
  | exec sandbox command => exact faithful_executed sandbox d

/-! ### What is sent, and what is heard -/

section Session

variable {τ : Type} (client : Client) (t : Transport τ)

/-- **The wire**: all that is sent for some calls, in order. -/
def wire : List Call → Session τ → List Sending
  | [], _ => []
  | c :: cs, s => (client.sending? t c s).toList ++ wire cs ((client.platform t).next c s)

variable {client t} {c : Call} {cs ds : List Call} {s : Session τ} {x : Sending}

/-- **A server's answers**: no call crashes, and every answer is faithful to what was heard. -/
theorem faithful_reply (client : Client) (t : Transport τ) (c : Call) (s : Session τ) :
    ∃ answer, ((client.platform t).reply c s).1 = .ok answer ∧
      Faithful (client.heard t c s) c answer := by
  have hfaithful := faithful_answer c (client.delivered t c s)
  rw [toOption_delivered] at hfaithful
  exact ⟨_, congrArg Prod.fst (client.reply_eq t c s), hfaithful⟩

/-- **A call leaves the transport** as what is sent for it does. -/
theorem transport_next : ((client.platform t).next c s).transport =
    t.after (client.sent t c s) s.transport := by
  rw [Platform.next, reply_eq]

/-- **Calls leave the transport** as what stands on the wire does. -/
theorem transport_after : ((client.platform t).after cs s).transport =
    t.after ((client.wire t cs s).flatMap (·.requests)) s.transport := by
  induction cs generalizing s with
  | nil => rfl
  | cons c cs ih =>
    rw [Platform.after_cons, ih, transport_next, wire, List.flatMap_append, Transport.after_append]
    rfl

/-- **A routine sends what stands on the wire**, and nothing else: it leaves the transport as that
does. -/
theorem transport_runOn {α : Type} (client : Client) (t : Transport τ) (routine : Routine α)
    (s : Session τ) :
    (routine.runOn (client.platform t) s).state.transport =
      t.after ((client.wire t (routine.runOn (client.platform t) s).trace.calls s).flatMap
        (·.requests)) s.transport := by
  rw [← transport_after]
  exact congrArg _ (Script.run_state (client.platform t) routine.run s)

theorem wire_append : client.wire t (cs ++ ds) s =
    client.wire t cs s ++ client.wire t ds ((client.platform t).after cs s) := by
  induction cs generalizing s with
  | nil => simp [wire]
  | cons c cs ih => simp [wire, ih]

/-- What is sent for a call is that call's request. -/
theorem request_of_sending? (h : client.sending? t c s = some x) :
    x.call = c ∧ client.request c = .ok x.request := by
  cases hrequest : client.request c with
  | error e => simp [sending?, hrequest, Except.toOption] at h
  | ok request =>
    obtain rfl : _ = x := by simpa [sending?, hrequest, Except.toOption] using h
    exact ⟨rfl, rfl⟩

/-- What follows it is a chain of redirects, no longer than may be followed. -/
theorem isChain_of_sending? (h : client.sending? t c s = some x) :
    List.IsChain t.Redirects x.requests ∧ x.redirected.length ≤ redirectLimit := by
  rw [sending?_of_ok (request_of_sending? h).2, Option.some.injEq] at h
  rw [← h]
  exact t.isChain_follow redirectLimit x.request s.transport

/-- What stands on the wire was sent for one of the calls, after all that was sent for those
before it. -/
theorem exists_of_wire_eq {pre post : List Sending} (h : client.wire t cs s = pre ++ x :: post) :
    ∃ before after, cs = before ++ x.call :: after ∧ client.wire t before s = pre := by
  induction cs generalizing s pre with
  | nil => simp [wire] at h
  | cons c cs ih =>
    cases hsending : client.sending? t c s with
    | none =>
      -- nothing is sent for the first call
      simp only [wire, hsending, Option.toList_none, List.nil_append] at h
      obtain ⟨before, after, rfl, rfl⟩ := ih h
      exact ⟨c :: before, after, rfl, by simp [wire, hsending]⟩
    | some y =>
      simp only [wire, hsending, Option.toList_some, List.singleton_append] at h
      rcases List.cons_eq_append_iff.mp h with ⟨rfl, hx⟩ | ⟨pre', rfl, hrest⟩
      · obtain ⟨rfl, -⟩ := List.cons.inj hx
        obtain ⟨rfl, -⟩ := request_of_sending? hsending
        exact ⟨[], cs, rfl, rfl⟩
      · obtain ⟨before, after, rfl, rfl⟩ := ih hrest
        exact ⟨c :: before, after, rfl, by simp [wire, hsending]⟩

/-- What stands on the wire was sent for one of the calls. -/
theorem call_mem_of_mem_wire (h : x ∈ client.wire t cs s) : x.call ∈ cs := by
  obtain ⟨pre, post, hsplit⟩ := List.append_of_mem h
  obtain ⟨before, after, rfl, -⟩ := exists_of_wire_eq hsplit
  simp

/-- A call whose request can be made stands on the wire. -/
theorem exists_mem_wire (hc : c ∈ cs) (hr : (client.request c).isOk = true) :
    ∃ x ∈ client.wire t cs s, x.call = c := by
  induction hc generalizing s with
  | head cs =>
    cases hrequest : client.request c with
    | error e => simp [hrequest, Except.isOk, Except.toBool] at hr
    | ok r => exact ⟨_, by rw [wire, sending?_of_ok hrequest]; exact List.mem_cons_self, rfl⟩
  | tail d _ ih =>
    obtain ⟨x, hx, hcall⟩ := ih (s := (client.platform t).next d s)
    exact ⟨x, List.mem_append_right _ hx, hcall⟩

/-- What stands on the wire was sent for its call, at some time. -/
theorem exists_sending_of_mem_wire (h : x ∈ client.wire t cs s) :
    ∃ s', client.sending? t x.call s' = some x := by
  induction cs generalizing s with
  | nil => cases h
  | cons c cs ih =>
    rcases List.mem_append.1 h with h | h
    · have hsending := Option.mem_toList.1 h
      obtain ⟨rfl, -⟩ := request_of_sending? hsending
      exact ⟨s, hsending⟩
    · exact ih h

/-- What stands on the wire is the request of its call. -/
theorem request_of_mem_wire (h : x ∈ client.wire t cs s) :
    client.request x.call = .ok x.request := by
  obtain ⟨s', hsending⟩ := exists_sending_of_mem_wire h
  exact (request_of_sending? hsending).2

/-- What follows it is a chain of redirects. -/
theorem isChain_of_mem_wire (h : x ∈ client.wire t cs s) :
    List.IsChain t.Redirects x.requests := by
  obtain ⟨s', hsending⟩ := exists_sending_of_mem_wire h
  exact (isChain_of_sending? hsending).1

/-- A lookup that finds nothing was sent, and the response to it says so. -/
theorem exists_sending_of_notFound {name : String}
    (h : ((client.platform t).reply (.getSandbox name) s).1 = .ok .notFound) :
    ∃ get redirected status body, client.sending? t (.getSandbox name) s =
        some ⟨.getSandbox name, get, redirected, some (status, body)⟩ ∧ status.code = 404 := by
  obtain ⟨answer, hanswer, hfaithful⟩ := client.faithful_reply t (.getSandbox name) s
  obtain rfl : answer = .notFound := by simpa [h] using hanswer.symm
  obtain ⟨status, body, hheard, hcode⟩ := hfaithful.notFound.mp rfl
  obtain ⟨⟨c, get, redirected, response⟩, hsending, rfl⟩ := Option.bind_eq_some_iff.mp hheard
  obtain ⟨rfl, -⟩ := request_of_sending? hsending
  exact ⟨get, redirected, status, body, hsending, hcode⟩

end Session

/-! ### The second sandbox of a check -/

section Check

variable {τ : Type} {client : Client} {t : Transport τ} {plan : Plan} {s : Session τ}

/-- **An open gate on the wire**: where a failed lookup counts as an attempt, the last that was
sent is a lookup of the first sandbox, and the response says that there is none. -/
theorem exists_wire_of_gateOpen {pre rest : List Exchange}
    (hpolicy : plan.policy.onFailure = .countAsAttempt) (hopen : plan.GateOpen pre)
    (h : (client.platform t).RepliesWith (pre ++ rest) s) :
    ∃ earlier get redirected status body, client.wire t (pre.map (·.call)) s = earlier ++
        [⟨.getSandbox plan.names.firstSandbox, get, redirected, some (status, body)⟩] ∧
      client.request (.getSandbox plan.names.firstSandbox) = .ok get ∧ status.code = 404 := by
  obtain ⟨pre, rfl⟩ := Plan.exists_of_gateOpen hpolicy hopen
  rw [List.append_assoc] at h
  obtain ⟨get, redirected, status, body, hsending, hcode⟩ := exists_sending_of_notFound h.reply_eq
  refine ⟨client.wire t (pre.map (·.call)) s, get, redirected, status, body, ?_,
    (request_of_sending? hsending).2, hcode⟩
  rw [List.map_append, wire_append]
  simp [wire, hsending]

/-- **What is sent before a request for a sandbox**, by a check that counts a failed lookup as an
attempt: nothing but a request for the volume, or, at last, a lookup of the first sandbox that the
server answered with a 404. -/
theorem exists_wire_before (hpolicy : plan.policy.onFailure = .countAsAttempt)
    {pre post : List Sending} {x : Sending} {request : SandboxRequest}
    (h : client.wire t (plan.check.runOn (client.platform t) s).trace.calls s = pre ++ x :: post)
    (hx : x.call = .createSandbox request) :
    (request = plan.firstRequest ∧ ∀ y ∈ pre, y.call = .createVolume plan.volumeRequest) ∨
      request = plan.secondRequest ∧ ∃ earlier get redirected status body, pre = earlier ++
          [⟨.getSandbox plan.names.firstSandbox, get, redirected, some (status, body)⟩] ∧
        client.request (.getSandbox plan.names.firstSandbox) = .ok get ∧
          get.method = .get ∧ status.code = 404 := by
  obtain ⟨before, after, hcalls, rfl⟩ := exists_of_wire_eq h
  rw [hx] at hcalls
  have hbefore : before ++ .createSandbox request :: after <+:
      (plan.check.runOn (client.platform t) s).trace.calls := hcalls ▸ List.prefix_refl _
  obtain ⟨pre, rest, heq, rfl, ⟨hpre, hrequest⟩ | ⟨hopen, hrequest⟩⟩ :=
    Plan.exists_mayRequest hbefore
  · refine .inl ⟨hrequest, fun y hy => ?_⟩
    rw [hpre] at hy
    exact List.mem_singleton.mp (call_mem_of_mem_wire hy)
  · have hreplies := Script.repliesWith_run (client.platform t) plan.judge s
    rw [heq] at hreplies
    obtain ⟨earlier, get, redirected, status, body, hwire, hget, hcode⟩ :=
      exists_wire_of_gateOpen hpolicy hopen hreplies
    exact .inr ⟨hrequest, earlier, get, redirected, status, body, hwire, hget,
      method_of_prepare hget, hcode⟩

end Check

/-- **An absence is never invented.** Whatever comes of a request, the answer is faithful to it: a
lookup finds nothing only if a response says so. So a check that counts a failed lookup as an
attempt sends for its second sandbox only right after the server itself answered a lookup of the
first with a 404. What stands on the wire is what the transport is handed, be it one that keeps a
record or any other, and that is one request for each sending where nothing is redirected. -/
theorem absence_is_never_invented (client : Client) {τ : Type} (t : Transport τ) :
    (∀ c s, ∃ answer, ((client.platform t).reply c s).1 = .ok answer ∧
      Faithful (client.heard t c s) c answer) ∧
    ∀ (plan : Plan) (s : Session τ),
      let run := plan.check.runOn (client.platform t) s
      let wire := client.wire t run.trace.calls s
      run.state.transport = t.after (wire.flatMap (·.requests)) s.transport ∧
      (t.NeverRedirects → ∀ x ∈ wire, x.requests = [x.request]) ∧
      (plan.policy.onFailure = .countAsAttempt → ∀ pre x post request,
        wire = pre ++ x :: post → x.call = .createSandbox request →
          (request = plan.firstRequest ∧ ∀ y ∈ pre, y.call = .createVolume plan.volumeRequest) ∨
          request = plan.secondRequest ∧ ∃ earlier get redirected status body, pre = earlier ++
              [⟨.getSandbox plan.names.firstSandbox, get, redirected, some (status, body)⟩] ∧
            client.request (.getSandbox plan.names.firstSandbox) = .ok get ∧
            get.method = .get ∧ status.code = 404) := by
  refine ⟨client.faithful_reply t, fun plan s => ⟨client.transport_runOn t plan.check s, ?_, ?_⟩⟩
  · intro hnever x hx
    rw [Sending.requests, hnever.eq_nil (isChain_of_mem_wire hx)]
  · exact fun hpolicy pre x post request h hx => exists_wire_before hpolicy h hx

/-- A check of which each request is agreed to, with a server on the same machine: it sends for its
second sandbox, and right before it stands the lookup that was answered with a 404. -/
theorem absence_is_never_invented_by_agreeing_server : ∃ (client : Client) (plan : Plan),
    plan.policy.onFailure = .countAsAttempt ∧
    ∃ pre x post earlier get status body,
      client.wire .agreeing
        (plan.check.runOn (client.platform .agreeing) { transport := [] }).trace.calls
        { transport := [] } = pre ++ x :: post ∧
      x.call = .createSandbox plan.secondRequest ∧
      pre = earlier ++ [⟨.getSandbox plan.names.firstSandbox, get, [], some (status, body)⟩] ∧
      get.method = .get ∧ status.code = 404 := by
  -- any check that comes to its second sandbox is one
  have hgate (client : Client) (plan : Plan) (hpolicy : plan.policy.onFailure = .countAsAttempt)
      (hne : plan.secondRequest ≠ plan.firstRequest)
      (hcall : .createSandbox plan.secondRequest ∈
        (plan.check.runOn (client.platform .agreeing) { transport := [] }).trace.calls)
      (hrequest : (client.request (.createSandbox plan.secondRequest)).isOk = true) :
      ∃ pre x post earlier get status body,
        client.wire .agreeing
          (plan.check.runOn (client.platform .agreeing) { transport := [] }).trace.calls
          { transport := [] } = pre ++ x :: post ∧
        x.call = .createSandbox plan.secondRequest ∧
        pre = earlier ++ [⟨.getSandbox plan.names.firstSandbox, get, [], some (status, body)⟩] ∧
        get.method = .get ∧ status.code = 404 := by
    obtain ⟨-, hnever, hbefore⟩ :=
      (absence_is_never_invented client .agreeing).2 plan { transport := [] }
    obtain ⟨x, hx, hcall⟩ :=
      exists_mem_wire (t := .agreeing) (s := { transport := [] }) hcall hrequest
    obtain ⟨pre, post, hsplit⟩ := List.append_of_mem hx
    rcases hbefore hpolicy pre x post _ hsplit hcall with ⟨hfirst, -⟩ | ⟨-, hlookup⟩
    · exact absurd hfirst hne
    · obtain ⟨earlier, get, redirected, status, body, hpre, -, hget, hcode⟩ := hlookup
      have hnone := hnever Transport.agreeing_neverRedirects
        ⟨.getSandbox plan.names.firstSandbox, get, redirected, some (status, body)⟩
        (by rw [hsplit, hpre]; simp)
      obtain rfl : redirected = [] := (List.cons.inj hnone).2
      exact ⟨pre, x, post, earlier, get, status, body, hsplit, hcall, hpre, hget, hcode⟩
  exact ⟨ofConnection ⟨"http://localhost", "http://localhost", "ws", "key"⟩,
    { names := ⟨"volume", "first", "second"⟩, image := "image",
      policy := { onFailure := .countAsAttempt } }, rfl,
    hgate _ _ rfl (by decide) (by decide +kernel) (by decide +kernel)⟩

end Client

end Http

end RemountCheck
