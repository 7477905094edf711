import Mathlib.Data.List.Basic
import RemountCheck.Proofs.Cleanup
import RemountCheck.Proofs.Residents

/-!
# The gate before the second sandbox

A check asks for its second sandbox only when the first was deleted and is known to be gone, so
that the two never hold the volume together. This module says what stands before each sandbox
that a check asks for, on every platform, and what follows from it for a platform in memory.

* `RemountCheck.sandboxRequests` – the sandboxes that some calls ask for;
* `RemountCheck.Plan.GateOpen` – what stands before the second sandbox is asked for: an accepted
  deletion of the first, then lookups of it, of which the last confirmed the absence;
* `RemountCheck.Plan.MayRequest` – what stands before either sandbox is asked for. Nothing else
  ever does (`RemountCheck.Plan.Trail.gate`);
* `RemountCheck.Plan.second_sandbox_waits_for_first` – the gate, and the one holder of the volume
  at every moment of a check on a platform in memory.

| until | who may hold the volume | why |
|---|---|---|
| the second sandbox is asked for | the first | nothing else was asked for |
| it is | nobody | a lookup found none |
| the end of the cleanup | the second | nothing else is asked for any more |

That a lookup found none is what the gate says only where a failed lookup counts as an attempt.
Where it is taken for an absence, a sandbox that lingers is overlooked.
-/

namespace RemountCheck

/-! ### Asking for sandboxes -/

/-- **The sandboxes that some calls ask for**, in order. -/
def sandboxRequests (cs : List Call) : List SandboxRequest := cs.filterMap Call.sandboxRequest?

@[simp] theorem sandboxRequests_nil : sandboxRequests [] = [] := rfl

@[simp] theorem sandboxRequests_append (cs ds : List Call) :
    sandboxRequests (cs ++ ds) = sandboxRequests cs ++ sandboxRequests ds := by
  simp [sandboxRequests]

@[simp] theorem sandboxRequests_cons (c : Call) (cs : List Call) :
    sandboxRequests (c :: cs) = c.sandboxRequest?.toList ++ sandboxRequests cs := by
  cases h : c.sandboxRequest? <;> simp [sandboxRequests, h]

theorem mem_sandboxRequests {request : SandboxRequest} {cs : List Call} :
    request ∈ sandboxRequests cs ↔ .createSandbox request ∈ cs := by
  simp [sandboxRequests, Call.sandboxRequest?_eq_some]

/-- What asks for no sandbox is not a call that asks for one. -/
theorem notMem_of_sandboxRequests {request : SandboxRequest} {cs : List Call}
    (h : sandboxRequests cs = []) : .createSandbox request ∉ cs := by
  rw [← mem_sandboxRequests, h]
  exact List.not_mem_nil

/-- Where only one of several calls asks for a sandbox, that one does. -/
theorem eq_of_calls_isPrefix {pre post : List Exchange} {x : Exchange} {cs ds : List Call}
    {c : Call} {request : SandboxRequest}
    (h : (pre ++ x :: post).map (·.call) <+: cs ++ c :: ds)
    (hx : x.call = .createSandbox request) (hcs : sandboxRequests cs = [])
    (hds : sandboxRequests ds = []) : pre.map (·.call) = cs ∧ x.call = c := by
  obtain ⟨left, hleft⟩ := h
  have heq : cs ++ c :: ds = pre.map (·.call) ++ x.call :: (post.map (·.call) ++ left) := by
    simp [← hleft]
  have hbefore : x.call ∉ cs := hx ▸ notMem_of_sandboxRequests hcs
  have hafter : x.call ∉ ds := hx ▸ notMem_of_sandboxRequests hds
  obtain ⟨h₁, h₂, -⟩ := (List.append_cons_inj_of_notMem hbefore hafter).mp heq
  exact ⟨h₁.symm, h₂.symm⟩

/-- Where two sandboxes are asked for, the calls split at the second. -/
theorem exists_of_sandboxRequests_eq_pair {cs : List Call} {first second : SandboxRequest}
    (h : sandboxRequests cs = [first, second]) :
    ∃ before after, cs = before ++ .createSandbox second :: after ∧
      sandboxRequests before = [first] ∧ sandboxRequests after = [] := by
  obtain ⟨front, back, rfl, hfront, hback⟩ :=
    List.filterMap_eq_append_iff.mp (show sandboxRequests cs = [_] ++ [_] from h)
  obtain ⟨quiet, c, after, rfl, hquiet, hc, hafter⟩ := List.filterMap_eq_cons_iff.mp hback
  obtain rfl := Call.sandboxRequest?_eq_some.mp hc
  refine ⟨front ++ quiet, after, by simp, ?_, hafter⟩
  rw [sandboxRequests_append]
  exact congrArg₂ (· ++ ·) hfront (List.filterMap_eq_nil_iff.mpr hquiet)

namespace Plan

variable (plan : Plan)

/-- Asking for a sandbox changes something. -/
theorem sandboxRequests_filter (cs : List Call) :
    sandboxRequests (cs.filter plan.isMutation) = sandboxRequests cs := by
  rw [sandboxRequests, List.filterMap_filter]
  refine List.filterMap_congr fun c _ => ?_
  cases c <;> simp [isMutation, Call.sandboxRequest?]

/-- Calls that change nothing ask for no sandbox. -/
theorem sandboxRequests_eq_nil {cs : List Call} (h : cs.filter plan.isMutation = []) :
    sandboxRequests cs = [] := by
  rw [← plan.sandboxRequests_filter, h, sandboxRequests_nil]

/-- A course asks for the first sandbox and then for the second. -/
theorem sandboxRequests_course (lookups : Nat) :
    sandboxRequests (plan.course lookups).calls = [plan.firstRequest, plan.secondRequest] := by
  rw [← plan.sandboxRequests_filter, filter_course]
  rfl

/-- Up to the end of the wait, only the second call of a course asks for a sandbox. -/
theorem exists_outward_calls (lookups : Nat) :
    ∃ rest, plan.outward.calls ++ (plan.waiting lookups).calls =
        [.createVolume plan.volumeRequest] ++ .createSandbox plan.firstRequest :: rest ∧
      sandboxRequests rest = [] := by
  refine ⟨plan.regionLookup plan.names.firstSandbox ++ plan.writeCall ::
    (plan.inspection plan.names.firstSandbox plan.firstMount false ++
      .deleteSandbox plan.names.firstSandbox :: (plan.waiting lookups).calls),
    by simp [outward], ?_⟩
  have hwaiting : (plan.waiting lookups).calls.filter plan.isMutation = [] := by
    simp [waiting, isMutation]
  simp [plan.sandboxRequests_eq_nil (filter_regionLookup _),
    plan.sandboxRequests_eq_nil (filter_inspection ..), plan.sandboxRequests_eq_nil hwaiting,
    writeCall, Call.sandboxRequest?]

/-- After the wait, only the first call of a course asks for a sandbox. -/
theorem exists_homeward_calls :
    ∃ rest, plan.homeward.calls = [] ++ .createSandbox plan.secondRequest :: rest ∧
      sandboxRequests rest = [] := by
  refine ⟨plan.regionLookup plan.names.secondSandbox ++
    plan.inspection plan.names.secondSandbox plan.secondMount true,
    by simp [homeward], plan.sandboxRequests_eq_nil ?_⟩
  simp [filter_regionLookup, filter_inspection]

/-! ### The gate -/

/-- **The gate before the second sandbox is open**: the deletion of the first was accepted,
lookups of it followed that confirmed nothing, and at last one that confirmed its absence. -/
def GateOpen (pre : List Exchange) : Prop :=
  ∃ ys vs found,
    pre = ys ++ ⟨.deleteSandbox plan.names.firstSandbox, .ok (.ok ())⟩ ::
      (vs ++ [⟨.getSandbox plan.names.firstSandbox, .ok found⟩]) ∧
    (∀ v ∈ vs, plan.policy.LeavesOpen plan.names.firstSandbox v) ∧
    match plan.policy.onFailure with
    | .countAsAttempt => found = .notFound
    | .treatAsAbsent => found = .notFound ∨ ∃ error, found = .transient error

variable {plan} {xs ws : List Exchange}

/-- Where a failed lookup counts as an attempt, an open gate has as its last exchange a lookup
of the first sandbox that found none. -/
theorem exists_of_gateOpen {pre : List Exchange} (hpolicy : plan.policy.onFailure = .countAsAttempt)
    (hopen : plan.GateOpen pre) :
    ∃ before, pre = before ++ [⟨.getSandbox plan.names.firstSandbox, .ok .notFound⟩] := by
  obtain ⟨ys, vs, found, rfl, -, hfound⟩ := hopen
  obtain rfl : found = .notFound := by simpa [hpolicy] using hfound
  exact ⟨ys ++ ⟨.deleteSandbox plan.names.firstSandbox, .ok (.ok ())⟩ :: vs, by simp⟩

/-- The way to the wait ends with an accepted deletion. -/
theorem exists_of_outward_completed (h : plan.outward.Completed xs) :
    ∃ ys, xs = ys ++ [⟨.deleteSandbox plan.names.firstSandbox, .ok (.ok ())⟩] := by
  obtain ⟨hcalls, hsucceeded⟩ := h
  rw [outward, ← List.append_assoc, ← List.append_assoc, ← List.append_assoc,
    Course.calls_append, Course.calls_ofStep] at hcalls
  obtain ⟨ys, zs, rfl, -, hlast⟩ := List.map_eq_append_iff.mp hcalls
  obtain ⟨⟨c, reply⟩, rfl, hc⟩ := List.map_eq_singleton_iff.mp hlast
  obtain rfl : c = _ := hc
  have hreply := hsucceeded ⟨_, reply⟩ (by simp)
  refine ⟨ys, ?_⟩
  rcases reply with crash | failure | _
  · simp [Exchange.succeeded] at hreply
  · simp [Exchange.succeeded, Call.isSuccess, Except.isOk, Except.toBool] at hreply
  · rfl

/-- A wait that ends with an absence opens the gate. -/
theorem gateOpen_of_waits {budget : Nat} (made : plan.outward.Completed xs)
    (wait : plan.policy.Waits plan.names.firstSandbox budget ws (.ok true)) :
    plan.GateOpen (xs ++ ws) := by
  obtain ⟨ys, rfl⟩ := exists_of_outward_completed made
  obtain ⟨vs, found, rfl, hfound, hvs, -⟩ := wait
  refine ⟨ys, vs, found, by simp, hvs, ?_⟩
  have hfound := Policy.confirms_iff.mp hfound
  cases honFailure : plan.policy.onFailure with
  | countAsAttempt => simpa [honFailure] using hfound
  | treatAsAbsent => simpa [honFailure] using hfound

/-- **What stands before a sandbox that is asked for**: before the first, the creation of the
volume and nothing else; before the second, an open gate. -/
def MayRequest (plan : Plan) (request : SandboxRequest) (pre : List Exchange) : Prop :=
  pre.map (·.call) = [.createVolume plan.volumeRequest] ∧ request = plan.firstRequest ∨
    plan.GateOpen pre ∧ request = plan.secondRequest

variable {pre post : List Exchange} {x : Exchange} {request : SandboxRequest} {lookups : Nat}

/-- Up to the end of the wait, only the first sandbox is asked for. -/
theorem mayRequest_of_outward (lookups : Nat) (post : List Exchange)
    (h : (pre ++ x :: post).map (·.call) <+: plan.outward.calls ++ (plan.waiting lookups).calls)
    (hx : x.call = .createSandbox request) : plan.MayRequest request pre := by
  obtain ⟨rest, hrest, hnone⟩ := plan.exists_outward_calls lookups
  rw [hrest] at h
  obtain ⟨hpre, hcall⟩ := eq_of_calls_isPrefix h hx rfl hnone
  exact .inl ⟨hpre, Call.createSandbox.inj (hx.symm.trans hcall)⟩

/-- After the wait, the second sandbox is asked for at once and no other. -/
theorem mayRequest_of_homeward (made : plan.outward.Completed xs)
    (wait : plan.policy.Waits plan.names.firstSandbox plan.policy.maxAttempts.toNat ws (.ok true))
    {ys : List Exchange} (hys : ys.map (·.call) <+: plan.homeward.calls)
    (heq : xs ++ ws ++ ys = pre ++ x :: post) (hx : x.call = .createSandbox request) :
    plan.MayRequest request pre := by
  have hway : (xs ++ ws).map (·.call) = plan.outward.calls ++ (plan.waiting ws.length).calls := by
    simp [made.1, wait.calls_eq.2, waiting]
  -- after the wait there is one place for the request, right behind the last lookup
  have homeward (pre' : List Exchange) (hpre : pre = xs ++ ws ++ pre')
      (hys' : ys = pre' ++ x :: post) : plan.MayRequest request pre := by
    subst hys'
    obtain ⟨rest, hrest, hnone⟩ := plan.exists_homeward_calls
    rw [hrest] at hys
    obtain ⟨hnil, hcall⟩ := eq_of_calls_isPrefix hys hx rfl hnone
    obtain rfl := List.map_eq_nil_iff.mp hnil
    rw [hpre, List.append_nil]
    exact .inr ⟨gateOpen_of_waits made wait, Call.createSandbox.inj (hx.symm.trans hcall)⟩
  rcases List.append_eq_append_iff.mp heq with ⟨pre', hpre, hys'⟩ | ⟨between, hway', hpost⟩
  · exact homeward pre' hpre hys'
  · cases between with
    | nil => exact homeward [] (by simpa using hway'.symm) (by simpa using hpost.symm)
    | cons y between =>
      -- the request falls before the end of the wait after all
      obtain ⟨rfl, rfl⟩ := List.cons.inj hpost
      rw [hway'] at hway
      exact mayRequest_of_outward ws.length between (hway ▸ List.prefix_refl _) hx

/-- **The gate**: in a trail, nothing else ever stands before a sandbox that is asked for. -/
theorem Trail.gate {stage : Stage} (h : plan.Trail lookups (pre ++ x :: post) stage)
    (hx : x.call = .createSandbox request) : plan.MayRequest request pre := by
  generalize heq : pre ++ x :: post = zs at h
  cases h with
  | cutOutward cut =>
    refine mayRequest_of_outward 0 post ?_ hx
    rw [heq]
    exact cut.calls_isPrefix.trans (List.prefix_append _ _)
  | @waitCrashed xs ws _ made wait =>
    refine mayRequest_of_outward ws.length post ?_ hx
    rw [heq]
    simp [made.1, wait.calls_eq.2, waiting]
  | @timedOut xs ws made wait =>
    refine mayRequest_of_outward ws.length post ?_ hx
    rw [heq]
    simp [made.1, wait.calls_eq.2, waiting]
  | cutHomeward made wait cut =>
    exact mayRequest_of_homeward made wait cut.calls_isPrefix heq.symm hx
  | completed made wait rest =>
    exact mayRequest_of_homeward made wait (rest.1 ▸ List.prefix_refl _) heq.symm hx

/-! ### The requests of a whole check -/

section Check

variable {σ : Type} {p : Platform σ} {s : σ} {cs before after : List Call}

/-- A cleanup asks for no sandbox: the requests of a check are those of its steps. -/
theorem exists_calls_check (plan : Plan) (p : Platform σ) (s : σ) :
    ∃ rest, (plan.check.runOn p s).trace.calls = (plan.judge.run p s).trace.calls ++ rest ∧
      sandboxRequests rest = [] := by
  obtain ⟨xs, w, hxs, hdisposals, -⟩ := plan.leads_check (p := p) (s := s)
  refine ⟨xs.map (·.call), ?_, List.filterMap_eq_nil_iff.mpr fun c hc => ?_⟩
  · rw [Trace.calls_eq_map, Trace.calls_eq_map, ← List.map_append]
    exact congrArg _ hxs
  · obtain ⟨x, hx, rfl⟩ := List.mem_map.mp hc
    obtain ⟨r, -, hr | ⟨-, hr⟩⟩ := hdisposals.call_cases x hx
    · rw [hr]
      cases r <;> rfl
    · rw [hr]
      rfl

/-- A check asks for the first sandbox and then for the second. -/
theorem sandboxRequests_isPrefix (h : cs <+: (plan.check.runOn p s).trace.calls) :
    sandboxRequests cs <+: [plan.firstRequest, plan.secondRequest] := by
  obtain ⟨rest, hcalls, hrest⟩ := plan.exists_calls_check p s
  obtain ⟨lookups, htrail⟩ := plan.trail_judge p s
  have hsteps := htrail.calls_isPrefix.2.filterMap Call.sandboxRequest?
  have hcs := (hcalls ▸ h).filterMap Call.sandboxRequest?
  change sandboxRequests _ <+: sandboxRequests _ at hsteps hcs
  rw [← Trace.calls_eq_map, sandboxRequests_course] at hsteps
  rw [sandboxRequests_append, hrest, List.append_nil] at hcs
  exact hcs.trans hsteps

/-- What stands before a sandbox that a check asks for is a beginning of its steps. -/
theorem exists_mayRequest
    (h : before ++ .createSandbox request :: after <+: (plan.check.runOn p s).trace.calls) :
    ∃ pre rest, (plan.judge.run p s).trace.exchanges = pre ++ rest ∧
      pre.map (·.call) = before ∧ plan.MayRequest request pre := by
  obtain ⟨rest, hcalls, hrest⟩ := plan.exists_calls_check p s
  obtain ⟨lookups, htrail⟩ := plan.trail_judge p s
  obtain ⟨left, hleft⟩ := hcalls ▸ h
  have hnot : .createSandbox request ∉ rest := notMem_of_sandboxRequests hrest
  -- the request cannot fall into the cleanup
  have hsteps : ∃ after', (plan.judge.run p s).trace.calls =
      before ++ .createSandbox request :: after' := by
    rw [List.append_assoc] at hleft
    rcases List.append_eq_append_iff.mp hleft with ⟨mid, hjudge, hmid⟩ | ⟨mid, hbefore, hmid⟩
    · cases mid with
      | nil =>
        rw [List.nil_append] at hmid
        exact absurd (by simp [← hmid]) hnot
      | cons c mid => exact ⟨mid, by rw [hjudge, (List.cons.inj hmid).1]⟩
    · exact absurd (by simp [hmid]) hnot
  obtain ⟨after', hsteps⟩ := hsteps
  rw [Trace.calls_eq_map] at hsteps
  obtain ⟨pre, post, heq, hpre, hpost⟩ := List.map_eq_append_iff.mp hsteps
  obtain ⟨x, post, rfl, hx, -⟩ := List.map_eq_cons_iff.mp hpost
  exact ⟨pre, x :: post, heq, hpre, Trail.gate (heq ▸ htrail) hx⟩

end Check

/-! ### The one holder of the volume -/

section Memory

open Memory

variable {faults : Faults} {existing : List String} {transientLookups : Nat} {cs : List Call}

/-- Where a failed lookup counts as an attempt, the first sandbox is gone when the gate is
open. -/
theorem absent_of_gateOpen {s : State} {rest : List Exchange}
    (hpolicy : plan.policy.onFailure = .countAsAttempt) (hopen : plan.GateOpen pre)
    (h : (platform faults).RepliesWith (pre ++ rest) s) :
    ((platform faults).after (pre.map (·.call)) s).sandboxes[plan.names.firstSandbox]? = none := by
  obtain ⟨pre, rfl⟩ := exists_of_gateOpen hpolicy hopen
  rw [List.append_assoc] at h
  rw [List.map_append, Platform.after_append]
  exact absent_of_notFound h.reply_eq

/-- Who holds the volume has the name of a sandbox that was asked for since nobody held it. -/
theorem exists_request_of_holds {s : State} {name volume : String}
    (hnobody : ∀ name, ¬s.Holds name volume)
    (h : ((platform faults).after cs s).Holds name volume) :
    ∃ request ∈ sandboxRequests cs, request.name = name := by
  obtain hheld | ⟨request, hmem, hname⟩ := holds_of_after h
  · exact absurd hheld (hnobody name)
  · exact ⟨request, mem_sandboxRequests.mpr hmem, hname⟩

/-- When the second sandbox is asked for, nobody holds the volume. -/
theorem not_holds_before_second {before after : List Call}
    (hpolicy : plan.policy.onFailure = .countAsAttempt)
    (h : before ++ .createSandbox request :: after <+: (plan.check.runOn (platform faults)
      (.start existing transientLookups)).trace.calls)
    (hbefore : sandboxRequests before = [plan.firstRequest]) (name : String) :
    ¬((platform faults).after before (.start existing transientLookups)).Holds name
      plan.names.volume := by
  obtain ⟨pre, rest, heq, rfl, hmay⟩ := exists_mayRequest h
  have hopen : plan.GateOpen pre := by
    rcases hmay with ⟨hcalls, -⟩ | ⟨hopen, -⟩
    · -- before the first sandbox nothing was asked for
      simp [hcalls, Call.sandboxRequest?] at hbefore
    · exact hopen
  have hreplies := Script.repliesWith_run (platform faults) plan.judge
    (.start existing transientLookups)
  rw [heq] at hreplies
  have habsent := absent_of_gateOpen hpolicy hopen hreplies
  intro hheld
  obtain ⟨request, hrequest, rfl⟩ :=
    exists_request_of_holds (not_holds_start existing transientLookups) hheld
  obtain rfl : request = plan.firstRequest := by simpa [hbefore] using hrequest
  obtain ⟨r, hr, -⟩ := hheld
  cases habsent.symm.trans hr

/-- **The volume has one holder at most**, at every moment of a check. -/
theorem exists_holder (hpolicy : plan.policy.onFailure = .countAsAttempt)
    (h : cs <+: (plan.check.runOn (platform faults)
      (.start existing transientLookups)).trace.calls) :
    ∃ holder, ∀ name, ((platform faults).after cs (.start existing transientLookups)).Holds name
      plan.names.volume → name = holder := by
  have hstart : ∀ name, ¬(State.start existing transientLookups).Holds name plan.names.volume :=
    not_holds_start existing transientLookups
  -- so far no sandbox was asked for, or the first, or both
  rcases List.prefix_cons_iff.mp (sandboxRequests_isPrefix h) with hcs | ⟨more, hcs, hmore⟩
  · refine ⟨plan.names.firstSandbox, fun name hname => ?_⟩
    obtain ⟨request, hrequest, -⟩ := exists_request_of_holds hstart hname
    simp [hcs] at hrequest
  rcases List.prefix_cons_iff.mp hmore with rfl | ⟨none, rfl, hnone⟩
  · refine ⟨plan.names.firstSandbox, fun name hname => ?_⟩
    obtain ⟨request, hrequest, rfl⟩ := exists_request_of_holds hstart hname
    obtain rfl : request = plan.firstRequest := by simpa [hcs] using hrequest
    rfl
  · obtain rfl := List.prefix_nil.mp hnone
    obtain ⟨before, after, rfl, hbefore, hafter⟩ := exists_of_sandboxRequests_eq_pair hcs
    refine ⟨plan.names.secondSandbox, fun name hname => ?_⟩
    rw [Platform.after_append] at hname
    obtain ⟨request, hrequest, rfl⟩ :=
      exists_request_of_holds (not_holds_before_second hpolicy h hbefore) hname
    obtain rfl : request = plan.secondRequest := by
      simpa [Call.sandboxRequest?, hafter] using hrequest
    rfl

end Memory

/-- **The second sandbox waits for the first.** On every platform, a check asks for a sandbox only
with nothing but the creation of the volume behind it, or behind an open gate. On a platform in
memory, with whatever faults and however it is set up, at every moment of a check that counts a
failed lookup as an attempt the volume is held by one sandbox at most. -/
theorem second_sandbox_waits_for_first (plan : Plan) :
    (∀ {σ : Type} (p : Platform σ) (s : σ) pre x post request,
      (plan.judge.run p s).trace.exchanges = pre ++ x :: post →
        x.call = .createSandbox request → plan.MayRequest request pre) ∧
    (plan.policy.onFailure = .countAsAttempt →
      ∀ (faults : Memory.Faults) (existing : List String) (transientLookups : Nat) cs,
        cs <+: (plan.check.runOn (Memory.platform faults)
          (.start existing transientLookups)).trace.calls →
        let now := (Memory.platform faults).after cs (.start existing transientLookups)
        ∀ name name', now.Holds name plan.names.volume → now.Holds name' plan.names.volume →
          name = name') := by
  refine ⟨fun p s pre x post request heq hx => ?_, fun hpolicy faults existing lookups cs h => ?_⟩
  · obtain ⟨_, htrail⟩ := plan.trail_judge p s
    exact Trail.gate (heq ▸ htrail) hx
  · obtain ⟨holder, hholder⟩ := exists_holder hpolicy h
    exact fun name name' hname hname' => (hholder name hname).trans (hholder name' hname').symm

end Plan

end RemountCheck
