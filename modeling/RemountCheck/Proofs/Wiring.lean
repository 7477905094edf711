import RemountCheck.Program.Run
import RemountCheck.Proofs.Interleaving
import RemountCheck.Proofs.Requests

/-!
# What a run of the program makes of its settings

The program takes each of its settings from a place of its own: an option of the command line, a
variable of the environment, or the usual values of the environment that it is meant for. This
module follows them through a whole run, for every server, to where they show.

| setting | taken from | shows in |
|---|---|---|
| credentials | `BL_WORKSPACE` and `BL_API_KEY`, or the run is not begun | the client |
| region | `--region`, else `BL_REGION`, else the usual one | every request that creates something |
| image | the usual one | every request for a sandbox |
| memory | `--memory` | every request for a sandbox |
| size of the volume | `--volume-size` | the request for the volume |
| budget of a wait | `--max-attempts` | the lookups after a deletion |

* `RemountCheck.CommandLine.Kept.parse` – what is true of the usual line, and what every option
  keeps, is true of every line that is read;
* `RemountCheck.WaitsAfterDeletion` – a deletion is waited for, with a lookup at least and no more
  than a budget allows;
* `RemountCheck.Http.Client.check_finishes` – over a client, a check ends with a report;
* `RemountCheck.Program.Result.Unstarted`, `RemountCheck.Program.Result.Follows` – a run that is
  not begun, and one that is;
* `RemountCheck.Program.run_follows_settings` – **every run is one or the other**, and an empty
  variable is as good as none.
-/

namespace RemountCheck

/-! ### What every command line has -/

namespace CommandLine

/-- **What every option keeps**: it is true of a line with one more option given, if it was true
before. -/
def Kept (P : CommandLine → Prop) : Prop :=
  ∀ ⦃line flag value line'⦄, P line → line.set? flag value = some line' → P line'

variable {P : CommandLine → Prop}

/-- What every option keeps is kept where an option is accepted. -/
theorem Kept.accept (hP : Kept P) {p q : Progress} {flag : Flag} {value : String} (hp : P p.line)
    (h : p.accept flag value = .ok q) : P q.line := by
  unfold Progress.accept at h
  split at h
  · cases h
  · split at h
    · rename_i hset
      cases h
      exact hP hp hset
    · cases h

/-- It is kept where the pending option is settled. -/
theorem Kept.settle (hP : Kept P) {p q : Progress} (hp : P p.line) (h : p.settle = .ok q) :
    P q.line := by
  unfold Progress.settle at h
  split at h
  · cases h
    exact hp
  · cases h
  · exact hP.accept (p := { p with pending := none }) hp h

/-- What is done after the pending option is settled is done where it is kept. -/
theorem Kept.exists_of_settle_bind (hP : Kept P) {p : Progress} {α : Type} {a : α}
    {next : Progress → Except Rejection α} (hp : P p.line) (h : p.settle.bind next = .ok a) :
    ∃ q, P q.line ∧ next q = .ok a := by
  cases hsettle : p.settle with
  | error rejection => simp [hsettle, Except.bind] at h
  | ok q => exact ⟨q, hP.settle hp hsettle, by simpa [hsettle, Except.bind] using h⟩

theorem Kept.exists_of_settle_map (hP : Kept P) {p : Progress} {α : Type} {a : α}
    {f : Progress → α} (hp : P p.line) (h : p.settle.map f = .ok a) : ∃ q, P q.line ∧ f q = a := by
  cases hsettle : p.settle with
  | error rejection => simp [hsettle, Except.map] at h
  | ok q => exact ⟨q, hP.settle hp hsettle, by simpa [hsettle, Except.map] using h⟩

/-- **One argument** keeps what every option keeps. -/
theorem Kept.read (hP : Kept P) {p q : Progress} {argument : Argument} (hp : P p.line)
    (h : p.read argument = .ok q) : P q.line := by
  cases argument with
  | endOfOptions => cases h
  | short letter =>
    simp only [Progress.read] at h
    split at h
    · -- a request for help makes no line
      obtain ⟨-, -, h⟩ := hP.exists_of_settle_bind hp h
      cases h
    · cases h
  | plain text =>
    simp only [Progress.read] at h
    split at h
    · -- the value of the pending option, which is not accepted yet
      cases h
      exact hp
    · cases h
  | long name value =>
    simp only [Progress.read] at h
    split at h
    · split at h
      · cases h
      · obtain ⟨-, -, h⟩ := hP.exists_of_settle_bind hp h
        cases h
    · split at h
      · cases h
      · split at h
        · obtain ⟨p', hp', h⟩ := hP.exists_of_settle_bind hp h
          exact hP.accept hp' h
        · -- the option becomes the pending one
          obtain ⟨p', hp', rfl⟩ := hP.exists_of_settle_map hp h
          exact hp'
        · cases h
        · obtain ⟨p', hp', h⟩ := hP.exists_of_settle_bind hp h
          exact hP.accept hp' h

/-- **A line that is read** keeps what every option keeps, wherever the reading begins. -/
theorem Kept.parseFrom (hP : Kept P) {p : Progress} {arguments : List String} {line : CommandLine}
    (hp : P p.line) (h : parseFrom p arguments = .ok line) : P line := by
  have hend {p : Progress} (hp : P p.line) (h : p.settle.map (·.line) = .ok line) : P line := by
    obtain ⟨q, hq, rfl⟩ := hP.exists_of_settle_map hp h
    exact hq
  induction arguments generalizing p with
  | nil => exact hend hp h
  | cons text rest ih =>
    simp only [CommandLine.parseFrom] at h
    split at h
    · split at h
      · exact hend hp h
      · cases h
    · cases hread : p.read (Argument.ofString text) with
      | error rejection => simp [hread, Except.bind] at h
      | ok q => exact ih (hP.read hp hread) (by simpa [hread, Except.bind] using h)

/-- **What is true of every line that is read**: it is true of the usual line, and every option
keeps it. -/
theorem Kept.parse (hP : Kept P) (usual : P {}) {arguments : List String} {line : CommandLine}
    (h : parse arguments = .ok line) : P line :=
  hP.parseFrom (p := {}) usual h

/-- A number that has to be so large is. -/
theorem le_toNat_of_word32? {least : Nat} {s : String} {n : UInt32}
    (h : word32? least s = some n) : least ≤ n.toNat := by
  obtain ⟨m, hm, rfl⟩ := Option.map_eq_some_iff.1 h
  obtain ⟨-, hm⟩ := Option.filter_eq_some_iff.1 hm
  obtain ⟨hleast, hsize⟩ := of_decide_eq_true hm
  rwa [UInt32.toNat_ofNat_of_lt' hsize]

/-- Every option keeps a budget that is not empty. -/
theorem kept_one_le_maxAttempts : Kept fun line => 1 ≤ line.maxAttempts.toNat := by
  intro line flag value line' hline hset
  cases flag with
  | maxAttempts =>
    obtain ⟨n, hn, rfl⟩ := Option.map_eq_some_iff.1 hset
    exact le_toNat_of_word32? hn
  | pauseMs | memory | volumeSize =>
    obtain ⟨n, -, rfl⟩ := Option.map_eq_some_iff.1 hset
    exact hline
  | uniqueNames | strictLookup | region =>
    cases hset
    exact hline

end CommandLine

/-! ### Deletions that are waited for -/

/-- **A deletion is waited for**, in some exchanges: right after each that is accepted stand lookups
of the sandbox, at least one and at most as many as the budget allows, and then no further one. -/
def WaitsAfterDeletion (name : String) (budget : Nat) (xs : List Exchange) : Prop :=
  ∀ pre post, xs = pre ++ ⟨.deleteSandbox name, .ok (.ok ())⟩ :: post →
    ∃ ws rest, post = ws ++ rest ∧ 1 ≤ ws.length ∧ ws.length ≤ budget ∧
      (∀ w ∈ ws, w.call = .getSandbox name) ∧ ∀ x ∈ rest.head?, x.call ≠ .getSandbox name

/-- Where no deletion is accepted, there is nothing to wait for. -/
theorem waitsAfterDeletion_of_notMem {name : String} {budget : Nat} {xs : List Exchange}
    (h : ⟨.deleteSandbox name, .ok (.ok ())⟩ ∉ xs) : WaitsAfterDeletion name budget xs := by
  rintro pre post rfl
  exact absurd (by simp) h

/-- Where there is one such deletion, it is the one that has to be waited for. -/
theorem waitsAfterDeletion_of_once {policy : Policy} {name : String} {budget : Nat}
    {front ws rest : List Exchange} {v : Except Crash Bool} (hbudget : 1 ≤ budget)
    (wait : policy.Waits name budget ws v)
    (hfront : ⟨.deleteSandbox name, .ok (.ok ())⟩ ∉ front)
    (hrest : ⟨.deleteSandbox name, .ok (.ok ())⟩ ∉ rest)
    (hhead : ∀ x ∈ rest.head?, x.call ≠ .getSandbox name) :
    WaitsAfterDeletion name budget
      (front ++ ⟨.deleteSandbox name, .ok (.ok ())⟩ :: (ws ++ rest)) := by
  intro pre post heq
  obtain ⟨hlength, hcalls⟩ := wait.calls_eq
  have hlookup : ∀ w ∈ ws, w.call = .getSandbox name := fun w hw =>
    List.eq_of_mem_replicate (hcalls ▸ List.mem_map_of_mem hw)
  have hafter : ⟨.deleteSandbox name, .ok (.ok ())⟩ ∉ ws ++ rest := by
    rw [List.mem_append]
    rintro (hw | hr)
    · cases hlookup _ hw
    · exact hrest hr
  obtain ⟨-, -, rfl⟩ := (List.append_cons_inj_of_notMem hfront hafter).1 heq
  refine ⟨ws, rest, rfl, ?_, hlength, hlookup, hhead⟩
  -- a wait without lookups had no budget for any
  cases ws with
  | nil => exact absurd wait.of_nil.1 (by omega)
  | cons w ws => simp

namespace Plan

variable {plan : Plan} {xs ws ys : List Exchange}

/-- What changes something is no call among those that change nothing. -/
theorem notMem_of_filter {cs : List Call} {c : Call} (hc : plan.isMutation c = true)
    (h : cs.filter plan.isMutation = []) : c ∉ cs := fun hmem =>
  List.filter_eq_nil_iff.1 h c hmem hc

/-- The way to the wait deletes a sandbox at its end, and nowhere before. -/
theorem exists_outward_calls_eq (plan : Plan) :
    ∃ front, plan.outward.calls = front ++ [.deleteSandbox plan.names.firstSandbox] ∧
      ∀ name, .deleteSandbox name ∉ front := by
  refine ⟨.createVolume plan.volumeRequest :: .createSandbox plan.firstRequest ::
    (plan.regionLookup plan.names.firstSandbox ++ plan.writeCall ::
      plan.inspection plan.names.firstSandbox plan.firstMount false),
    by simp [outward], fun name => ?_⟩
  have hlookup : Call.deleteSandbox name ∉ plan.regionLookup plan.names.firstSandbox :=
    notMem_of_filter rfl (filter_regionLookup _)
  have hinspection : Call.deleteSandbox name ∉
      plan.inspection plan.names.firstSandbox plan.firstMount false :=
    notMem_of_filter rfl (filter_inspection ..)
  simp [hlookup, hinspection, writeCall]

/-- The way back deletes no sandbox. -/
theorem deletion_notMem_homeward (plan : Plan) (name : String) :
    .deleteSandbox name ∉ plan.homeward.calls := by
  have hlookup : Call.deleteSandbox name ∉ plan.regionLookup plan.names.secondSandbox :=
    notMem_of_filter rfl (filter_regionLookup _)
  have hinspection : Call.deleteSandbox name ∉
      plan.inspection plan.names.secondSandbox plan.secondMount true :=
    notMem_of_filter rfl (filter_inspection ..)
  simp [homeward, hlookup, hinspection]

/-- A way to the wait that is cut has no accepted deletion. -/
theorem deletion_notMem_of_cutAt {stage : Stage} (cut : plan.outward.CutAt xs stage) :
    ⟨.deleteSandbox plan.names.firstSandbox, .ok (.ok ())⟩ ∉ xs := by
  obtain ⟨made, left, ys, x, hcourse, rfl, hmade, hx⟩ := cut
  obtain ⟨front, hfront, hnot⟩ := plan.exists_outward_calls_eq
  have hcalls : front ++ [.deleteSandbox plan.names.firstSandbox] =
      made.calls ++ x.call :: left.calls := by
    rw [← hfront, hcourse]
    simp
  -- the calls that were made are all before the last of the way
  have hbegins : made.calls <+: front := by
    have hdrop := congrArg List.dropLast hcalls
    rw [List.dropLast_concat, List.dropLast_append_of_ne_nil (by simp)] at hdrop
    exact ⟨_, hdrop.symm⟩
  rw [List.mem_append]
  rintro (hmem | hmem)
  · refine hnot plan.names.firstSandbox (hbegins.subset ?_)
    rw [← hmade.1]
    exact List.mem_map_of_mem hmem
  · obtain rfl := List.mem_singleton.1 hmem
    cases hx

/-- A wait at the end of the way to it, and what follows of the way back. -/
theorem waitsAfterDeletion_of_completed {v : Except Crash Bool}
    (hbudget : 1 ≤ plan.policy.maxAttempts.toNat) (made : plan.outward.Completed xs)
    (wait : plan.policy.Waits plan.names.firstSandbox plan.policy.maxAttempts.toNat ws v)
    (hys : ys.map (·.call) <+: plan.homeward.calls) :
    WaitsAfterDeletion plan.names.firstSandbox plan.policy.maxAttempts.toNat (xs ++ ws ++ ys) := by
  obtain ⟨front, rfl⟩ := exists_of_outward_completed made
  obtain ⟨before, hbefore, hnot⟩ := plan.exists_outward_calls_eq
  simp only [List.append_assoc, List.singleton_append]
  refine waitsAfterDeletion_of_once hbudget wait (fun hmem => ?_) (fun hmem => ?_) ?_
  · have hcalls := made.1
    rw [hbefore, List.map_append, List.map_singleton] at hcalls
    have hfront := (List.append_inj' hcalls rfl).1
    exact hnot _ (hfront ▸ List.mem_map_of_mem hmem)
  · exact plan.deletion_notMem_homeward _ (hys.subset (List.mem_map_of_mem hmem))
  · intro x hx
    cases ys with
    | nil => cases hx
    | cons y ys =>
      obtain rfl : y = x := by simpa using hx
      obtain ⟨left, hleft⟩ := hys
      have hcall : y.call = .createSandbox plan.secondRequest := by
        simpa [homeward] using congrArg List.head? hleft
      simp [hcall]

/-- **In a trail, the deletion of the first sandbox is waited for.** -/
theorem Trail.waitsAfterDeletion {lookups : Nat} {stage : Stage} (h : plan.Trail lookups xs stage)
    (hbudget : 1 ≤ plan.policy.maxAttempts.toNat) :
    WaitsAfterDeletion plan.names.firstSandbox plan.policy.maxAttempts.toNat xs := by
  cases h with
  | cutOutward cut => exact waitsAfterDeletion_of_notMem (deletion_notMem_of_cutAt cut)
  | waitCrashed made wait | timedOut made wait =>
    have hend : ([] : List Exchange).map (·.call) <+: plan.homeward.calls := List.nil_prefix
    simpa using waitsAfterDeletion_of_completed hbudget made wait hend
  | cutHomeward made wait cut =>
    exact waitsAfterDeletion_of_completed hbudget made wait cut.calls_isPrefix
  | completed made wait rest =>
    exact waitsAfterDeletion_of_completed hbudget made wait (rest.1 ▸ List.prefix_refl _)

/-- **In a cleanup, the deletion of the second sandbox is waited for.** -/
theorem CleansUp.waitsAfterDeletion (h : plan.CleansUp xs)
    (hnames : plan.names.firstSandbox ≠ plan.names.secondSandbox)
    (hbudget : 1 ≤ plan.policy.maxAttempts.toNat) :
    WaitsAfterDeletion plan.names.secondSandbox plan.policy.maxAttempts.toNat xs := by
  obtain ⟨first, second, volume, ws, rfl, hws⟩ := h
  have hfirst : ⟨.deleteSandbox plan.names.secondSandbox, .ok (.ok ())⟩ ∉
      [(⟨.deleteSandbox plan.names.firstSandbox, .ok first⟩ : Exchange)] := by
    intro hmem
    have hcall := congrArg Exchange.call (List.mem_singleton.1 hmem)
    exact hnames (Call.deleteSandbox.inj hcall).symm
  have hvolume : ⟨.deleteSandbox plan.names.secondSandbox, .ok (.ok ())⟩ ∉
      [(⟨.deleteVolume plan.names.volume, .ok volume⟩ : Exchange)] := by
    intro hmem
    cases congrArg Exchange.call (List.mem_singleton.1 hmem)
  cases second with
  | ok _ =>
    obtain ⟨-, -, gone, wait⟩ := hws
    exact waitsAfterDeletion_of_once hbudget wait hfirst hvolume (by simp)
  | error failure =>
    obtain rfl : ws = [] := hws
    refine waitsAfterDeletion_of_notMem fun hmem => ?_
    rcases List.mem_cons.1 hmem with h | h
    · exact hfirst (h ▸ List.mem_singleton_self _)
    · rcases List.mem_cons.1 h with h | h
      · cases h
      · exact hvolume h

end Plan

/-! ### What a check asks for -/

namespace Plan

section Calls

variable {plan : Plan} {σ : Type} {p : Platform σ} {s : σ}

/-- A cleanup is given names and nothing else, so that a call that is given more is one of the
steps. -/
theorem mem_judge_of_body? {c : Call} (hc : c ∈ (plan.check.runOn p s).trace.calls)
    (hbody : c.body? ≠ none) : c ∈ (plan.judge.run p s).trace.calls := by
  obtain ⟨xs, w, hxs, hdisposals, -⟩ := plan.leads_check (p := p) (s := s)
  have hcalls : (plan.check.runOn p s).trace.calls =
      (plan.judge.run p s).trace.calls ++ xs.map (·.call) := by
    rw [Trace.calls_eq_map, Trace.calls_eq_map, ← List.map_append]
    exact congrArg _ hxs
  rw [hcalls, List.mem_append] at hc
  rcases hc with hc | hc
  · exact hc
  · obtain ⟨x, hx, rfl⟩ := List.mem_map.1 hc
    obtain ⟨r, -, hr | ⟨-, hr⟩⟩ := hdisposals.call_cases x hx
    · rw [hr] at hbody
      cases r <;> exact absurd rfl hbody
    · rw [hr] at hbody
      exact absurd rfl hbody

/-- **The volume that a check asks for** is the one of its plan. -/
theorem eq_volumeRequest_of_mem {request : VolumeRequest}
    (h : .createVolume request ∈ (plan.check.runOn p s).trace.calls) :
    request = plan.volumeRequest := by
  obtain ⟨-, -, -, -, hmutations, -⟩ := plan.judge_keeps_to_course p s
  have hsteps := mem_judge_of_body? h (by simp [Call.body?])
  have hmem := hmutations.subset (List.mem_filter.2 ⟨hsteps, rfl⟩)
  simpa [mutations, writeCall] using hmem

/-- **The sandboxes that a check asks for** are of the image, the memory and the region of its
plan. -/
theorem spec_of_mem_check {request : SandboxRequest}
    (h : .createSandbox request ∈ (plan.check.runOn p s).trace.calls) :
    request.spec.region = plan.region ∧
      request.spec.runtime = { image := plan.image, memory := some plan.memory } := by
  obtain ⟨-, -, -, -, -, hspec⟩ := plan.judge_keeps_to_course p s
  obtain ⟨mount, -, heq⟩ := hspec request (mem_judge_of_body? h (by simp [Call.body?]))
  simp [heq]

end Calls

end Plan

namespace Http.Client

section Check

variable {τ : Type} (client : Client) (t : Transport τ)

/-- Over a client no call crashes. -/
theorem crash?_eq_none {α : Type} (script : Script α) (s : Session τ) :
    ∀ x ∈ (script.run (client.platform t) s).trace.exchanges, x.crash? = none := by
  rintro ⟨c, reply⟩ hx
  obtain ⟨pre, post, hsplit⟩ := List.append_of_mem hx
  have hreplies := Script.repliesWith_run (client.platform t) script s
  rw [hsplit] at hreplies
  obtain ⟨answer, hanswer, -⟩ := client.faithful_reply t c
    ((client.platform t).after (pre.map (·.call)) s)
  obtain rfl : reply = .ok answer := hreplies.reply_eq.symm.trans hanswer
  rfl

/-- **Over a client, a check ends with a report**, after a cleanup. The report holds what its steps
came to. -/
theorem check_finishes (plan : Plan) (s : Session τ) :
    let steps := plan.judge.run (client.platform t) s
    let whole := plan.check.runOn (client.platform t) s
    ∃ cleanup report, whole.trace.exchanges = steps.trace.exchanges ++ cleanup ∧
      plan.CleansUp cleanup ∧ whole.value = .ok report ∧ report.verdict = steps.value := by
  intro steps whole
  obtain ⟨cleanup, heq, hcleansUp, -, -⟩ := plan.check_cleans_up (client.platform t) s
  have hnone : ∀ x ∈ cleanup, x.crash? = none := fun x hx =>
    client.crash?_eq_none t plan.check.run s x (heq ▸ List.mem_append_right _ hx)
  obtain ⟨hcleanup, report, hvalue, hverdict⟩ := hcleansUp hnone
  exact ⟨cleanup, report, heq, hcleanup, hvalue, hverdict⟩

end Check

end Http.Client

/-! ### Empty variables -/

/-- One value in the place of another: the same, or none in the place of an empty one. -/
def NoneForEmpty (new old : Option String) : Prop := new = old ∨ new = none ∧ old = some ""

/-- **Variables in the place of others**: any that were empty may be absent. -/
structure Variables.InPlaceOf (new old : Variables) : Prop where
  environment : NoneForEmpty new.environment old.environment
  apiBaseUrl : NoneForEmpty new.apiBaseUrl old.apiBaseUrl
  runBaseUrl : NoneForEmpty new.runBaseUrl old.runBaseUrl
  workspace : NoneForEmpty new.workspace old.workspace
  apiKey : NoneForEmpty new.apiKey old.apiKey
  region : NoneForEmpty new.region old.region

namespace NoneForEmpty

variable {new old : Option String}

theorem nonEmpty?_eq (h : NoneForEmpty new old) : nonEmpty? new = nonEmpty? old := by
  obtain rfl | ⟨rfl, rfl⟩ := h
  · rfl
  · rfl

theorem ofName_eq (h : NoneForEmpty new old) : Environment.ofName new = Environment.ofName old := by
  obtain rfl | ⟨rfl, rfl⟩ := h
  · rfl
  · rfl

end NoneForEmpty

/-- **An empty variable is as good as none.** -/
theorem Settings.ofVariables_eq {new old : Variables} (h : new.InPlaceOf old) :
    ofVariables new = ofVariables old := by
  simp only [ofVariables, h.environment.ofName_eq, h.apiBaseUrl.nonEmpty?_eq,
    h.runBaseUrl.nonEmpty?_eq, h.workspace.nonEmpty?_eq, h.apiKey.nonEmpty?_eq,
    h.region.nonEmpty?_eq]

/-! ### Runs -/

namespace Program

open Http

variable {τ : Type}

/-- **A run that is not begun**, for want of something: nothing is sent, and the run ends with what
is wrong with its settings. -/
structure Result.Unstarted (r : Result τ) (state : τ) (text : String) : Prop where
  trace_eq : r.trace = []
  session_eq : r.session = { transport := state }
  ending_eq : r.ending = .unstarted (.config text)
  exitCode_eq : r.ending.exitCode = 1

/-- **What is sent to create something** shows what it was asked for: in its body stand the region
and the size of a volume, and the region, the image and the memory of a sandbox. -/
def ShowsSettings (region image : String) (line : CommandLine) (x : Client.Sending) : Prop :=
  match x.call with
  | .createVolume _ => Client.Carries x.request fun json => ∃ volume,
      Volume.ofJson? json = some volume ∧ volume.spec.region = some region ∧
        volume.spec.size = some line.volumeSize
  | .createSandbox _ => Client.Carries x.request fun json => ∃ sandbox,
      Sandbox.ofJson? json = some sandbox ∧ sandbox.spec.region = some region ∧
        sandbox.spec.runtime = { image, memory := some line.memory }
  | _ => True

/-- **A run that is begun**, with a client and a plan. -/
structure Result.Follows (r : Result τ) (t : Transport τ) (state : τ) (client : Client)
    (plan : Plan) (region image : String) (line : CommandLine) : Prop where
  /-- It ends with a report of what its steps came to, and with the exit code of that outcome,
  whatever the report tells of the teardown. -/
  report : ∃ report, r.ending = .finished report ∧
    report.verdict = (plan.judge.run (client.platform t) { transport := state }).value ∧
    (r.ending.exitCode = 0 ↔ report.verdict.outcome = .success) ∧
    (report.verdict.outcome ≠ .success → r.ending.exitCode = 1)
  /-- All that it sends is sent for its calls: the transport is left as by that. -/
  transport_eq : r.session.transport =
    t.after ((client.wire t r.trace.calls { transport := state }).flatMap (·.requests)) state
  /-- All that it sends to create something shows the settings. -/
  shows : ∀ x ∈ client.wire t r.trace.calls { transport := state },
    ShowsSettings region image line x
  /-- Where it is redirected, that is passed on or nothing is. -/
  passesOn : ∀ x ∈ client.wire t r.trace.calls { transport := state },
    ∀ next ∈ x.redirected, x.request.PassesOn next
  /-- It waits for the first sandbox to be gone in its steps, and for the second in its cleanup. -/
  waits : ∃ cleanup,
    r.trace.exchanges =
      (plan.judge.run (client.platform t) { transport := state }).trace.exchanges ++ cleanup ∧
    plan.CleansUp cleanup ∧
    WaitsAfterDeletion plan.names.firstSandbox line.maxAttempts.toNat
      (plan.judge.run (client.platform t) { transport := state }).trace.exchanges ∧
    WaitsAfterDeletion plan.names.secondSandbox line.maxAttempts.toNat cleanup

/-- The two sandboxes of a plan have names of their own. -/
theorem firstSandbox_ne_secondSandbox (settings : Settings) (line : CommandLine)
    (suffix : String) :
    (plan settings line suffix).names.firstSandbox ≠
      (plan settings line suffix).names.secondSandbox := by
  cases hunique : line.uniqueNames with
  | true => simpa [plan, hunique] using Names.withSuffix_firstSandbox_ne suffix suffix
  | false => simp [plan, hunique, Names.fixed]

/-- The exit code of a report is that of its outcome. -/
theorem exitCode_finished (report : Report) :
    ((Ending.finished report).exitCode = 0 ↔ report.verdict.outcome = .success) ∧
      (report.verdict.outcome ≠ .success → (Ending.finished report).exitCode = 1) := by
  simp only [Ending.exitCode, Report.exitStatus, Report.passed, decide_eq_true_eq]
  split <;> simp_all

/-- **What a check by the plan of a run sends** shows the settings of the run. -/
theorem showsSettings_of_mem_wire {settings : Settings} {line : CommandLine} {suffix : String}
    {client : Client} {t : Transport τ} {s : Client.Session τ} {x : Client.Sending}
    (h : x ∈ client.wire t
      ((plan settings line suffix).check.runOn (client.platform t) s).trace.calls s) :
    ShowsSettings (region settings line) settings.image line x := by
  have hcall := Client.call_mem_of_mem_wire h
  have hrequest := Client.request_of_mem_wire h
  obtain ⟨c, request, redirected, heard⟩ := x
  cases c with
  | createVolume volume =>
    obtain rfl := Plan.eq_volumeRequest_of_mem hcall
    exact (Client.carries_createVolume hrequest).imp fun json hread => ⟨_, hread, rfl, rfl⟩
  | createSandbox sandbox =>
    obtain ⟨hregion, hruntime⟩ := Plan.spec_of_mem_check hcall
    exact (Client.carries_createSandbox hrequest).imp fun json hread =>
      ⟨_, hread, hregion, hruntime⟩
  | _ => trivial

/-- **A run with both credentials** goes ahead. -/
theorem follows_runLine (t : Transport τ) (v : Variables) (suffix : String) (line : CommandLine)
    (state : τ) (hbudget : 1 ≤ line.maxAttempts.toNat) {connection : Connection}
    (h : (Settings.ofVariables v).connection = .ok connection) :
    (runLine t v suffix line state).Follows t state (.ofConnection connection)
      (plan (Settings.ofVariables v) line suffix) (region (Settings.ofVariables v) line)
      (Settings.ofVariables v).image line := by
  let client := Client.ofConnection connection
  let plan := plan (Settings.ofVariables v) line suffix
  let run := plan.check.runOn (client.platform t) { transport := state }
  have hrun : runLine t v suffix line state =
      ⟨[startEvent (Settings.ofVariables v) line], run.trace, .ofCheck run.value, run.state⟩ := by
    simp [runLine, start, h, Except.map, run, plan, client]
  obtain ⟨cleanup, report, hexchanges, hcleansUp, hvalue, hverdict⟩ :=
    client.check_finishes t plan { transport := state }
  have hvalue : run.value = .ok report := hvalue
  rw [hrun]
  refine ⟨⟨report, by rw [hvalue]; rfl, hverdict, ?_⟩, ?_, fun x hx => ?_, fun x hx => ?_, cleanup,
    hexchanges, hcleansUp, ?_, ?_⟩
  · rw [hvalue]
    exact exitCode_finished report
  · have htransport : run.state.transport = t.after
        ((client.wire t run.trace.calls { transport := state }).flatMap (·.requests)) state :=
      client.transport_runOn t plan.check { transport := state }
    simpa only using htransport
  · exact showsSettings_of_mem_wire hx
  · exact Transport.passesOn_of_isChain (Client.isChain_of_mem_wire hx)
  · obtain ⟨_, htrail⟩ := plan.trail_judge (client.platform t) { transport := state }
    exact htrail.waitsAfterDeletion hbudget
  · exact hcleansUp.waitsAfterDeletion (firstSandbox_ne_secondSandbox _ _ _) hbudget

/-- **A run without a credential** is not begun. -/
theorem unstarted_runLine (t : Transport τ) (v : Variables) (suffix : String) (line : CommandLine)
    (state : τ) {text : String}
    (h : (Settings.ofVariables v).connection = .error (.config text)) :
    (runLine t v suffix line state).Unstarted state text := by
  have hrun : runLine t v suffix line state =
      ⟨[startEvent (Settings.ofVariables v) line], [], .unstarted (.config text),
        { transport := state }⟩ := by
    simp [runLine, start, h, Except.map]
  rw [hrun]
  exact ⟨rfl, rfl, rfl, rfl⟩

/-- **A run follows its settings**, for every server, all variables and every line that is read.
Without one of the credentials, of which the workspace is named first, nothing is sent and the run
fails. With both, the run ends with the exit code of its outcome, all that is sent to create
something shows the settings, and each deletion that is waited for is followed by a lookup at
least, and no more than the budget. An empty variable is as good as none. -/
theorem run_follows_settings (t : Transport τ) (v : Variables) (suffix : String)
    {arguments : List String} {line : CommandLine} (h : CommandLine.parse arguments = .ok line)
    (state : τ) :
    let r := run t v suffix arguments state
    let usual := (Environment.ofName v.environment).profile
    let region := line.region.getD ((nonEmpty? v.region).getD usual.defaultRegion)
    (nonEmpty? v.workspace = none → r.Unstarted state "BL_WORKSPACE is not set") ∧
    (nonEmpty? v.workspace ≠ none → nonEmpty? v.apiKey = none →
      r.Unstarted state "BL_API_KEY is not set") ∧
    (∀ workspace apiKey, nonEmpty? v.workspace = some workspace →
      nonEmpty? v.apiKey = some apiKey →
      let client := Client.ofConnection
        { apiBaseUrl := (nonEmpty? v.apiBaseUrl).getD usual.apiBaseUrl
          runBaseUrl := (nonEmpty? v.runBaseUrl).getD usual.runBaseUrl, workspace, apiKey }
      let plan := plan (Settings.ofVariables v) line suffix
      r.Follows t state client plan region usual.image line) ∧
    1 ≤ line.maxAttempts.toNat ∧
    ∀ new : Variables, new.InPlaceOf v → run t new suffix arguments state = r := by
  intro r usual region
  have hbudget := CommandLine.kept_one_le_maxAttempts.parse (by decide) h
  have hrun (w : Variables) : run t w suffix arguments state = runLine t w suffix line state := by
    simp [run, h]
  refine ⟨fun hworkspace => ?_, fun hworkspace hapiKey => ?_,
    fun workspace apiKey hworkspace hapiKey => ?_, hbudget, fun new hnew => ?_⟩
  · rw [show r = _ from hrun v]
    refine unstarted_runLine t v suffix line state ?_
    simp [Settings.connection, Settings.ofVariables, hworkspace]
  · obtain ⟨workspace, hworkspace⟩ := Option.ne_none_iff_exists'.1 hworkspace
    rw [show r = _ from hrun v]
    refine unstarted_runLine t v suffix line state ?_
    simp [Settings.connection, Settings.ofVariables, hworkspace, hapiKey]
  · rw [show r = _ from hrun v]
    refine follows_runLine t v suffix line state hbudget ?_
    simp [Settings.connection, Settings.ofVariables, hworkspace, hapiKey, usual]
  · rw [show r = _ from hrun v, hrun new]
    simp only [runLine, Settings.ofVariables_eq hnew]

/-- A run at addresses and in a region of its own, of which each request is agreed to: it comes to
its second sandbox. -/
theorem run_follows_settings_of_agreeing_server :
    let v : Variables :=
      { environment := some "dev", apiBaseUrl := some "http://localhost/api/",
        runBaseUrl := some "http://localhost/run", workspace := some "ws", apiKey := some "key",
        region := some "" }
    let arguments := ["--region=eu", "--max-attempts", "2"]
    let line : CommandLine := { region := some "eu", maxAttempts := 2 }
    let client := Client.ofConnection
      ⟨"http://localhost/api/", "http://localhost/run", "ws", "key"⟩
    let plan := plan (Settings.ofVariables v) line ""
    let r := run .agreeing v "" arguments []
    CommandLine.parse arguments = .ok line ∧
      r.Follows .agreeing [] client plan "eu" "blaxel/dev-base:latest" line ∧
      .createSandbox plan.secondRequest ∈ r.trace.calls :=
  have hline : CommandLine.parse ["--region=eu", "--max-attempts", "2"] =
      .ok { region := some "eu", maxAttempts := 2 } := by decide +kernel
  have hfollows := run_follows_settings .agreeing
    { environment := some "dev", apiBaseUrl := some "http://localhost/api/",
      runBaseUrl := some "http://localhost/run", workspace := some "ws", apiKey := some "key",
      region := some "" } "" hline []
  ⟨hline, hfollows.2.2.1 "ws" "key" rfl rfl, by decide +kernel⟩

end Program

end RemountCheck
