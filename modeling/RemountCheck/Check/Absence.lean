import RemountCheck.Check.Policy
import RemountCheck.Script.Basic

/-!
# Waiting until a sandbox is gone

A deletion that is accepted is not complete. Whether it is, is found out by looking the
sandbox up, again and again, until a lookup confirms its absence or the budget of lookups
is used up. Absence is never assumed because the budget ran out.

* `RemountCheck.Policy.confirms` – the lookups that confirm an absence;
* `RemountCheck.Policy.await` – the wait, which ends with whether the sandbox is gone.
-/

namespace RemountCheck

namespace Policy

/-- Whether a lookup confirms an absence. -/
def confirms (policy : Policy) : Lookup α → Bool
  | .notFound => true
  | .transient _ => policy.onFailure = .treatAsAbsent
  | .found _ => false

/-- The values of an event after an attempt that did not confirm the absence. -/
def attemptFields (policy : Policy) (attempt : Nat) : List (String × Log.Value) :=
  [("attempt", .number attempt), ("max_attempts", .number policy.maxAttempts.toNat)]

/-- **The lookups of a wait**, when some have been made and some are left. Each that does
not confirm the absence is followed by a pause, the last one too. -/
def probe (policy : Policy) (name : String) (made : Nat) : (left : Nat) → Routine Bool
  | 0 => do
    Routine.tell (.warn "timeout waiting for deletion to complete"
      [("resource", .text name), ("attempts", .number made)])
    return false
  | left + 1 => do
    match ← Routine.ask (.getSandbox name) with
    | .notFound =>
      Routine.tell (.info "fully deleted" [("resource", .text name), ("attempts", .number made)])
      return true
    | .transient error =>
      match policy.onFailure with
      | .treatAsAbsent =>
        Routine.tell (.warn "lookup failed, treating resource as deleted"
          [("resource", .text name), ("error", .text error)])
        return true
      | .countAsAttempt =>
        Routine.tell (.warn "lookup failed, probing again"
          ([("resource", .text name), ("error", .text error)] ++ policy.attemptFields (made + 1)))
        Routine.pause policy.pauseMs
        probe policy name (made + 1) left
    | .found _ =>
      Routine.tell (.info "still exists, waiting"
        (("resource", .text name) :: policy.attemptFields (made + 1)))
      Routine.pause policy.pauseMs
      probe policy name (made + 1) left

/-- **Waiting until a sandbox is gone**: whether it is. -/
def await (policy : Policy) (name : String) : Routine Bool := do
  Routine.tell (.info "waiting for deletion to fully complete" [("resource", .text name)])
  policy.probe name 0 policy.maxAttempts.toNat

end Policy

end RemountCheck
