import AntHost.Clock
/-!
# Waiting

How long a blocked call waits and what ends its wait. Before its first look a wait works out its
deadline, and panics if the clock cannot hold it. Then it looks for its answer, for the cancel flag,
and at the clock; a timeout of zero never expires.
-/

namespace AntHost

/-- Why a wait ended without an answer. -/
inductive WaitError where
  | timeout
  | cancelled
  | closed
deriving DecidableEq, Repr

def WaitError.name : WaitError → String
  | timeout => "Timeout"
  | cancelled => "Cancelled"
  | closed => "Closed"

def WaitError.message : WaitError → String
  | timeout => "no response before the deadline"
  | cancelled => "wait was cancelled"
  | closed => "engine shut down while waiting"

/-- The outcome of a synchronous operation in one word. -/
inductive Status where
  | fail | pass | timeout | cancelled
deriving DecidableEq, Repr

def Status.value : Status → Nat
  | fail => 0
  | pass => 1
  | timeout => 2
  | cancelled => 3

/-- The status of an operation whose wait failed. -/
def WaitError.status : WaitError → Status
  | timeout => .timeout
  | cancelled => .cancelled
  | closed => .fail

/-- How a wait gives up. -/
structure WaitPolicy where
  /-- Nanoseconds to wait; zero waits forever. -/
  timeout : Nat
  /-- Whether the cancel flag ends the wait. -/
  watchesCancel : Bool
  /-- Nanoseconds between two looks at the cancel flag. -/
  cancelPoll : Nat
deriving DecidableEq, Repr

namespace WaitPolicy

/-- When a wait that starts now expires, if it ever does. -/
def deadline (policy : WaitPolicy) (now : Nat) : Except ClockOverflow (Option Nat) :=
  if policy.timeout = 0 then .ok none else (instantAfter now policy.timeout).map some

/-- What is left of the policy once `elapsed` has passed. -/
def remaining (policy : WaitPolicy) (elapsed : Nat) : Except WaitError WaitPolicy :=
  if policy.timeout = 0 then .ok policy
  else if elapsed < policy.timeout then .ok { policy with timeout := policy.timeout - elapsed }
  else .error .timeout

/-- Whether a raised flag cancels the wait. -/
def isCancelled (policy : WaitPolicy) (raised : Bool) : Bool := policy.watchesCancel && raised

/-- Why a wait without an answer ends now, if it does. -/
def givesUp (policy : WaitPolicy) (raised : Bool) (deadline : Option Nat) (now : Nat) :
    Option WaitError :=
  if policy.isCancelled raised then some .cancelled
  else
    match deadline with
    | some limit => if limit ≤ now then some .timeout else none
    | none => none

/-- One look of a wait: what was found ends it, else the policy may. -/
def check {α : Type} (policy : WaitPolicy) (raised : Bool) (deadline : Option Nat) (now : Nat)
    (found : Option (Except WaitError α)) : Option (Except WaitError α) :=
  match found with
  | some result => some result
  | none => (policy.givesUp raised deadline now).map .error

/-- A wait that starts now and during which nothing else happens: how it ends, `none` if it never
does, and what it makes of the state it looks at. -/
def alone {α σ : Type} (policy : WaitPolicy) (raised : Bool) (now : Nat)
    (look : σ → Option (Except WaitError α) × σ) (state : σ) :
    Except ClockOverflow (Option (Except WaitError α)) × σ :=
  match policy.deadline now with
  | .error overflow => (.error overflow, state)
  | .ok deadline =>
      let (found, next) := look state
      (.ok (policy.check raised deadline (now + policy.timeout) found), next)

theorem deadline_eq_ok_iff {policy : WaitPolicy} {now : Nat} {deadline : Option Nat} :
    policy.deadline now = .ok deadline ↔
      policy.timeout = 0 ∧ deadline = none ∨
        policy.timeout ≠ 0 ∧ now + policy.timeout < clockEnd ∧
          deadline = some (now + policy.timeout) := by
  rw [WaitPolicy.deadline]
  by_cases hendless : policy.timeout = 0
  · simp [hendless, eq_comm]
  · rw [if_neg hendless]
    cases hlimit : instantAfter now policy.timeout with
    | error overflow =>
        have hover := instantAfter_eq_error_iff.mp hlimit
        simp [Except.map, hendless, Nat.not_lt.mpr hover]
    | ok limit =>
        obtain ⟨hfits, rfl⟩ := instantAfter_eq_ok_iff.mp hlimit
        simp [Except.map, hendless, hfits, eq_comm]

theorem deadline_eq_error_iff {policy : WaitPolicy} {now : Nat} {overflow : ClockOverflow} :
    policy.deadline now = .error overflow ↔
      policy.timeout ≠ 0 ∧ clockEnd ≤ now + policy.timeout := by
  rw [WaitPolicy.deadline]
  by_cases hendless : policy.timeout = 0
  · simp [hendless]
  · rw [if_neg hendless, ← @instantAfter_eq_error_iff _ _ overflow]
    cases instantAfter now policy.timeout <;> simp [Except.map, hendless]

end WaitPolicy

end AntHost
