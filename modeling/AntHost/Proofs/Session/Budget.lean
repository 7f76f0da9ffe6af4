import AntHost.Wait
/-!
# One timeout for several stages

A call that waits in stages gives each stage what is left of its timeout, and a stage may do the
same with stages of its own. Down any such chain the stages share one timeout: what is left is what
the first would have after all the time that was counted. A stage whose own time starts as soon as
it is given its share ends when the first was to end, and later only by what passed between the two;
where the clock cannot hold that instant, the stage panics as the first would. Nothing left is a
timeout, never a share of zero, which would have no end.
-/

namespace AntHost

namespace WaitPolicy

variable {policy left : WaitPolicy} {elapsed : Nat}

theorem remaining_eq_ok_iff :
    policy.remaining elapsed = .ok left ↔
      policy.timeout = 0 ∧ left = policy ∨
        elapsed < policy.timeout ∧ left = { policy with timeout := policy.timeout - elapsed } := by
  rw [remaining]
  by_cases hendless : policy.timeout = 0
  · simp [hendless, eq_comm]
  · rw [if_neg hendless]
    split
    next hleft => simp [hendless, hleft, eq_comm]
    next hover => simp [hendless, hover]

theorem remaining_eq_error_iff {error : WaitError} :
    policy.remaining elapsed = .error error ↔
      error = .timeout ∧ policy.timeout ≠ 0 ∧ policy.timeout ≤ elapsed := by
  rw [remaining]
  by_cases hendless : policy.timeout = 0
  · simp [hendless]
  · rw [if_neg hendless]
    split
    next hleft => simp [hleft]
    next hover => simp [hendless, Nat.not_lt.mp hover, eq_comm]

theorem remaining_zero (policy : WaitPolicy) : policy.remaining 0 = .ok policy := by
  by_cases hendless : policy.timeout = 0
  · exact remaining_eq_ok_iff.mpr (.inl ⟨hendless, rfl⟩)
  · exact remaining_eq_ok_iff.mpr (.inr ⟨Nat.pos_of_ne_zero hendless, rfl⟩)

/-- What is left of what was left is what is left after both times. -/
theorem remaining_remaining (policy : WaitPolicy) (first second : Nat) :
    ((policy.remaining first).bind fun left => left.remaining second) =
      policy.remaining (first + second) := by
  cases hfirst : policy.remaining first with
  | ok left =>
      rcases remaining_eq_ok_iff.mp hfirst with ⟨hendless, rfl⟩ | ⟨hleft, rfl⟩
      · simp [Except.bind, remaining, hendless]
      · have hfinite : policy.timeout ≠ 0 := by omega
        have hshare : policy.timeout - first ≠ 0 := by omega
        have hboth : second < policy.timeout - first ↔ first + second < policy.timeout := by omega
        have hrest : policy.timeout - first - second = policy.timeout - (first + second) := by omega
        simp [Except.bind, remaining, hfinite, hshare, hboth, hrest]
  | error error =>
      obtain ⟨rfl, hfinite, hover⟩ := remaining_eq_error_iff.mp hfirst
      exact (remaining_eq_error_iff.mpr ⟨rfl, hfinite, by omega⟩).symm

end WaitPolicy

/-! ## Chains of stages -/

/-- When a stage is given what is left, and when its own time starts. -/
structure Handover where
  taken : Nat
  began : Nat
deriving DecidableEq, Repr

namespace Handover

/-- When the time of the last stage starts; the first stage starts at an instant of its own. -/
def lastBegan (start : Nat) : List Handover → Nat
  | [] => start
  | handover :: rest => lastBegan handover.began rest

/-- The time counted down a chain: for each stage, how long its time had run when it gave away what
was left. -/
def spent (start : Nat) : List Handover → Nat
  | [] => 0
  | handover :: rest => handover.taken - start + spent handover.began rest

/-- The time counted nowhere: what passed until each stage started its own. -/
def lag : List Handover → Nat
  | [] => 0
  | handover :: rest => handover.began - handover.taken + lag rest

/-- The instants are those of a clock that does not run back. -/
def InOrder (start : Nat) : List Handover → Prop
  | [] => True
  | handover :: rest =>
      start ≤ handover.taken ∧ handover.taken ≤ handover.began ∧ InOrder handover.began rest

theorem lastBegan_eq {start : Nat} {chain : List Handover} (horder : InOrder start chain) :
    lastBegan start chain = start + spent start chain + lag chain := by
  induction chain generalizing start with
  | nil => rfl
  | cons handover rest ih =>
      obtain ⟨htaken, hbegan, hrest⟩ := horder
      rw [lastBegan, spent, lag, ih hrest]
      omega

theorem lag_eq_zero {chain : List Handover} (hprompt : ∀ stage ∈ chain, stage.began = stage.taken) :
    lag chain = 0 := by
  induction chain with
  | nil => rfl
  | cons handover rest ih =>
      obtain ⟨hfirst, hrest⟩ := List.forall_mem_cons.mp hprompt
      rw [lag, ih hrest, hfirst, Nat.sub_self]

end Handover

namespace WaitPolicy

open Handover

/-- What the last stage of a chain gets of a policy whose time starts at an instant, and when its
own time starts. -/
def handDown (policy : WaitPolicy) (start : Nat) :
    List Handover → Except WaitError (WaitPolicy × Nat)
  | [] => .ok (policy, start)
  | handover :: rest =>
      (policy.remaining (handover.taken - start)).bind fun left => left.handDown handover.began rest

/-- However the time was counted, a chain gives what is left after all of it. -/
theorem handDown_eq (policy : WaitPolicy) (start : Nat) (chain : List Handover) :
    policy.handDown start chain =
      (policy.remaining (spent start chain)).map fun left => (left, lastBegan start chain) := by
  induction chain generalizing policy start with
  | nil => rw [handDown, spent, remaining_zero]; rfl
  | cons handover rest ih =>
      rw [handDown, spent, lastBegan, ← remaining_remaining]
      cases policy.remaining (handover.taken - start) with
      | error error => rfl
      | ok left => exact ih left handover.began

/-- What a stage may rely on that gets its share of a policy: it gives up as the policy does, it is
endless only if the policy is, and it has the deadline that the policy would have had, or the panic,
if it had started later by the lag. -/
structure Shares (policy : WaitPolicy) (start : Nat) (share : WaitPolicy) (began lag : Nat) :
    Prop where
  watchesCancel : share.watchesCancel = policy.watchesCancel
  cancelPoll : share.cancelPoll = policy.cancelPoll
  timeout_eq_zero : share.timeout = 0 ↔ policy.timeout = 0
  deadline : share.deadline began = policy.deadline (start + lag)

/-- Each stage of a chain gets its share of the one timeout. -/
theorem shares_of_handDown {policy share : WaitPolicy} {start began : Nat} {chain : List Handover}
    (horder : InOrder start chain) (hshare : policy.handDown start chain = .ok (share, began)) :
    policy.Shares start share began (lag chain) := by
  rw [handDown_eq] at hshare
  cases hleft : policy.remaining (spent start chain) with
  | error error =>
      rw [hleft] at hshare
      cases hshare
  | ok left =>
      rw [hleft] at hshare
      cases hshare
      have hbegan := lastBegan_eq horder
      rcases remaining_eq_ok_iff.mp hleft with ⟨hendless, rfl⟩ | ⟨hspent, rfl⟩
      · exact ⟨rfl, rfl, Iff.rfl, by simp [WaitPolicy.deadline, hendless]⟩
      · have hfinite : policy.timeout ≠ 0 := by omega
        have hshare : policy.timeout - spent start chain ≠ 0 := by omega
        have hsum : lastBegan start chain + (policy.timeout - spent start chain) =
            start + lag chain + policy.timeout := by omega
        refine ⟨rfl, rfl, by simp [hfinite, hshare], ?_⟩
        rw [WaitPolicy.deadline, WaitPolicy.deadline, if_neg hshare, if_neg hfinite,
          instantAfter_congr hsum]

theorem handDown_eq_error_iff {policy : WaitPolicy} {start : Nat} {chain : List Handover}
    {error : WaitError} :
    policy.handDown start chain = .error error ↔
      error = .timeout ∧ policy.timeout ≠ 0 ∧ policy.timeout ≤ spent start chain := by
  rw [handDown_eq, ← remaining_eq_error_iff]
  cases policy.remaining (spent start chain) <;> simp [Except.map]

end WaitPolicy

end AntHost
