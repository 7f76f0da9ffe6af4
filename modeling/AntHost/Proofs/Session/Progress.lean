import AntHost.Proofs.Session.Threads
/-!
# What a thread does by itself

A call is a finite program. So a thread that is left to itself returns, or comes to an operation
that has to wait: for a response, for the monitor or the outcome of a transfer, or for the router.
-/

namespace AntHost

variable {H β : Type}

/-- What a session lacks for an operation that waits. -/
def Op.Blocks (session : Session H β) : Op → Prop
  | awaitResponse .. => session.tracker.closed = false
  | beginTransfer .. => session.transfer.busy = true ∧ session.transfer.closed = false
  | awaitOutcome .. => session.transfer.closed = false
  | awaitStopped => session.state ≠ .stopped
  | joinRouter => session.phase ≠ .exited
  | _ => False

theorem WaitPolicy.found_of_check {α : Type} {policy : WaitPolicy} {raised : Bool}
    {deadline : Option Nat} {now : Nat} {found : Option (Except WaitError α)}
    (hcheck : policy.check raised deadline now found = none) : found = none := by
  cases found with
  | none => rfl
  | some result => cases hcheck

theorem Op.blocks_of_exec {op : Op} {now : Nat} {link : Except TransportError Unit}
    {session : Session H β} (hexec : op.exec now link session = none) : op.Blocks session := by
  cases op with
  | awaitResponse first second policy deadline =>
      have hfound : (session.tracker.lookFor first second).1 = none :=
        WaitPolicy.found_of_check (Option.map_eq_none_iff.mp hexec)
      rcases session.tracker.lookFor_cases first second with ⟨_, _, _, _, hsome⟩ | ⟨_, _, hlook⟩
      · rw [hsome] at hfound
        cases hfound
      · rw [hlook] at hfound
        cases hclosed : session.tracker.closed with
        | true => simp [hclosed] at hfound
        | false => exact hclosed
  | beginTransfer channel kind packets policy deadline =>
      have hfound : (session.transfer.tryBegin channel kind packets).1 = none :=
        WaitPolicy.found_of_check (Option.map_eq_none_iff.mp hexec)
      unfold TransferMonitor.tryBegin at hfound
      split at hfound
      next => cases hfound
      next hopen =>
        split at hfound
        next hbusy => exact ⟨hbusy, Bool.eq_false_iff.mpr hopen⟩
        next => cases hfound
  | awaitOutcome policy deadline =>
      have hfound := WaitPolicy.found_of_check (Option.map_eq_none_iff.mp hexec)
      rw [TransferMonitor.look] at hfound
      split at hfound
      next => cases hfound
      next =>
        split at hfound
        next => cases hfound
        next hopen => exact Bool.eq_false_iff.mpr hopen
  | awaitStopped | joinRouter =>
      rw [exec] at hexec
      split at hexec
      next => cases hexec
      next hblocks => exact hblocks
  | _ => cases hexec

namespace Machine

variable [DecidableEq β]

/-- What a thread does by itself, until it is done or has to wait. -/
theorem returns_or_blocks {machine : Machine H β} {thread : Nat}
    {program : Program (Except CallError Reply)}
    (hthread : machine.threads[thread]? = some program) :
    ∃ count final, machine.run (List.replicate count (.perform thread (.ok ()))) = some final ∧
      ((∃ result, final.result? thread = some result) ∨
        ∃ op, final.nextOp? thread = some op ∧ op.Blocks final.session) := by
  -- The induction is on what the thread has still to do.
  induction program generalizing machine with
  | done result => exact ⟨0, machine, rfl, .inl ⟨result, by rw [result?, hthread]⟩⟩
  | perform op rest ih =>
      cases hexec : op.exec machine.now (.ok ()) machine.session with
      | none =>
          exact ⟨0, machine, rfl, .inr ⟨op, by rw [nextOp?, hthread], Op.blocks_of_exec hexec⟩⟩
      | some outcome =>
          obtain ⟨reply, session⟩ := outcome
          obtain ⟨next, hstep, hnext⟩ : ∃ next,
              machine.step (.perform thread (.ok ())) = some next ∧
                next.threads[thread]? = some (rest reply) :=
            ⟨_, step_perform hthread hexec, List.getElem?_set_self (lt_of_getElem? hthread)⟩
          obtain ⟨count, final, hrun, hend⟩ := ih reply hnext
          refine ⟨count + 1, final, ?_, hend⟩
          rw [List.replicate_succ, run, hstep]
          exact hrun

end Machine

end AntHost
