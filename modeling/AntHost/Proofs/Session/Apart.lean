import AntHost.Proofs.Session.Ledger
/-!
# Books without one caller

What the monitor and the waiters would be if one caller had not come, beside what they are. Its own
operations do not show there, and what the others do they could do there as well, with the same
answers.
-/

namespace AntHost

/-! ## The monitor apart from one holder -/

namespace TransferMonitor

/-- Nobody holds the monitor, and nothing of a transfer counts any more. -/
structure Idle (monitor : TransferMonitor) : Prop where
  busy : monitor.busy = false
  kind : monitor.kind = none
  outstanding : monitor.outstanding = 0

/-- What of a monitor counts: channel and outcome only during a transfer. -/
def current (monitor : TransferMonitor) : TransferMonitor :=
  if monitor.busy then monitor else { monitor with channel := 0, outcome := none }

/-- A monitor and what it would be if somebody who may hold it had not come: idle as long as it is
held, and the same if it is held by another one. -/
inductive Apart (held : Prop) (whole : TransferMonitor) : TransferMonitor → Prop where
  | same (hfree : ¬ held) : Apart held whole whole
  | idle {part : TransferMonitor} (hidle : part.Idle) (hclosed : part.closed = whole.closed)
      (hwhole : held ∨ whole.Idle) : Apart held whole part

variable {held : Prop} {whole part : TransferMonitor} {op : Op} {reply : op.Reply}

theorem current_eq_of_idle (hwhole : whole.Idle) (hpart : part.Idle)
    (hclosed : part.closed = whole.closed) : part.current = whole.current := by
  obtain ⟨busy, channel, kind, outstanding, outcome, closed⟩ := whole
  obtain ⟨busy', channel', kind', outstanding', outcome', closed'⟩ := part
  obtain ⟨rfl, rfl, rfl⟩ := hwhole
  obtain ⟨rfl, rfl, rfl⟩ := hpart
  cases hclosed
  rfl

namespace Apart

/-- What nobody holds for itself is the same for everybody. -/
theorem current_eq (hapart : Apart held whole part) (hfree : ¬ held) :
    part.current = whole.current := by
  cases hapart with
  | same => rfl
  | idle hidle hclosed hwhole =>
      exact current_eq_of_idle (hwhole.resolve_left hfree) hidle hclosed

/-- What the holder does, or somebody who takes the monitor, does not show. -/
theorem own {later : Prop} (hapart : Apart held whole part)
    (hfree : whole.busy = false → whole.Idle) (htells : op.Tells reply whole)
    (hneeds : op.needsTransfer = true → held)
    (hlater : later ↔ op.grants reply = true ∨ held ∧ op ≠ .releaseTransfer) :
    Apart later (op.onTransfer reply whole) part := by
  cases op with
  | beginTransfer =>
      rcases reply with error | ⟨⟩
      · have hsame : later ↔ held := by simpa [Op.grants] using hlater
        rw [hsame]
        exact hapart
      · have hheld : later := hlater.mpr (.inl rfl)
        cases hapart with
        | same => exact .idle (hfree htells) rfl (.inl hheld)
        | idle hidle hclosed => exact .idle hidle hclosed (.inl hheld)
  | packetSent =>
      have hheld := hneeds rfl
      cases hapart with
      | same hnot => exact absurd hheld hnot
      | idle hidle hclosed =>
          exact .idle hidle hclosed (.inl (hlater.mpr (.inr ⟨hheld, by simp⟩)))
  | releaseTransfer =>
      have hheld := hneeds rfl
      cases hapart with
      | same hnot => exact absurd hheld hnot
      | idle hidle hclosed => exact .idle hidle hclosed (.inr ⟨rfl, rfl, rfl⟩)
  | _ =>
      have hsame : later ↔ held := by simpa [Op.grants] using hlater
      rw [hsame]
      exact hapart

/-- What others do to the monitor they do as well without the holder, and find the same. -/
theorem other (hapart : Apart held whole part) (hbusy : held → whole.busy = true)
    (htells : op.Tells reply whole)
    (hneeds : op.needsTransfer = true → ¬ held ∧ whole.busy = true) :
    Apart held (op.onTransfer reply whole) (op.onTransfer reply part) ∧ op.Tells reply part := by
  have htaken : op.needsTransfer = true → part = whole := by
    intro hop
    obtain ⟨hnot, hwhole⟩ := hneeds hop
    cases hapart with
    | same => rfl
    | idle _ _ hfree =>
        have hidle := (hfree.resolve_left hnot).busy
        rw [hwhole] at hidle
        cases hidle
  cases op with
  | beginTransfer =>
      rcases reply with error | ⟨⟩
      · exact ⟨hapart, trivial⟩
      · have hnot : ¬ held := by
          intro hheld
          have hfree := htells.symm.trans (hbusy hheld)
          cases hfree
        cases hapart with
        | same => exact ⟨.same hnot, htells⟩
        | idle hidle hclosed =>
            refine ⟨?_, hidle.busy⟩
            simp only [Op.onTransfer, hclosed]
            exact .same hnot
  | packetSent | transferAborted | releaseTransfer | awaitOutcome =>
      have hsame := htaken rfl
      subst hsame
      exact ⟨.same (hneeds rfl).1, htells⟩
  | _ => exact ⟨hapart, trivial⟩

theorem onEvent (hapart : Apart held whole part) (channel code : UInt8) :
    Apart held (whole.onEvent channel code) (part.onEvent channel code) := by
  cases hapart with
  | same hnot => exact .same hnot
  | idle hidle hclosed hwhole =>
      rw [onEvent_of_idle hidle.kind]
      refine .idle hidle ?_ ?_
      · rw [onEvent_frame]
        exact hclosed
      · refine hwhole.imp_right fun hfree => ?_
        rw [onEvent_of_idle hfree.kind]
        exact hfree

theorem hear {whole part : Books} (hapart : Apart held whole.monitor part.monitor)
    (message : Message) : Apart held (whole.hear message).monitor (part.hear message).monitor := by
  rw [Books.hear, Books.hear]
  dsimp only
  split
  next channel code _ => exact hapart.onEvent channel code
  next => exact hapart

theorem close (hapart : Apart held whole part) : Apart held whole.close part.close := by
  cases hapart with
  | same hnot => exact .same hnot
  | idle hidle hclosed hwhole =>
      exact .idle ⟨hidle.busy, hidle.kind, hidle.outstanding⟩ rfl
        (hwhole.imp_right fun hfree => ⟨hfree.busy, hfree.kind, hfree.outstanding⟩)

end Apart

end TransferMonitor

/-! ## The waiters apart from one caller -/

namespace Tracker.Part

variable {tickets : List Ticket} {whole part : Tracker} {op : Op} {reply : op.Reply} {thread : Nat}

/-- What a caller does with its own tickets does not show. -/
theorem own (hpart : Part tickets whole part) (htickets : ∀ ticket ∈ op.tickets, ticket ∈ tickets)
    (hfresh : ∀ ticket ∈ (Entry.performed thread op reply).given? thread,
      ∀ waiter ∈ whole.waitersFor ticket.messageId, waiter.token ≠ ticket.token) :
    Part (tickets ++ ((Entry.performed thread op reply).given? thread).toList)
      (op.onTracker reply whole) part := by
  cases op with
  | register messageId channel =>
      have hgiven : (Entry.performed thread (.register messageId channel) reply).given? thread =
          some reply := if_pos rfl
      rw [hgiven] at hfresh ⊢
      exact hpart.enroll_left_out (hfresh reply rfl)
  | unregister ticket =>
      change Part (tickets ++ []) _ part
      rw [List.append_nil]
      exact hpart.unregister_left_out (htickets ticket (List.mem_singleton_self _))
  | awaitResponse first second policy deadline =>
      change Part (tickets ++ []) _ part
      rw [List.append_nil]
      simp only [Op.tickets, List.mem_cons, Option.mem_toList, forall_eq_or_imp] at htickets
      exact hpart.lookFor_left_out htickets.1 htickets.2
  | _ =>
      change Part (tickets ++ []) _ part
      rw [List.append_nil]
      exact hpart

/-- What others do they do as well without the caller, and are answered the same. -/
theorem other (hpart : Part tickets whole part) (htickets : ∀ ticket ∈ op.tickets, ticket ∉ tickets)
    (hnew : ∀ ticket ∈ (Entry.performed thread op reply).given? thread, ticket ∉ tickets)
    (hanswers : op.Answers reply whole) :
    Part tickets (op.onTracker reply whole) (op.onTracker reply part) ∧ op.Answers reply part := by
  cases op with
  | register messageId channel => exact ⟨hpart.enroll (hnew reply (if_pos rfl)), trivial⟩
  | unregister ticket => exact ⟨hpart.unregister ticket, trivial⟩
  | awaitResponse first second policy deadline =>
      simp only [Op.tickets, List.mem_cons, Option.mem_toList, forall_eq_or_imp] at htickets
      obtain ⟨hfound, hafter⟩ := hpart.lookFor htickets.1 htickets.2
      refine ⟨hafter, ?_⟩
      rw [Op.Answers, hfound]
      exact hanswers
  | _ => exact ⟨hpart, trivial⟩

/-- A message that a waiter left out takes does not show. -/
theorem hear_left_out {whole part : Books} {message : Message} {ticket : Ticket}
    (hpart : Part tickets whole.tracker part.tracker)
    (htaker : whole.taker? message = some ticket) (hown : ticket ∈ tickets) :
    Part tickets (whole.hear message).tracker part.tracker := by
  obtain ⟨⟨messageId, channel⟩, hoffered, htaker⟩ := Option.bind_eq_some_iff.mp htaker
  rw [Books.hear]
  dsimp only
  rw [hoffered]
  exact hpart.offer_left_out htaker hown

/-- Any other message is taken by the same waiter, or by none. -/
theorem hear {whole part : Books} {message : Message}
    (hpart : Part tickets whole.tracker part.tracker)
    (hforeign : ∀ ticket ∈ whole.taker? message, ticket ∉ tickets) :
    part.taker? message = whole.taker? message ∧
      Part tickets (whole.hear message).tracker (part.hear message).tracker := by
  rw [Books.taker?] at hforeign
  rw [Books.taker?, Books.taker?, Books.hear, Books.hear]
  dsimp only
  cases hoffered : message.offered? with
  | none => exact ⟨rfl, hpart⟩
  | some offered =>
      rw [hoffered] at hforeign
      exact ⟨hpart.taker? hforeign, hpart.offer hforeign⟩

end Tracker.Part

end AntHost
