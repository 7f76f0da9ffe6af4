import AntHost.Proofs.Tracker.Run
import AntHost.Proofs.Tracker.Waiters
/-!
# A tracker that is closed

A response is kept by one waiter until one wait takes it or it is given up, so waits return no
response more often than it was accepted. A closed tracker accepts none any more, and no wait for a
registered request has to go on: it takes what its waiter still keeps, or is told that the tracker
is closed.
-/

namespace AntHost

open AntHost.Tracker (Event Answer)

/-! ## Responses that are kept -/

namespace Tracker

/-- How many waiters keep a message. -/
def copies (tracker : Tracker) (message : Message) : Nat :=
  tracker.waiting.values.flatten.countP fun waiter => waiter.response = some message

variable {tracker after : Tracker} {ticket first : Ticket} {second : Option Ticket}
  {message kept : Message} {messageId channel : UInt8}

theorem copies_setWaiters (tracker : Tracker) (messageId : UInt8) (waiters : List Waiter)
    (message : Message) :
    (tracker.setWaiters messageId waiters).copies message +
        (tracker.waitersFor messageId).countP (fun waiter => waiter.response = some message) =
      tracker.copies message +
        waiters.countP (fun waiter => waiter.response = some message) :=
  tracker.waiting.countP_values_set _ messageId waiters

/-- Taking a response leaves one copy less. -/
theorem copies_take (htake : tracker.take ticket = some (kept, after)) (message : Message) :
    after.copies message + (if kept = message then 1 else 0) = tracker.copies message := by
  obtain ⟨⟨own, waiters⟩, hfirst, heq⟩ := Option.map_eq_some_iff.mp htake
  cases heq
  obtain ⟨earlier, waiter, later, hbefore, _, hresponse, rfl⟩ := takeFirst_eq_some hfirst
  have hcount := tracker.copies_setWaiters ticket.messageId
    (earlier ++ { waiter with response := none } :: later) message
  rw [hbefore] at hcount
  simp only [List.countP_append, List.countP_cons, hresponse, Option.some.injEq,
    decide_eq_true_eq, reduceCtorEq, if_false] at hcount
  omega

/-- Accepting a response makes one copy more. -/
theorem copies_offer (tracker : Tracker) (messageId channel : UInt8) (offered message : Message) :
    (tracker.offer messageId channel offered).2.copies message =
      tracker.copies message +
        if (tracker.offer messageId channel offered).1 = true ∧ offered = message then 1
        else 0 := by
  cases hclosed : tracker.closed with
  | true => simp [offer, hclosed]
  | false =>
      cases hanswer : answerFirst channel offered (tracker.waitersFor messageId) with
      | none => simp [offer, hclosed, hanswer]
      | some answered =>
          obtain ⟨earlier, waiter, later, hbefore, _, haccepts, rfl⟩ := answerFirst_eq_some hanswer
          have hcount := tracker.copies_setWaiters messageId
            (earlier ++ { waiter with response := some offered } :: later) message
          rw [hbefore] at hcount
          simp only [List.countP_append, List.countP_cons, (Waiter.accepts_iff.mp haccepts).1,
            Option.some.injEq, decide_eq_true_eq, reduceCtorEq, if_false] at hcount
          simp only [offer, hclosed, hanswer, Bool.false_eq_true, if_false, true_and]
          omega

theorem copies_register (tracker : Tracker) (messageId : UInt8) (scope : Option UInt8)
    (message : Message) :
    (tracker.register messageId scope).2.copies message = tracker.copies message := by
  have hcount := tracker.copies_setWaiters messageId
    (tracker.waitersFor messageId ++ [{ token := tracker.nextToken, channel := scope }]) message
  simp only [List.countP_append, List.countP_singleton, reduceCtorEq, decide_false,
    Bool.false_eq_true, if_false] at hcount
  exact Nat.add_right_cancel hcount

theorem copies_unregister_le (tracker : Tracker) (ticket : Ticket) (message : Message) :
    (tracker.unregister ticket).copies message ≤ tracker.copies message := by
  have hcount := tracker.copies_setWaiters ticket.messageId
    ((tracker.waitersFor ticket.messageId).filter fun waiter => waiter.token ≠ ticket.token) message
  rw [List.countP_filter] at hcount
  have hfewer : (tracker.waitersFor ticket.messageId).countP (fun waiter =>
        decide (waiter.response = some message) && decide (waiter.token ≠ ticket.token)) ≤
      (tracker.waitersFor ticket.messageId).countP fun waiter =>
        decide (waiter.response = some message) :=
    List.countP_mono_left fun waiter _ hboth => (Bool.and_eq_true _ _ ▸ hboth).1
  rw [unregister]
  omega

/-- A wait takes at most the response that it returns. -/
theorem copies_of_check {policy : WaitPolicy} {raised : Bool} {deadline : Option Nat} {now : Nat}
    {result : Except WaitError Message}
    (hcheck : policy.check raised deadline now (tracker.lookFor first second).1 = some result)
    (message : Message) :
    (tracker.lookFor first second).2.copies message +
      (if result = .ok message then 1 else 0) = tracker.copies message := by
  have htracks := tracks_of_check hcheck
  cases result with
  | error error =>
      rw [if_neg nofun, Nat.add_zero]
      exact congrArg (copies · message) htracks
  | ok found =>
      obtain ⟨ticket, _, htake⟩ := htracks
      simpa using copies_take htake message

/-- On a closed tracker a look answers at once. -/
theorem lookFor_of_closed (hclosed : tracker.closed = true) (first : Ticket)
    (second : Option Ticket) :
    (tracker.lookFor first second).1 =
      some (match (first :: second.toList).findSome? fun ticket =>
          (tracker.take ticket).map Prod.fst with
        | some message => .ok message
        | none => .error .closed) := by
  have hlook : ∀ ticket : Ticket, (tracker.look ticket).1 =
      some (match (tracker.take ticket).map Prod.fst with
        | some message => .ok message
        | none => .error .closed) := by
    intro ticket
    cases htake : tracker.take ticket <;> simp [look, htake, hclosed]
  cases second with
  | none =>
      change (tracker.look first).1 = _
      rw [hlook]
      cases hfirst : (tracker.take first).map Prod.fst <;> simp [hfirst]
  | some second =>
      change (tracker.lookEither first second).1 = _
      cases htake : tracker.take first with
      | some found => simp [lookEither, htake]
      | none =>
          rw [lookEither, htake]
          change (tracker.look second).1 = _
          rw [hlook]
          cases hsecond : (tracker.take second).map Prod.fst <;> simp [htake, hsecond]

end Tracker

/-! ## A desk at a closed tracker -/

namespace TicketDesk

variable {desk next : TicketDesk} {event : Event} {answer : Answer} {request : Request}

/-- Whether an entry of a log shows that the message was accepted. -/
def accepted (message : Message) : Event × Answer → Bool
  | (.offer _ _ offered, .offered true) => offered = message
  | _ => false

/-- Whether an entry of a log shows that a wait returned the message. -/
def returned (message : Message) : Event × Answer → Bool
  | (_, .ended (.ok found)) => found = message
  | _ => false

/-- What may be answered once the tracker is closed. -/
def AfterClose : Answer → Prop
  | .offered taken => taken = false
  | .ended (.error error) => error = .closed
  | _ => True

/-- Everything a step can do at a desk. -/
inductive Stepped (desk : TicketDesk) : Event → Answer × TicketDesk → Prop where
  | registered (request : Request) (held : List (Request × Ticket)) :
      Stepped desk (.register request) (.registered request.messageId,
        ⟨(desk.tracker.register request.messageId request.channel).2, held⟩)
  | offered (messageId channel : UInt8) (message : Message) :
      Stepped desk (.offer messageId channel message)
        (.offered (desk.tracker.offer messageId channel message).1,
          ⟨(desk.tracker.offer messageId channel message).2, desk.held⟩)
  /-- A wait ends with what it finds, and may give its ticket up. -/
  | waited {event : Event} {first : Ticket} {second : Option Ticket} {policy : WaitPolicy}
      {raised : Bool} {deadline : Option Nat} {now : Nat} {result : Except WaitError Message}
      {tracker : Tracker} (held : List (Request × Ticket)) (hwaits : event.waitsFor ≠ [])
      (hcheck : policy.check raised deadline now (desk.tracker.lookFor first second).1 =
        some result)
      (htracker : tracker = (desk.tracker.lookFor first second).2 ∨
        tracker = (desk.tracker.lookFor first second).2.unregister first) :
      Stepped desk event (.ended result, ⟨tracker, held⟩)
  /-- A wait panics before it looks, and may give its ticket up. -/
  | panicked {event : Event} {tracker : Tracker} (held : List (Request × Ticket))
      (hwaits : event.waitsFor ≠ [])
      (htracker : tracker = desk.tracker ∨ ∃ ticket, tracker = desk.tracker.unregister ticket) :
      Stepped desk event (.panicked, ⟨tracker, held⟩)
  | dropped (request : Request) (ticket : Ticket) (held : List (Request × Ticket)) :
      Stepped desk (.drop request) (.quiet, ⟨desk.tracker.unregister ticket, held⟩)
  | closed : Stepped desk .close (.quiet, ⟨desk.tracker.close, desk.held⟩)

theorem waited_of_check {first : Ticket} {second : Option Ticket} {policy : WaitPolicy}
    {raised : Bool} {deadline : Option Nat} {now : Nat} {result : Except WaitError Message}
    {tracker : Tracker} {held : List (Request × Ticket)}
    (hcheck : policy.check raised deadline now (desk.tracker.lookFor first second).1 =
      some result) (hwaits : event.waitsFor ≠ [])
    (htracker : tracker = (desk.tracker.lookFor first second).2 ∨
      tracker = (desk.tracker.lookFor first second).2.unregister first) :
    desk.Stepped event (.ended result, ⟨tracker, held⟩) :=
  .waited held hwaits hcheck htracker

theorem stepped (hstep : desk.step event = some (answer, next)) :
    desk.Stepped event (answer, next) := by
  cases event with
  | register request =>
      rw [step] at hstep
      split at hstep
      next => cases hstep
      next =>
        cases hstep
        exact .registered request _
  | offer messageId channel message =>
      cases hstep
      exact .offered messageId channel message
  | look request policy raised deadline now =>
      obtain ⟨ticket, _, hlook⟩ := Option.bind_eq_some_iff.mp hstep
      obtain ⟨result, hcheck, heq⟩ := Option.map_eq_some_iff.mp hlook
      cases heq
      have hfound : policy.check raised deadline now
        (desk.tracker.lookFor ticket none).1 = some result := hcheck
      exact waited_of_check hfound (List.cons_ne_nil _ _) (.inl rfl)
  | lookEither first second policy raised deadline now =>
      obtain ⟨ticket, _, hsecond⟩ := Option.bind_eq_some_iff.mp hstep
      obtain ⟨other, _, hlook⟩ := Option.bind_eq_some_iff.mp hsecond
      obtain ⟨result, hcheck, heq⟩ := Option.map_eq_some_iff.mp hlook
      cases heq
      have hfound : policy.check raised deadline now
        (desk.tracker.lookFor ticket (some other)).1 = some result := hcheck
      exact waited_of_check hfound (List.cons_ne_nil _ _) (.inl rfl)
  | wait request policy raised now =>
      obtain ⟨ticket, _, hwait⟩ := Option.bind_eq_some_iff.mp hstep
      rw [Tracker.wait, WaitPolicy.alone] at hwait
      cases hdeadline : policy.deadline now with
      | error overflow =>
          rw [hdeadline] at hwait
          cases hwait
          exact .panicked _ (List.cons_ne_nil _ _) (.inr ⟨ticket, rfl⟩)
      | ok deadline =>
          rw [hdeadline] at hwait
          obtain ⟨answer, hcheck, heq⟩ := Option.map_eq_some_iff.mp hwait
          obtain ⟨result, hfound, rfl⟩ := Option.map_eq_some_iff.mp hcheck
          cases heq
          have hfound : policy.check raised deadline (now + policy.timeout)
            (desk.tracker.lookFor ticket none).1 = some result := hfound
          exact waited_of_check hfound (List.cons_ne_nil _ _) (.inr rfl)
  | waitEither first second policy raised now =>
      obtain ⟨ticket, _, hsecond⟩ := Option.bind_eq_some_iff.mp hstep
      obtain ⟨other, _, hwait⟩ := Option.bind_eq_some_iff.mp hsecond
      rw [Tracker.waitEither, WaitPolicy.alone] at hwait
      cases hdeadline : policy.deadline now with
      | error overflow =>
          rw [hdeadline] at hwait
          cases hwait
          exact .panicked _ (List.cons_ne_nil _ _) (.inl rfl)
      | ok deadline =>
          rw [hdeadline] at hwait
          obtain ⟨answer, hcheck, heq⟩ := Option.map_eq_some_iff.mp hwait
          obtain ⟨result, hfound, rfl⟩ := Option.map_eq_some_iff.mp hcheck
          cases heq
          have hfound : policy.check raised deadline (now + policy.timeout)
            (desk.tracker.lookFor ticket (some other)).1 = some result := hfound
          exact waited_of_check hfound (List.cons_ne_nil _ _) (.inl rfl)
  | drop request =>
      obtain ⟨ticket, _, heq⟩ := Option.map_eq_some_iff.mp hstep
      cases heq
      exact .dropped request ticket _
  | close =>
      cases hstep
      exact .closed

/-- What a step returns was kept before, or is accepted by it. -/
theorem Stepped.copies_le (hstepped : desk.Stepped event (answer, next)) (message : Message) :
    next.tracker.copies message + (if returned message (event, answer) then 1 else 0) ≤
      desk.tracker.copies message + if accepted message (event, answer) then 1 else 0 := by
  cases hstepped with
  | registered request held =>
      exact Nat.le_of_eq (desk.tracker.copies_register request.messageId request.channel message)
  | offered messageId channel offered =>
      have hcount := desk.tracker.copies_offer messageId channel offered message
      cases htaken : (desk.tracker.offer messageId channel offered).1 <;>
        simp [htaken, accepted, returned] at hcount ⊢ <;> omega
  | @waited _ first second _ _ _ _ result tracker held hwaits hcheck htracker =>
      have hcount := Tracker.copies_of_check hcheck message
      have hreturned : (if returned message (event, .ended result) then 1 else 0) =
          if result = .ok message then 1 else 0 := by
        cases result <;> simp [returned]
      have hfewer :
          tracker.copies message ≤ (desk.tracker.lookFor first second).2.copies message := by
        rcases htracker with rfl | rfl
        · exact Nat.le_refl _
        · exact Tracker.copies_unregister_le _ _ _
      rw [hreturned]
      change tracker.copies message + _ ≤ _
      omega
  | panicked held hwaits htracker =>
      have haccepted : accepted message (event, .panicked) = false := by cases event <;> rfl
      have hreturned : returned message (event, .panicked) = false := rfl
      rw [haccepted, hreturned]
      rcases htracker with rfl | ⟨ticket, rfl⟩
      · exact Nat.le_refl _
      · exact desk.tracker.copies_unregister_le ticket message
  | dropped request ticket held =>
      exact desk.tracker.copies_unregister_le ticket message
  | closed => exact Nat.le_refl _

/-- No message was returned more often than it was accepted, counting those that are still kept. -/
def Thrifty (log : List (Event × Answer)) (desk : TicketDesk) : Prop :=
  ∀ message, log.countP (returned message) + desk.tracker.copies message ≤
    log.countP (accepted message)

theorem Thrifty.step {log : List (Event × Answer)} (hthrifty : Thrifty log desk)
    (hstep : desk.step event = some (answer, next)) : Thrifty (log ++ [(event, answer)]) next := by
  intro message
  have hcopies := (stepped hstep).copies_le message
  have hbefore := hthrifty message
  rw [List.countP_append, List.countP_append, List.countP_singleton, List.countP_singleton]
  omega

theorem Thrifty.of_run {events : List Event} {log : List (Event × Answer)}
    (hrun : run events = some (log, desk)) : Thrifty log desk := by
  have hstart : Thrifty [] {} := fun _ => Nat.le_refl 0
  exact replay_invariant hstart (fun _ _ _ _ _ hthrifty hstep => hthrifty.step hstep) hrun

/-! ## After the close -/

/-- A closed tracker stays so, and answers nothing but what may be answered. -/
theorem Stepped.afterClose (hstepped : desk.Stepped event (answer, next))
    (hclosed : desk.tracker.closed = true) :
    AfterClose answer ∧ next.tracker.closed = true := by
  cases hstepped with
  | registered | dropped => exact ⟨trivial, hclosed⟩
  | panicked held hwaits htracker =>
      rcases htracker with rfl | ⟨ticket, rfl⟩
      · exact ⟨trivial, hclosed⟩
      · exact ⟨trivial, hclosed⟩
  | closed => exact ⟨trivial, rfl⟩
  | offered messageId channel offered =>
      have hoffer : desk.tracker.offer messageId channel offered = (false, desk.tracker) := by
        rw [Tracker.offer, if_pos hclosed]
      rw [hoffer]
      exact ⟨rfl, hclosed⟩
  | @waited _ first second _ _ _ _ result tracker held hwaits hcheck htracker =>
      have hfound := desk.tracker.lookFor_of_closed hclosed first second
      have hlater := (Tracker.tracks_of_check hcheck).closed
      rw [hfound] at hcheck
      cases hcheck
      refine ⟨?_, ?_⟩
      · split
        next => exact trivial
        next => exact rfl
      · rcases htracker with rfl | rfl
        · exact hlater.trans hclosed
        · exact hlater.trans hclosed

/-- What a closed desk has answered. -/
structure Shut (log : List (Event × Answer)) (desk : TicketDesk) : Prop where
  closed : desk.tracker.closed = true
  answers : ∀ entry ∈ log, AfterClose entry.2

theorem Shut.step {log : List (Event × Answer)} (hshut : Shut log desk)
    (hstep : desk.step event = some (answer, next)) : Shut (log ++ [(event, answer)]) next := by
  obtain ⟨hanswer, hclosed⟩ := (stepped hstep).afterClose hshut.closed
  refine ⟨hclosed, fun entry hentry => ?_⟩
  rcases List.mem_append.mp hentry with hold | hnew
  · exact hshut.answers entry hold
  · rw [List.mem_singleton.mp hnew]
    exact hanswer

/-- How every wait for requests ends that looks at a closed tracker: with the first response they
keep. -/
def closingResult (desk : TicketDesk) (requests : List Request) : Except WaitError Message :=
  match requests.findSome? desk.view.stored with
  | some message => .ok message
  | none => .error .closed

end TicketDesk

end AntHost
