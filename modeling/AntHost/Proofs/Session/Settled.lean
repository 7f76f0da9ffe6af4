import AntHost.Proofs.Session.Bookkeeping
/-!
# Calls that leave nothing behind

However a call ends, it has given up its waiters and the transfer monitor. What is left in the books
is what they would be without the call: they bear out the entries of all others, who are answered
the same, and once the call has returned there is no difference.
-/

namespace AntHost

variable {H β : Type}

/-- Two books say the same of the requests that are outstanding and of the transfer in progress.
The number of the next ticket does not count. -/
structure Books.Agree (books others : Books) : Prop where
  waiters : ∀ messageId, books.tracker.waitersFor messageId = others.tracker.waitersFor messageId
  closed : books.tracker.closed = others.tracker.closed
  transfer : books.monitor.current = others.monitor.current

namespace Machine

/-- A monitor that nobody holds is given away at once, unless it is closed. -/
theorem admits_of_free {machine : Machine H β} (hfree : machine.session.transfer.busy = false)
    (link : Except TransportError Unit) (channel : UInt8) (kind : TransferKind) (packets : Nat)
    (policy : WaitPolicy) (deadline : Option Nat) :
    ∃ next, (Op.beginTransfer channel kind packets policy deadline).exec machine.now link
        machine.session =
      some (if machine.session.transfer.closed then .error .closed else .ok (), next) := by
  cases hclosed : machine.session.transfer.closed <;>
    simp [Op.exec, TransferMonitor.tryBegin, WaitPolicy.check, hclosed, hfree]

variable [DecidableEq β] {config : Config} {events : List (Event H β)} {machine next : Machine H β}
  {event : Event H β} {thread : Nat} {stages : Nat → AskStage} {others : Books}

/-! ## The books apart from one thread -/

/-- The books beside what they would be if the call of a thread had not used them. -/
structure Separated (config : Config) (events : List (Event H β)) (thread : Nat)
    (machine : Machine H β) (others : Books) : Prop where
  kept : Books.Kept (Books.without ((start config : Machine H β).ledger events) thread) others
  requests : Tracker.Part (Books.ticketsOf ((start config : Machine H β).ledger events) thread)
    machine.session.tracker others.tracker
  transfers : TransferMonitor.Apart ((start config : Machine H β).holder? events = some thread)
    machine.session.transfer others.monitor

namespace Separated

variable {performer : Nat} {op : Op} {rest : op.Reply → Program (Except CallError Reply)}
  {reply : op.Reply} {session : Session H β} {link : Except TransportError Unit}

theorem without_performed (hbooked : Booked config events machine stages)
    (hfew : (start config : Machine H β).registrations events < UInt64.size)
    (hexec : op.exec machine.now link machine.session = some (reply, session)) :
    Books.without ((start config : Machine H β).ledger events ++ [.performed performer op reply])
        thread =
      Books.without ((start config : Machine H β).ledger events) thread ++
        if performer = thread then [] else [.performed performer op reply] := by
  rw [Books.without_concat]
  · simp [Entry.concerns]
  · intro message ticket hmem hgiven
    obtain ⟨number, hlt, htoken⟩ := (hbooked.accounted hfew).takers message ticket hmem
    exact hbooked.ne_of_given hfew (Op.exec_tracker hexec) hgiven hlt htoken.symm

/-- What the thread does itself does not show. -/
theorem own (hseparated : Separated config events thread machine others)
    (hbooked : Booked config events machine stages)
    (hfew : (start config : Machine H β).registrations events < UInt64.size)
    (hthread : machine.threads[thread]? = some (.perform op rest))
    (hexec : op.exec machine.now link machine.session = some (reply, session)) :
    Separated config (events ++ [.perform thread link]) thread
      { machine.record thread op with session, threads := machine.threads.set thread (rest reply) }
      others := by
  have hrun := hbooked.conducted.reached
  have htracks := Op.exec_tracker hexec
  obtain ⟨htransfer, htells⟩ := Op.exec_transfer hexec
  have hledger : (start config).ledger (events ++ [.perform thread link]) =
      (start config : Machine H β).ledger events ++ [.performed thread op reply] := by
    rw [ledger_concat hrun, entered?_of_performed hthread hexec, Option.toList_some]
  refine ⟨?_, ?_, ?_⟩
  · rw [hledger, without_performed hbooked hfew hexec, if_pos rfl, List.append_nil]
    exact hseparated.kept
  · rw [hledger, Books.ticketsOf_concat]
    change Tracker.Part _ session.tracker others.tracker
    rw [(Op.exec_onTracker hexec).1]
    apply hseparated.requests.own
    · intro ticket hticket
      exact hbooked.mem_ticketsOf hthread hticket
    · intro ticket hgiven waiter hwaiter
      obtain ⟨number, hlt, htoken⟩ := hbooked.counted.waiters ticket.messageId waiter hwaiter
      rw [htoken]
      exact hbooked.ne_of_given hfew htracks hgiven hlt
  · change TransferMonitor.Apart _ session.transfer others.monitor
    rw [htransfer]
    apply hseparated.transfers.own
    · exact fun hfree => idle_of_free hrun hfree
    · exact htells
    · exact fun hneeds => holder?_of_needs hrun hthread hneeds
    · rw [holder?_performed hrun hthread hexec]
      cases hgrants : op.grants reply with
      | true => simp
      | false => by_cases hrelease : op = .releaseTransfer <;> simp [hrelease]

/-- What others do they could do as well without the thread. -/
theorem other (hseparated : Separated config events thread machine others)
    (hbooked : Booked config events machine stages)
    (hfew : (start config : Machine H β).registrations events < UInt64.size)
    (hother : performer ≠ thread)
    (hperformer : machine.threads[performer]? = some (.perform op rest))
    (hexec : op.exec machine.now link machine.session = some (reply, session)) :
    Separated config (events ++ [.perform performer link]) thread
      { machine.record performer op with
        session, threads := machine.threads.set performer (rest reply) }
      (others.enter (.performed performer op reply)) := by
  have hrun := hbooked.conducted.reached
  have haccounted := hbooked.accounted hfew
  have htracks := Op.exec_tracker hexec
  obtain ⟨htracker, hanswers⟩ := Op.exec_onTracker hexec
  obtain ⟨htransfer, htells⟩ := Op.exec_transfer hexec
  have hledger : (start config).ledger (events ++ [.perform performer link]) =
      (start config : Machine H β).ledger events ++ [.performed performer op reply] := by
    rw [ledger_concat hrun, entered?_of_performed hperformer hexec, Option.toList_some]
  have hgiven : (Entry.performed performer op reply).given? thread = none := by
    cases op <;> simp [Entry.given?, hother]
  have hforeign : ∀ ticket ∈ op.tickets,
      ticket ∉ Books.ticketsOf ((start config : Machine H β).ledger events) thread := by
    intro ticket hticket hown
    exact hother (haccounted.apart _ _ _ (hbooked.mem_ticketsOf hperformer hticket) hown)
  have hnew : ∀ ticket ∈ (Entry.performed performer op reply).given? performer,
      ticket ∉ Books.ticketsOf ((start config : Machine H β).ledger events) thread := by
    intro ticket hticket hown
    obtain ⟨number, hlt, htoken⟩ := haccounted.numbered thread ticket hown
    exact hbooked.ne_of_given hfew htracks hticket hlt htoken.symm
  obtain ⟨hrequests, hanswered⟩ := hseparated.requests.other hforeign hnew hanswers
  obtain ⟨htransfers, htold⟩ := hseparated.transfers.other (busy_of_holder? hrun) htells (by
    intro hneeds
    have hholder := holder?_of_needs hrun hperformer hneeds
    refine ⟨?_, busy_of_holder? hrun hholder⟩
    rw [hholder]
    simpa using hother)
  refine ⟨?_, ?_, ?_⟩
  · rw [hledger, without_performed hbooked hfew hexec, if_neg hother]
    exact hseparated.kept.entered ⟨hanswered, htold⟩
  · rw [hledger, Books.ticketsOf_concat, hgiven, Option.toList_none, List.append_nil]
    change Tracker.Part _ session.tracker _
    rw [htracker]
    exact hrequests
  · have hsame : (start config).holder? (events ++ [.perform performer link]) = some thread ↔
        (start config : Machine H β).holder? events = some thread := by
      rw [holder?_performed hrun hperformer hexec]
      cases hgrants : op.grants reply with
      | true =>
          have hfree := Op.free_of_grants htells hgrants
          have hnone : (start config : Machine H β).holder? events ≠ some thread := by
            intro hholder
            rw [busy_of_holder? hrun hholder] at hfree
            cases hfree
          simp [hother, hnone]
      | false =>
          by_cases hrelease : op = .releaseTransfer
          · have hneeds : op.needsTransfer = true := by rw [hrelease]; rfl
            rw [holder?_of_needs hrun hperformer hneeds]
            simp [hrelease, hother]
          · simp [hrelease]
    rw [hsame]
    change TransferMonitor.Apart _ session.transfer _
    rw [htransfer]
    exact htransfers

/-- An event that enters nothing. -/
theorem quiet (hseparated : Separated config events thread machine others)
    (hrun : (start config).run events = some machine) (hstep : machine.step event = some next)
    (hother : ∀ performer link, event ≠ .perform performer link)
    (hnone : machine.entered? event = none) :
    Separated config (events ++ [event]) thread next others := by
  have hbooks : next.session.books = machine.session.books := by
    rcases books_step hstep with ⟨_, hsame⟩ | ⟨entry, hentry, _⟩
    · exact hsame
    · cases hnone.symm.trans hentry
  have hledger : (start config).ledger (events ++ [event]) =
      (start config : Machine H β).ledger events := by
    rw [ledger_concat hrun, hnone, Option.toList_none, List.append_nil]
  refine ⟨?_, ?_, ?_⟩
  · rw [hledger]
    exact hseparated.kept
  · have htracker : next.session.tracker = machine.session.tracker := congrArg Books.tracker hbooks
    rw [hledger, htracker]
    exact hseparated.requests
  · have hmonitor : next.session.transfer = machine.session.transfer :=
      congrArg Books.monitor hbooks
    rw [holder?_of_other hrun hstep hother, hmonitor]
    exact hseparated.transfers

/-- An entry that gives nobody a ticket or the monitor. -/
theorem entered {entry : Entry} {later : Books} (hrun : (start config).run events = some machine)
    (hstep : machine.step event = some next)
    (hother : ∀ performer link, event ≠ .perform performer link)
    (hentry : machine.entered? event = some entry) (hgiven : entry.given? thread = none)
    (hkept : Books.Kept
      (Books.without ((start config : Machine H β).ledger events) thread ++
        if entry.concerns thread
          (Books.ticketsOf ((start config : Machine H β).ledger events) thread)
        then [] else [entry]) later)
    (hrequests : Tracker.Part
      (Books.ticketsOf ((start config : Machine H β).ledger events) thread)
      next.session.tracker later.tracker)
    (htransfers : TransferMonitor.Apart
      ((start config : Machine H β).holder? events = some thread)
      next.session.transfer later.monitor) :
    Separated config (events ++ [event]) thread next later := by
  refine ⟨?_, ?_, ?_⟩
  · rw [ledger_concat hrun, hentry, Option.toList_some, Books.without_concat]
    · exact hkept
    · intro message ticket _ hsome
      cases hgiven.symm.trans hsome
  · rw [ledger_concat hrun, hentry, Option.toList_some, Books.ticketsOf_concat, hgiven,
      Option.toList_none, List.append_nil]
    exact hrequests
  · rw [holder?_of_other hrun hstep hother]
    exact htransfers

/-- A message that a waiter of the thread takes does not show, and any other is heard as well
without the thread. -/
theorem routed (hseparated : Separated config events thread machine others)
    (hrun : (start config).run events = some machine) (message : Message)
    (hstep : machine.step (.route message) = some next) :
    ∃ later, Separated config (events ++ [.route message]) thread next later := by
  have hbooks : next.session.books = machine.session.books.hear message := by
    obtain ⟨_, hnext⟩ := Option.ite_none_right_eq_some.mp hstep
    cases hnext
    exact books_route machine.session message
  have htracker : next.session.tracker = (machine.session.books.hear message).tracker :=
    congrArg Books.tracker hbooks
  have hmonitor : next.session.transfer = (machine.session.books.hear message).monitor :=
    congrArg Books.monitor hbooks
  by_cases hown : ∃ ticket ∈ machine.session.books.taker? message,
      ticket ∈ Books.ticketsOf ((start config : Machine H β).ledger events) thread
  · obtain ⟨ticket, htaker, hticket⟩ := hown
    refine ⟨others, entered hrun hstep (by simp) rfl rfl ?_ ?_ ?_⟩
    · have hconcerns : (Entry.routed message (machine.session.books.taker? message)).concerns thread
          (Books.ticketsOf ((start config : Machine H β).ledger events) thread) = true := by
        rw [htaker]
        simp [Entry.concerns, hticket]
      rw [if_pos hconcerns, List.append_nil]
      exact hseparated.kept
    · rw [htracker]
      exact hseparated.requests.hear_left_out htaker hticket
    · rw [hmonitor, (exists_waiter_of_taker htaker).2]
      exact hseparated.transfers
  · have hforeign : ∀ ticket ∈ machine.session.books.taker? message,
        ticket ∉ Books.ticketsOf ((start config : Machine H β).ledger events) thread :=
      fun ticket htaker hticket => hown ⟨ticket, htaker, hticket⟩
    obtain ⟨htaken, hrequests⟩ := hseparated.requests.hear hforeign
    refine ⟨others.hear message, entered hrun hstep (by simp) rfl rfl ?_ ?_ ?_⟩
    · have hconcerns : (Entry.routed message (machine.session.books.taker? message)).concerns thread
          (Books.ticketsOf ((start config : Machine H β).ledger events) thread) = false := by
        cases htaker : machine.session.books.taker? message with
        | none => rfl
        | some ticket => simpa [Entry.concerns] using hforeign ticket htaker
      rw [hconcerns]
      exact hseparated.kept.entered htaken
    · rw [htracker]
      exact hrequests
    · rw [hmonitor]
      exact hseparated.transfers.hear message

theorem step (hseparated : Separated config events thread machine others)
    (hbooked : Booked config events machine stages)
    (hfew : (start config : Machine H β).registrations events < UInt64.size)
    (hstep : machine.step event = some next) :
    ∃ later, Separated config (events ++ [event]) thread next later := by
  have hrun := hbooked.conducted.reached
  cases event with
  | perform performer link =>
      obtain ⟨_, _, _, _, hperformer, hexec, rfl⟩ := exists_of_step_perform hstep
      by_cases hsame : performer = thread
      · subst hsame
        exact ⟨others, hseparated.own hbooked hfew hperformer hexec⟩
      · exact ⟨_, hseparated.other hbooked hfew hsame hperformer hexec⟩
  | route message => exact hseparated.routed hrun message hstep
  | endRequests =>
      obtain ⟨_, hnext⟩ := Option.ite_none_right_eq_some.mp hstep
      cases hnext
      refine ⟨others.enter .requestsEnded, entered hrun hstep (by simp) rfl rfl ?_ ?_ ?_⟩
      · exact hseparated.kept.entered trivial
      · exact hseparated.requests.close
      · exact hseparated.transfers
  | endTransfers =>
      obtain ⟨_, hnext⟩ := Option.ite_none_right_eq_some.mp hstep
      cases hnext
      refine ⟨others.enter .transfersEnded, entered hrun hstep (by simp) rfl rfl ?_ ?_ ?_⟩
      · exact hseparated.kept.entered trivial
      · exact hseparated.requests
      · exact hseparated.transfers.close
  | _ => exact ⟨others, hseparated.quiet hrun hstep (by simp) rfl⟩

end Separated

/-- As long as tokens do not repeat, there are books without a thread in every run. -/
theorem exists_separated (thread : Nat) (hrun : (start config).run events = some machine)
    (hfew : (start config : Machine H β).registrations events < UInt64.size) :
    ∃ others, Separated config events thread machine others := by
  have hstart : Separated config [] thread (start config : Machine H β) {} :=
    ⟨.fresh, .empty _, .same (by simp [holder?, run, start, Session.start])⟩
  refine @run_invariant H β _ (fun events machine =>
    (start config).run events = some machine ∧
      ((start config : Machine H β).registrations events < UInt64.size →
        ∃ others, Separated config events thread machine others))
    _ _ [] events ⟨rfl, fun _ => ⟨{}, hstart⟩⟩ ?_ hrun |>.2 hfew
  rintro earlier middle event next ⟨hreached, hseparated⟩ hstep
  refine ⟨run_concat hreached hstep, ?_⟩
  rw [registrations_concat hreached]
  intro hless
  have hfew := Nat.lt_of_le_of_lt (Nat.le_add_right _ _) hless
  obtain ⟨stages, hbooked⟩ := exists_booked hreached
  obtain ⟨others, hothers⟩ := hseparated hfew
  exact hothers.step hbooked hfew hstep

/-! ## What a call leaves -/

/-- A message goes to the first waiter that may take it, one that was given to another call in
progress, or to the response handler. -/
def PassesOn (config : Config) (events : List (Event H β)) (thread : Nat) (machine : Machine H β)
    (message : Message) (messageId channel : UInt8) : Prop :=
  (∃ token other, machine.session.books.taker? message = some ⟨messageId, token⟩ ∧
    other ≠ thread ∧ machine.InProgress other ∧
    ⟨messageId, token⟩ ∈ Books.ticketsOf ((start config : Machine H β).ledger events) other ∧
    machine.session.tracker.Takes messageId channel message
      (machine.session.route message).2.tracker) ∨
  machine.session.tracker.Refuses messageId channel ∧
    Session.Delivers machine.session.table.response channel message.id message.payload
      machine.session (machine.session.route message).1 (machine.session.route message).2

/-- Nothing is left of a call. Tickets are told apart by their tokens, which repeat only after as
many registrations as there are tokens. -/
structure Settled (config : Config) (events : List (Event H β)) (thread : Nat)
    (machine : Machine H β) : Prop where
  /-- Every waiter is that of another call in progress. -/
  owners : ∀ messageId, ∀ waiter ∈ machine.session.tracker.waitersFor messageId,
    ∃ other, other ≠ thread ∧ machine.InProgress other ∧ ⟨messageId, waiter.token⟩ ∈
      Books.ticketsOf ((start config : Machine H β).ledger events) other
  unregistered : (start config : Machine H β).registrations events < UInt64.size →
    ∀ ticket ∈ Books.ticketsOf ((start config : Machine H β).ledger events) thread,
      ∀ waiter ∈ machine.session.tracker.waitersFor ticket.messageId, waiter.token ≠ ticket.token
  /-- A monitor that is busy is held by another call in progress. -/
  holder : machine.session.transfer.busy = true → ∃ other, other ≠ thread ∧
    (start config : Machine H β).holder? events = some other ∧ machine.InProgress other
  /-- A monitor that nobody else holds is given away at once, unless it is closed. -/
  admits : (∀ other, other ≠ thread → (start config : Machine H β).holder? events ≠ some other) →
    ∀ link channel kind packets policy deadline, ∃ next,
      (Op.beginTransfer channel kind packets policy deadline).exec machine.now link
          machine.session =
        some (if machine.session.transfer.closed then .error .closed else .ok (), next)
  passesOn : ∀ message messageId channel, message.offered? = some (messageId, channel) →
    PassesOn config events thread machine message messageId channel
  /-- The books are those of the other entries, as if the call had not used them. -/
  apart : (start config : Machine H β).registrations events < UInt64.size →
    ∃ others, Books.Kept (Books.without ((start config : Machine H β).ledger events) thread)
      others ∧ machine.session.books.Agree others

/-- What is left in the books does not show who is gone. -/
theorem Separated.agree (hseparated : Separated config events thread machine others)
    (hunregistered : ∀ ticket ∈ Books.ticketsOf ((start config : Machine H β).ledger events) thread,
      ∀ waiter ∈ machine.session.tracker.waitersFor ticket.messageId, waiter.token ≠ ticket.token)
    (hfree : (start config : Machine H β).holder? events ≠ some thread) :
    machine.session.books.Agree others := by
  refine ⟨?_, hseparated.requests.closed.symm, (hseparated.transfers.current_eq hfree).symm⟩
  intro messageId
  rw [hseparated.requests.waiters]
  symm
  apply List.filter_eq_self.mpr
  intro waiter hwaiter
  rw [decide_eq_true_eq]
  intro hticket
  exact hunregistered _ hticket waiter hwaiter rfl

section Returned

variable {result : Except CallError Reply}

/-- Once a call has returned, every waiter is that of another one. -/
theorem Booked.other_owner (hbooked : Booked config events machine stages)
    (hresult : machine.result? thread = some result) {messageId : UInt8} {waiter : Waiter}
    (hwaiter : waiter ∈ machine.session.tracker.waitersFor messageId) :
    ∃ other, other ≠ thread ∧ machine.InProgress other ∧ ⟨messageId, waiter.token⟩ ∈
      Books.ticketsOf ((start config : Machine H β).ledger events) other := by
  obtain ⟨other, hprogress, hticket⟩ := hbooked.owner hwaiter
  exact ⟨other, ne_of_inProgress hresult hprogress, hprogress, hticket⟩

theorem Booked.unregistered (hbooked : Booked config events machine stages)
    (hfew : (start config : Machine H β).registrations events < UInt64.size)
    (hresult : machine.result? thread = some result) {ticket : Ticket}
    (hticket : ticket ∈ Books.ticketsOf ((start config : Machine H β).ledger events) thread)
    {waiter : Waiter} (hwaiter : waiter ∈ machine.session.tracker.waitersFor ticket.messageId) :
    waiter.token ≠ ticket.token := by
  intro htoken
  obtain ⟨other, hother, _, hgiven⟩ := hbooked.other_owner hresult hwaiter
  rw [htoken] at hgiven
  exact hother ((hbooked.accounted hfew).apart other thread ticket hgiven hticket)

theorem exists_other_holder (hrun : (start config).run events = some machine)
    (hresult : machine.result? thread = some result)
    (hbusy : machine.session.transfer.busy = true) :
    ∃ other, other ≠ thread ∧ (start config : Machine H β).holder? events = some other ∧
      machine.InProgress other := by
  obtain ⟨other, hholder, hprogress⟩ := exists_holder_of_busy hrun hbusy
  exact ⟨other, ne_of_inProgress hresult hprogress, hholder, hprogress⟩

theorem Booked.passesOn (hbooked : Booked config events machine stages)
    (hresult : machine.result? thread = some result) {message : Message} {messageId channel : UInt8}
    (hoffered : message.offered? = some (messageId, channel)) :
    PassesOn config events thread machine message messageId channel := by
  have hroute : machine.session.route message =
      machine.session.offerResponse messageId channel message.id message :=
    Session.route_of_offered hoffered
  rcases (Session.offerResponse_cases hroute.symm).2 with
    ⟨htakes, _⟩ | ⟨hrefuses, _, hdelivers⟩
  · obtain ⟨waiter, hwaiter, htaker⟩ := Tracker.taker?_of_takes htakes
    obtain ⟨other, hother, hprogress, hticket⟩ := hbooked.other_owner hresult hwaiter
    refine .inl ⟨waiter.token, other, ?_, hother, hprogress, hticket, htakes⟩
    rw [Books.taker?, hoffered]
    exact htaker
  · exact .inr ⟨hrefuses, hdelivers⟩

end Returned

/-- However a call ends, nothing is left of it. -/
theorem run_settles (config : Config) (events : List (Event H β)) (machine : Machine H β)
    (thread : Nat) (result : Except CallError Reply)
    (hrun : (start config).run events = some machine)
    (hresult : machine.result? thread = some result) :
    Settled config events thread machine := by
  obtain ⟨stages, hbooked⟩ := exists_booked hrun
  refine ⟨?_, ?_, ?_, ?_, ?_, ?_⟩
  · exact fun messageId waiter hwaiter => hbooked.other_owner hresult hwaiter
  · exact fun hfew ticket hticket waiter => hbooked.unregistered hfew hresult hticket
  · exact fun hbusy => exists_other_holder hrun hresult hbusy
  · intro hnobody
    apply admits_of_free
    rw [← Bool.not_eq_true]
    intro hbusy
    obtain ⟨other, hother, hheld, _⟩ := exists_other_holder hrun hresult hbusy
    exact hnobody other hother hheld
  · exact fun message messageId channel hoffered => hbooked.passesOn hresult hoffered
  · intro hfew
    obtain ⟨others, hseparated⟩ := exists_separated thread hrun hfew
    refine ⟨others, hseparated.kept, hseparated.agree ?_ ?_⟩
    · exact fun ticket hticket waiter => hbooked.unregistered hfew hresult hticket
    · intro hheld
      obtain ⟨other, hother, hsame, _⟩ :=
        exists_other_holder hrun hresult (busy_of_holder? hrun hheld)
      cases hheld.symm.trans hsame
      exact hother rfl

/-- While another request waits, one runs out of time after the device accepted it, and the first
frame of a burst cannot be written. -/
def cutShort : List (Event Unit Unit) :=
  [.begin (.request 1 0x51 (some 10)) false] ++ List.replicate 7 (.perform 0 (.ok ())) ++
    [.begin (.request 1 0x51 (some 0)) false] ++ List.replicate 7 (.perform 1 (.ok ())) ++
    [.route ⟨0x40, [1, 0x4D, 0], by decide⟩, .perform 0 (.ok ()), .perform 0 (.ok ()), .tick 20,
      .perform 0 (.ok ()), .perform 0 (.ok ())] ++
    [.begin (.burst 1 (List.replicate 9 7) (some 5)) false] ++
    List.replicate 10 (.perform 2 (.ok ())) ++ [.perform 2 (.error .closed), .perform 2 (.ok ())]

theorem run_settles_of_cut_short :
    ∃ machine, (start {} : Machine Unit Unit).run cutShort = some machine ∧
      (start {} : Machine Unit Unit).registrations cutShort = 4 ∧
      machine.result? 0 = some (.error .timeout) ∧ Settled {} cutShort 0 machine ∧
      machine.result? 2 = some (.error (.transport .closed)) ∧ Settled {} cutShort 2 machine ∧
      machine.session.tracker.waitersFor 0x51 = [{ token := 2, channel := some 1 }] ∧
      machine.session.transfer.busy = false := by
  have hend : ((start {} : Machine Unit Unit).run cutShort).map (fun machine =>
      ([machine.result? 0, machine.result? 2], machine.session.tracker.waitersFor 0x51,
        machine.session.transfer.busy)) =
      some ([some (.error .timeout), some (.error (.transport .closed))],
        [{ token := 2, channel := some 1 }], false) := by
    decide +kernel
  obtain ⟨machine, hrun, hmachine⟩ := Option.map_eq_some_iff.mp hend
  simp only [Prod.mk.injEq, List.cons.injEq, and_true] at hmachine
  obtain ⟨⟨hfirst, hsecond⟩, hwaiters, hfree⟩ := hmachine
  exact ⟨machine, hrun, by decide +kernel, hfirst, run_settles _ _ _ _ _ hrun hfirst, hsecond,
    run_settles _ _ _ _ _ hrun hsecond, hwaiters, hfree⟩

end Machine

end AntHost
