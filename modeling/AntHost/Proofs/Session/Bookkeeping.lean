import AntHost.Proofs.Session.Apart
import AntHost.Proofs.Session.Bursts
import AntHost.Proofs.Session.Sole
/-!
# Whose the entries are

Every operation on a waiter is the business of the thread that was given its ticket, and every
operation on a transfer that of the thread which holds the monitor. As long as numbers last, no
ticket is given twice.
-/

namespace AntHost

variable {H β : Type}

/-! ## Tickets of a call -/

theorem AskStage.mem_held_of_tickets {call : Call} {stage : AskStage} {op : Op}
    (hallows : stage.Allows call op) {ticket : Ticket} (hticket : ticket ∈ op.tickets) :
    ∃ entry ∈ stage.held, entry.1 = ticket := by
  rw [← List.mem_map]
  cases op with
  | unregister own =>
      rw [List.mem_singleton.mp hticket]
      obtain ⟨last, hlast, rfl⟩ := Option.map_eq_some_iff.mp hallows.1
      exact List.mem_map_of_mem (List.mem_of_getLast? hlast)
  | awaitResponse =>
      rw [hallows.1]
      exact hticket
  | _ => cases hticket

/-- The ticket of a registration has the tracker's next token. -/
theorem Op.token_of_given {op : Op} {reply : op.Reply} {before after : Tracker}
    (htracks : op.Tracks reply before after) {performer thread : Nat} {ticket : Ticket}
    (hgiven : (Entry.performed performer op reply).given? thread = some ticket) :
    ticket.token = before.nextToken := by
  cases op with
  | register messageId channel =>
      obtain ⟨_, heq⟩ := Option.ite_none_right_eq_some.mp hgiven
      cases heq
      exact congrArg (fun result => result.1.token) htracks.symm
  | _ => cases hgiven

namespace Machine

variable {machine next : Machine H β} {event : Event H β} {stages later : Nat → AskStage}
  {thread count : Nat} {ledger : List Entry} {entry : Entry}

/-- Every thread was given the tickets that it holds. -/
def Ticketed (ledger : List Entry) (stages : Nat → AskStage) : Prop :=
  ∀ thread, ∀ entry ∈ (stages thread).held, entry.1 ∈ Books.ticketsOf ledger thread

/-- Every ticket was given to one thread, under a number of its own. -/
structure Accounted (count : Nat) (ledger : List Entry) : Prop where
  numbered : ∀ thread, ∀ ticket ∈ Books.ticketsOf ledger thread,
    ∃ number < count, ticket.token = .ofNat number
  takers : ∀ message ticket, .routed message (some ticket) ∈ ledger →
    ∃ number < count, ticket.token = .ofNat number
  apart : ∀ first second ticket, ticket ∈ Books.ticketsOf ledger first →
    ticket ∈ Books.ticketsOf ledger second → first = second

namespace Accounted

theorem fresh : Accounted 0 [] := by
  constructor <;> simp [Books.ticketsOf]

/-- Entries that give nobody a ticket change nothing. -/
theorem quiet (haccounted : Accounted count ledger)
    (hgiven : ∀ thread, entry.given? thread = none)
    (htaker : ∀ message ticket, entry = .routed message (some ticket) →
      ∃ number < count, ticket.token = .ofNat number) :
    Accounted count (ledger ++ [entry]) := by
  have htickets : ∀ thread, Books.ticketsOf (ledger ++ [entry]) thread =
      Books.ticketsOf ledger thread := by
    intro thread
    rw [Books.ticketsOf_concat, hgiven, Option.toList_none, List.append_nil]
  refine ⟨?_, ?_, ?_⟩
  · intro thread
    rw [htickets]
    exact haccounted.numbered thread
  · intro message ticket hmem
    rcases List.mem_append.mp hmem with hold | hnew
    · exact haccounted.takers message ticket hold
    · exact htaker message ticket (List.mem_singleton.mp hnew).symm
  · intro first second ticket
    rw [htickets, htickets]
    exact haccounted.apart first second ticket

/-- A new ticket has the next number. -/
theorem register {before : Tracker} {messageId : UInt8} {channel : Option UInt8} {ticket : Ticket}
    (haccounted : Accounted count ledger) (hcounted : Counted count before stages)
    (hfew : count < UInt64.size) (htoken : ticket.token = before.nextToken) :
    Accounted (count + 1) (ledger ++ [.performed thread (.register messageId channel) ticket]) := by
  have htickets : ∀ other given, given ∈ Books.ticketsOf
      (ledger ++ [.performed thread (.register messageId channel) ticket]) other ↔
        given ∈ Books.ticketsOf ledger other ∨ thread = other ∧ given = ticket := by
    intro other given
    rw [Books.ticketsOf_concat, List.mem_append, Option.mem_toList]
    by_cases hsame : thread = other <;> simp [Entry.given?, hsame, eq_comm]
  have hnew : ∀ other, ticket ∉ Books.ticketsOf ledger other := by
    intro other hmem
    obtain ⟨number, hlt, hnumber⟩ := haccounted.numbered other ticket hmem
    exact hcounted.ne_nextToken hfew hlt (hnumber.symm.trans htoken)
  refine ⟨?_, ?_, ?_⟩
  · intro other given hgiven
    rcases (htickets other given).mp hgiven with hold | ⟨_, rfl⟩
    · obtain ⟨number, hlt, hnumber⟩ := haccounted.numbered other given hold
      exact ⟨number, Nat.lt_succ_of_lt hlt, hnumber⟩
    · exact ⟨count, Nat.lt_succ_self count, htoken.trans hcounted.nextToken⟩
  · intro message taker hmem
    rcases List.mem_append.mp hmem with hold | hlast
    · obtain ⟨number, hlt, hnumber⟩ := haccounted.takers message taker hold
      exact ⟨number, Nat.lt_succ_of_lt hlt, hnumber⟩
    · cases List.mem_singleton.mp hlast
  · intro first second given hfirst hsecond
    rcases (htickets first given).mp hfirst with hold | ⟨rfl, rfl⟩
    · rcases (htickets second given).mp hsecond with hother | ⟨_, rfl⟩
      · exact haccounted.apart first second given hold hother
      · exact absurd hold (hnew first)
    · rcases (htickets second given).mp hsecond with hother | ⟨rfl, _⟩
      · exact absurd hother (hnew second)
      · rfl

end Accounted

/-- The waiter that takes a message carries the ticket. -/
theorem exists_waiter_of_taker {books : Books} {message : Message} {ticket : Ticket}
    (htaker : books.taker? message = some ticket) :
    (∃ waiter ∈ books.tracker.waitersFor ticket.messageId, waiter.token = ticket.token) ∧
      (books.hear message).monitor = books.monitor := by
  obtain ⟨⟨messageId, channel⟩, hoffered, hfind⟩ := Option.bind_eq_some_iff.mp htaker
  refine ⟨?_, ?_⟩
  · change books.tracker.taker? messageId channel = some ticket at hfind
    rw [Tracker.taker?] at hfind
    split at hfind
    next => cases hfind
    next =>
      obtain ⟨waiter, hwaiter, rfl⟩ := Option.map_eq_some_iff.mp hfind
      exact ⟨waiter, List.mem_of_find?_eq_some hwaiter, rfl⟩
  · rw [Message.offered?] at hoffered
    rw [Books.hear]
    cases hroute : message.route? with
    | none => rfl
    | some route =>
        cases route with
        | channelEvent => simp [hroute] at hoffered
        | _ => rfl

theorem entered?_of_changed (hperform : ∀ thread link, event ≠ .perform thread link)
    (hroute : ∀ message, event ≠ .route message) :
    machine.entered? event = none ∨ machine.entered? event = some .requestsEnded ∨
      machine.entered? event = some .transfersEnded := by
  cases event with
  | perform thread link => exact absurd rfl (hperform thread link)
  | route message => exact absurd rfl (hroute message)
  | endRequests => exact .inr (.inl rfl)
  | endTransfers => exact .inr (.inr rfl)
  | _ => exact .inl rfl

variable [DecidableEq β] {config : Config} {events : List (Event H β)}

theorem Ticketed.step (hticketed : Ticketed ledger stages)
    (hconducted : Conducted askConduct config events machine stages)
    (hadvances : Advances askConduct machine stages event next later) :
    Ticketed (ledger ++ (machine.entered? event).toList) later := by
  have hmore : Ticketed (ledger ++ (machine.entered? event).toList) stages := by
    intro thread entry hentry
    rw [Books.ticketsOf_append]
    exact List.mem_append_left _ (hticketed thread entry hentry)
  cases hadvances with
  | begun call onRouter =>
      rw [hconducted.update_begun]
      exact hmore
  | @performed performer link op rest reply session hthread hexec =>
      intro thread entry hentry
      by_cases hsame : thread = performer
      · subst hsame
        rw [Function.update_self] at hentry
        have htracks := Op.exec_tracker hexec
        rcases AskStage.mem_held_next htracks hentry with
          hold | ⟨messageId, channel, rfl, hticket⟩
        · exact hmore thread entry hold
        · have hreply : reply = entry.1 := (congrArg Prod.fst htracks).symm.trans hticket.symm
          rw [entered?_of_performed hthread hexec, Option.toList_some, Books.ticketsOf_concat,
            hreply]
          simp [Entry.given?]
      · rw [Function.update_of_ne hsame] at hentry
        exact hmore thread entry hentry
  | routed | changed => exact hmore

theorem Accounted.step (haccounted : Accounted count ledger)
    (hcounted : Counted count machine.session.tracker stages) (hfew : count < UInt64.size)
    (hadvances : Advances askConduct machine stages event next later) :
    Accounted (count + if machine.registers event then 1 else 0)
      (ledger ++ (machine.entered? event).toList) := by
  cases hadvances with
  | begun call onRouter =>
      change Accounted (count + 0) (ledger ++ [])
      rw [List.append_nil]
      exact haccounted
  | @performed performer link op rest reply session hthread hexec =>
      rw [entered?_of_performed hthread hexec, registers, hthread]
      cases op with
      | register messageId channel =>
          have hgiven : (Entry.performed performer (.register messageId channel) reply).given?
              performer = some reply := if_pos rfl
          exact haccounted.register hcounted hfew
            (Op.token_of_given (Op.exec_tracker hexec) hgiven)
      | _ => exact haccounted.quiet (fun _ => rfl) (by simp)
  | routed message =>
      refine haccounted.quiet (fun _ => rfl) ?_
      intro taken ticket heq
      obtain ⟨_, htaker⟩ := Entry.routed.inj heq
      obtain ⟨⟨waiter, hwaiter, htoken⟩, _⟩ := exists_waiter_of_taker htaker
      rw [← htoken]
      exact hcounted.waiters ticket.messageId waiter hwaiter
  | @changed event _ _ _ hperform hroute =>
      rw [registers_of_changed hperform]
      rcases @entered?_of_changed _ _ machine event hperform hroute with
        hentry | hentry | hentry <;> rw [hentry]
      · rw [Option.toList_none, List.append_nil]
        exact haccounted
      · exact haccounted.quiet (fun _ => rfl) (by simp)
      · exact haccounted.quiet (fun _ => rfl) (by simp)

/-- What the ledger says of the threads. Numbers last for as many registrations as there are
tokens. -/
structure Booked (config : Config) (events : List (Event H β)) (machine : Machine H β)
    (stages : Nat → AskStage) : Prop where
  conducted : Conducted askConduct config events machine stages
  registered : Registered events machine stages
  ticketed : Ticketed ((start config : Machine H β).ledger events) stages
  counted : Counted ((start config : Machine H β).registrations events) machine.session.tracker
    stages
  accounted : (start config : Machine H β).registrations events < UInt64.size →
    Accounted ((start config : Machine H β).registrations events)
      ((start config : Machine H β).ledger events)

theorem exists_booked (hrun : (start config).run events = some machine) :
    ∃ stages, Booked config events machine stages := by
  have hstart : ∃ stages, Booked config [] (start config : Machine H β) stages := by
    refine ⟨fun _ => {}, .fresh askConduct config, .fresh config, ?_, .fresh, fun _ => .fresh⟩
    intro thread entry hentry
    cases hentry
  refine run_invariant (fun events machine => ∃ stages, Booked config events machine stages)
    hstart ?_ hrun
  rintro earlier middle event next ⟨stages, hbooked⟩ hstep
  have hconducted := hbooked.conducted
  obtain ⟨later, hadvances⟩ := exists_advances askConduct hstep stages
  refine ⟨later, hconducted.step (Call.asks config) hstep hadvances,
    hbooked.registered.step hconducted hadvances, ?_, ?_, ?_⟩
  · rw [ledger_concat hconducted.reached]
    exact hbooked.ticketed.step hconducted hadvances
  · rw [registrations_concat hconducted.reached]
    exact hbooked.counted.step hconducted hadvances
  · rw [ledger_concat hconducted.reached, registrations_concat hconducted.reached]
    intro hless
    have hfew := Nat.lt_of_le_of_lt (Nat.le_add_right _ _) hless
    exact (hbooked.accounted hfew).step hbooked.counted hfew hadvances

namespace Booked

variable {performer : Nat} {op : Op} {rest : op.Reply → Program (Except CallError Reply)}
  {ticket : Ticket}

/-- A thread uses tickets that it was given. -/
theorem mem_ticketsOf (hbooked : Booked config events machine stages)
    (hthread : machine.threads[performer]? = some (.perform op rest))
    (hticket : ticket ∈ op.tickets) :
    ticket ∈ Books.ticketsOf ((start config : Machine H β).ledger events) performer := by
  obtain ⟨call, _, hallows, _⟩ := hbooked.conducted.allows hthread
  obtain ⟨entry, hentry, rfl⟩ := AskStage.mem_held_of_tickets hallows hticket
  exact hbooked.ticketed performer entry hentry

/-- A ticket has a number that none before it has. -/
theorem ne_of_given (hbooked : Booked config events machine stages)
    (hfew : (start config : Machine H β).registrations events < UInt64.size)
    {reply : op.Reply} {after : Tracker} (htracks : op.Tracks reply machine.session.tracker after)
    (hgiven : (Entry.performed performer op reply).given? thread = some ticket) {number : Nat}
    (hlt : number < (start config : Machine H β).registrations events) :
    .ofNat number ≠ ticket.token := by
  rw [Op.token_of_given htracks hgiven]
  exact hbooked.counted.ne_nextToken hfew hlt

/-- Every waiter was given to a call that is still in progress. -/
theorem owner (hbooked : Booked config events machine stages) {messageId : UInt8}
    {waiter : Waiter} (hwaiter : waiter ∈ machine.session.tracker.waitersFor messageId) :
    ∃ other, machine.InProgress other ∧ ⟨messageId, waiter.token⟩ ∈
      Books.ticketsOf ((start config : Machine H β).ledger events) other := by
  obtain ⟨other, howns⟩ := hbooked.registered.owned messageId waiter hwaiter
  obtain ⟨entry, hentry, hticket⟩ := List.mem_map.mp howns
  refine ⟨other, hbooked.conducted.inProgress_of_held (List.ne_nil_of_mem hentry), ?_⟩
  rw [← hticket]
  exact hbooked.ticketed other entry hentry

end Booked

end Machine

/-! ## Who holds the monitor -/

theorem TransferStage.holds_of_needs {burst? : Option UInt8} {stage : TransferStage} {op : Op}
    (hallows : stage.Allows burst? op) (hneeds : op.needsTransfer = true) : stage.holds = true := by
  cases op with
  | packetSent | releaseTransfer | awaitOutcome => exact hallows
  | transferAborted => exact hallows.1
  | _ => cases hneeds

/-- A monitor that is given up is idle, and stays so until it is given away. -/
theorem Op.idle_onTransfer {op : Op} {monitor : TransferMonitor}
    (hidle : monitor.busy = false → monitor.Idle) (reply : op.Reply)
    (hfree : (op.onTransfer reply monitor).busy = false) : (op.onTransfer reply monitor).Idle := by
  cases op with
  | beginTransfer =>
      rcases reply with error | ⟨⟩
      · exact hidle hfree
      · cases hfree
  | packetSent =>
      obtain ⟨hbusy, hkind, houtstanding⟩ := hidle hfree
      refine ⟨hbusy, hkind, ?_⟩
      simp [onTransfer, TransferMonitor.packetSent, houtstanding]
  | releaseTransfer => exact ⟨rfl, rfl, rfl⟩
  | _ => exact hidle hfree

namespace Machine

variable {machine next : Machine H β} {event : Event H β} {config : Config}
  {events : List (Event H β)} {thread performer : Nat} {op : Op}
  {rest : op.Reply → Program (Except CallError Reply)} {reply : op.Reply} {session : Session H β}
  {link : Except TransportError Unit}

/-- Whoever is in progress is not a thread that has returned. -/
theorem ne_of_inProgress {result : Except CallError Reply}
    (hresult : machine.result? thread = some result) (hprogress : machine.InProgress performer) :
    performer ≠ thread := by
  rintro rfl
  obtain ⟨op, rest, hthread⟩ := hprogress
  cases hthread.symm.trans (getElem?_of_result? hresult)

variable [DecidableEq β]

theorem idle_of_free (hrun : (start config).run events = some machine)
    (hfree : machine.session.transfer.busy = false) : machine.session.transfer.Idle := by
  have hstart : (start config : Machine H β).session.transfer.busy = false →
      (start config : Machine H β).session.transfer.Idle := fun _ => ⟨rfl, rfl, rfl⟩
  refine @run_invariant H β _ (fun _ machine => machine.session.transfer.busy = false →
    machine.session.transfer.Idle) _ _ [] events hstart ?_ hrun hfree
  intro earlier middle event next hidle hstep hfree
  obtain ⟨_, hmoves⟩ := exists_moves hstep fun _ => {}
  cases hmoves with
  | begun => exact hidle hfree
  | performed _ hexec =>
      have htransfer := (Op.exec_transfer hexec).1
      change (Session.transfer _).Idle
      rw [htransfer]
      apply Op.idle_onTransfer hidle
      rw [← htransfer]
      exact hfree
  | routed message =>
      have hbefore := hidle ((Session.busy_route _ _).symm.trans hfree)
      change (middle.session.route message).2.transfer.Idle
      rw [Session.route_transfer]
      split
      next =>
        rw [TransferMonitor.onEvent_of_idle hbefore.kind]
        exact hbefore
      next => exact hbefore
  | changed _ _ htransfer =>
      rcases htransfer with hsame | hclosed
      · rw [hsame] at hfree ⊢
        exact hidle hfree
      · rw [hclosed] at hfree ⊢
        have hbefore := hidle hfree
        exact ⟨hbefore.busy, hbefore.kind, hbefore.outstanding⟩

theorem busy_of_holder? (hrun : (start config).run events = some machine)
    (hholder : (start config : Machine H β).holder? events = some thread) :
    machine.session.transfer.busy = true := by
  rw [holder?, hrun, Option.bind_some] at hholder
  exact (Option.ite_none_right_eq_some.mp hholder).1

/-- Who performs an operation on a transfer holds the monitor. -/
theorem holder?_of_needs (hrun : (start config).run events = some machine)
    (hthread : machine.threads[thread]? = some (.perform op rest))
    (hneeds : op.needsTransfer = true) :
    (start config : Machine H β).holder? events = some thread := by
  obtain ⟨stages, hstaged⟩ := exists_staged hrun
  obtain ⟨call, _, hallows, _⟩ := hstaged.held.allows hthread
  exact hstaged.held.holder?_eq (TransferStage.holds_of_needs hallows hneeds)

/-- An operation may give the monitor to its thread, or give it up. -/
theorem holder?_performed (hrun : (start config).run events = some machine)
    (hthread : machine.threads[performer]? = some (.perform op rest))
    (hexec : op.exec machine.now link machine.session = some (reply, session)) :
    (start config : Machine H β).holder? (events ++ [.perform performer link]) =
      if op.grants reply then some performer
      else if op = .releaseTransfer then none
      else (start config : Machine H β).holder? events := by
  have hbusy : session.transfer.busy =
      (op.grants reply || (machine.session.transfer.busy && decide (op ≠ .releaseTransfer))) := by
    rw [(Op.exec_transfer hexec).1, Op.busy_onTransfer]
  rw [holder?, holder?, run_concat hrun (step_perform hthread hexec), hrun, grants_concat hrun,
    granted?_of_performed hthread hexec, Option.bind_some, Option.bind_some]
  dsimp only
  rw [hbusy]
  cases hgrants : op.grants reply with
  | true => simp
  | false => by_cases hrelease : op = .releaseTransfer <;> simp [hrelease]

theorem holder?_of_other (hrun : (start config).run events = some machine)
    (hstep : machine.step event = some next)
    (hother : ∀ performer link, event ≠ .perform performer link) :
    (start config : Machine H β).holder? (events ++ [event]) =
      (start config : Machine H β).holder? events := by
  have hbusy : next.session.transfer.busy = machine.session.transfer.busy := by
    obtain ⟨_, hmoves⟩ := exists_moves hstep fun _ => {}
    cases hmoves with
    | begun => rfl
    | performed => exact absurd rfl (hother _ _)
    | routed message => exact Session.busy_route _ _
    | changed _ _ htransfer =>
        rcases htransfer with hsame | hclosed
        · rw [hsame]
        · rw [hclosed]
          rfl
  rw [holder?, holder?, run_concat hrun hstep, hrun, grants_concat hrun,
    granted?_of_other hother, Option.toList_none, List.append_nil, Option.bind_some,
    Option.bind_some, hbusy]

/-- The monitor is free, or held by a call that is still in progress. -/
theorem exists_holder_of_busy (hrun : (start config).run events = some machine)
    (hbusy : machine.session.transfer.busy = true) :
    ∃ other, (start config : Machine H β).holder? events = some other ∧
      machine.InProgress other := by
  obtain ⟨stages, hstaged⟩ := exists_staged hrun
  obtain ⟨other, hholds⟩ := hstaged.held.holding.exists_holds hbusy
  refine ⟨other, hstaged.held.holder?_eq hholds, ?_⟩
  have hlt := hstaged.held.lt_of_holds hholds
  have hcall := List.getElem?_eq_getElem (hstaged.held.length ▸ hlt)
  rcases inProgress_or_result hlt with hprogress | ⟨result, hresult⟩
  · exact hprogress
  · cases (hstaged.ends hcall hresult).holds.symm.trans hholds

end Machine

end AntHost
