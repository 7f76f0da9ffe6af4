import AntHost.Proofs.Session.Waiting
import AntHost.Proofs.Tracker.Parts
/-!
# The books of a session

A session keeps books of the requests that are outstanding and of the transfer in progress. The
ledger of a run has one entry for everything that may change them: an operation of a thread with its
reply, a message that was routed with the ticket of the waiter that took it, and the two steps by
which the router ends all waits. Without the entries of one thread the ledger tells what the books
would be if its call had not used them.
-/

namespace AntHost

variable {H β : Type}

/-! ## What operations do to the waiters -/

/-- A wait ends with what it finds, or with an error if it finds nothing. -/
theorem WaitPolicy.eq_getD_of_check {α : Type} {policy : WaitPolicy} {raised : Bool}
    {deadline : Option Nat} {now : Nat} {found : Option (Except WaitError α)}
    {result : Except WaitError α} (hcheck : policy.check raised deadline now found = some result) :
    ∃ error, result = found.getD (.error error) := by
  cases found with
  | some found =>
      cases hcheck
      exact ⟨.timeout, rfl⟩
  | none =>
      obtain ⟨error, _, rfl⟩ := Option.map_eq_some_iff.mp hcheck
      exact ⟨error, rfl⟩

namespace Op

/-- The tickets that an operation is about. -/
def tickets : Op → List Ticket
  | unregister ticket => [ticket]
  | awaitResponse first second _ _ => first :: second.toList
  | _ => []

/-- Whether an operation is about the transfer held. -/
def needsTransfer : Op → Bool
  | packetSent | transferAborted | releaseTransfer | awaitOutcome .. => true
  | _ => false

/-- The tracker after a reply. -/
def onTracker : (op : Op) → op.Reply → Tracker → Tracker
  | register _ channel, ticket, tracker => tracker.enroll ticket channel
  | unregister ticket, _, tracker => tracker.unregister ticket
  | awaitResponse first second _ _, _, tracker => (tracker.lookFor first second).2
  | _, _, tracker => tracker

/-- A wait is answered with what it finds, or fails as long as that is nothing. -/
def Answers : (op : Op) → op.Reply → Tracker → Prop
  | awaitResponse first second _ _, reply, tracker =>
      ∃ error, reply = (tracker.lookFor first second).1.getD (.error error)
  | _, _, _ => True

variable {op : Op} {reply : op.Reply} {session next : Session H β} {now : Nat}
  {link : Except TransportError Unit}

theorem exec_onTracker (hexec : op.exec now link session = some (reply, next)) :
    next.tracker = op.onTracker reply session.tracker ∧ op.Answers reply session.tracker := by
  cases op with
  | awaitResponse first second policy deadline =>
      obtain ⟨result, hcheck, heq⟩ := Option.map_eq_some_iff.mp hexec
      cases heq
      exact ⟨rfl, WaitPolicy.eq_getD_of_check hcheck⟩
  | beginTransfer | awaitOutcome =>
      obtain ⟨result, _, heq⟩ := Option.map_eq_some_iff.mp hexec
      cases heq
      exact ⟨rfl, trivial⟩
  | awaitStopped | joinRouter =>
      rw [exec] at hexec
      split at hexec
      next =>
        cases hexec
        exact ⟨rfl, trivial⟩
      next => cases hexec
  | _ =>
      cases hexec
      exact ⟨rfl, trivial⟩

end Op

/-! ## Entries -/

/-- The requests that are outstanding and the transfer in progress. -/
structure Books where
  tracker : Tracker := {}
  monitor : TransferMonitor := {}

def Session.books (session : Session H β) : Books := ⟨session.tracker, session.transfer⟩

/-- One thing that may change the books. -/
inductive Entry where
  | performed (thread : Nat) (op : Op) (reply : op.Reply)
  /-- A message was routed, and the waiter of a ticket took it, if one did. -/
  | routed (message : Message) (taker : Option Ticket)
  | requestsEnded
  | transfersEnded

namespace Entry

/-- The ticket that a thread is given. -/
def given? (thread : Nat) : Entry → Option Ticket
  | performed performer (.register _ _) ticket => if performer = thread then some ticket else none
  | _ => none

/-- Whether an entry is a thread's own, or that of a message which one of its tickets took. -/
def concerns (thread : Nat) (tickets : List Ticket) : Entry → Bool
  | performed performer _ _ => performer = thread
  | routed _ taker => taker.any fun ticket => ticket ∈ tickets
  | _ => false

end Entry

namespace Books

def taker? (books : Books) (message : Message) : Option Ticket :=
  message.offered?.bind fun (messageId, channel) => books.tracker.taker? messageId channel

/-- The books after a message. -/
def hear (books : Books) (message : Message) : Books where
  tracker :=
    match message.offered? with
    | some (messageId, channel) => (books.tracker.offer messageId channel message).2
    | none => books.tracker
  monitor :=
    match message.route? with
    | some (.channelEvent channel code) => books.monitor.onEvent channel code
    | _ => books.monitor

/-- The books after an entry. -/
def enter (books : Books) : Entry → Books
  | .performed _ op reply => ⟨op.onTracker reply books.tracker, op.onTransfer reply books.monitor⟩
  | .routed message _ => books.hear message
  | .requestsEnded => { books with tracker := books.tracker.close }
  | .transfersEnded => { books with monitor := books.monitor.close }

/-- The books bear an entry out: the reply is one that they give, and the message goes to that
waiter. -/
def BearOut (books : Books) : Entry → Prop
  | .performed _ op reply => op.Answers reply books.tracker ∧ op.Tells reply books.monitor
  | .routed message taker => books.taker? message = taker
  | _ => True

/-- The books after a list of entries, each of which the books before it bear out. -/
inductive Kept : List Entry → Books → Prop where
  | fresh : Kept [] {}
  | entered {entries : List Entry} {books : Books} {entry : Entry} (hkept : Kept entries books)
      (hborne : books.BearOut entry) : Kept (entries ++ [entry]) (books.enter entry)

/-- The tickets that a thread was given. -/
def ticketsOf (ledger : List Entry) (thread : Nat) : List Ticket :=
  ledger.filterMap (Entry.given? thread)

/-- What a ledger says apart from a thread: its own entries are left out, and so are the messages
that its tickets took. -/
def without (ledger : List Entry) (thread : Nat) : List Entry :=
  ledger.filter fun entry => !entry.concerns thread (ticketsOf ledger thread)

variable {ledger : List Entry} {entry : Entry} {thread : Nat}

theorem ticketsOf_append (first second : List Entry) (thread : Nat) :
    ticketsOf (first ++ second) thread = ticketsOf first thread ++ ticketsOf second thread :=
  List.filterMap_append

theorem ticketsOf_concat (ledger : List Entry) (entry : Entry) (thread : Nat) :
    ticketsOf (ledger ++ [entry]) thread =
      ticketsOf ledger thread ++ (entry.given? thread).toList := by
  rw [ticketsOf_append]
  cases hgiven : entry.given? thread <;> simp [ticketsOf, hgiven]

/-- A new ticket makes no difference to the entries before it. -/
theorem without_concat
    (hnew : ∀ message ticket, .routed message (some ticket) ∈ ledger →
      entry.given? thread ≠ some ticket) :
    without (ledger ++ [entry]) thread =
      without ledger thread ++
        if entry.concerns thread (ticketsOf ledger thread) then [] else [entry] := by
  have hold : ∀ other ∈ ledger, other.concerns thread (ticketsOf (ledger ++ [entry]) thread) =
      other.concerns thread (ticketsOf ledger thread) := by
    intro other hother
    cases other with
    | routed message taker =>
        cases taker with
        | none => rfl
        | some ticket =>
            have hne := hnew message ticket hother
            cases hgiven : entry.given? thread with
            | none => simp [Entry.concerns, ticketsOf_concat, hgiven]
            | some given =>
                have hother : ticket ≠ given := by
                  rintro rfl
                  exact hne hgiven
                simp [Entry.concerns, ticketsOf_concat, hgiven, hother]
    | _ => rfl
  have hlast : entry.concerns thread (ticketsOf (ledger ++ [entry]) thread) =
      entry.concerns thread (ticketsOf ledger thread) := by
    cases entry with
    | routed message taker => simp [ticketsOf_concat, Entry.given?]
    | _ => rfl
  rw [without, List.filter_append, List.filter_singleton, hlast]
  congr 1
  · apply List.filter_congr
    intro other hother
    rw [hold other hother]
  · cases entry.concerns thread (ticketsOf ledger thread) <;> rfl

end Books

/-! ## The ledger of a run -/

namespace Machine

variable {config : Config} {events : List (Event H β)} {machine next : Machine H β}
  {event : Event H β}

/-- What an event enters into the books. -/
def entered? (machine : Machine H β) : Event H β → Option Entry
  | .perform thread link =>
      match machine.threads[thread]? with
      | some (.perform op _) =>
          (op.exec machine.now link machine.session).map fun (reply, _) =>
            .performed thread op reply
      | _ => none
  | .route message => some (.routed message (machine.session.books.taker? message))
  | .endRequests => some .requestsEnded
  | .endTransfers => some .transfersEnded
  | _ => none

theorem entered?_of_performed {thread : Nat} {link : Except TransportError Unit} {op : Op}
    {rest : op.Reply → Program (Except CallError Reply)} {reply : op.Reply} {session : Session H β}
    (hthread : machine.threads[thread]? = some (.perform op rest))
    (hexec : op.exec machine.now link machine.session = some (reply, session)) :
    machine.entered? (.perform thread link) = some (.performed thread op reply) := by
  rw [entered?, hthread]
  dsimp only
  rw [hexec]
  rfl

variable [DecidableEq β]

/-- What some events enter into the books, one after the other. -/
def ledger (machine : Machine H β) : List (Event H β) → List Entry
  | [] => []
  | event :: rest =>
      (machine.entered? event).toList ++
        match machine.step event with
        | some next => next.ledger rest
        | none => []

theorem ledger_concat {first last : Machine H β} (hrun : first.run events = some last)
    (event : Event H β) :
    first.ledger (events ++ [event]) = first.ledger events ++ (last.entered? event).toList := by
  induction events generalizing first with
  | nil =>
      cases hrun
      rw [List.nil_append, ledger, ledger, List.nil_append]
      cases last.step event <;> simp [ledger]
  | cons head rest ih =>
      obtain ⟨next, hstep, hrest⟩ := Option.bind_eq_some_iff.mp hrun
      rw [List.cons_append, ledger, ledger, hstep]
      dsimp only
      rw [ih hrest, List.append_assoc]

theorem books_route (session : Session H β) (message : Message) :
    (session.route message).2.books = session.books.hear message := by
  rw [Session.books, Session.route_tracker, Session.route_transfer]
  rfl

/-- An event changes the books as its entry says, which they bear out. -/
theorem books_step (hstep : machine.step event = some next) :
    machine.entered? event = none ∧ next.session.books = machine.session.books ∨
      ∃ entry, machine.entered? event = some entry ∧ machine.session.books.BearOut entry ∧
        next.session.books = machine.session.books.enter entry := by
  cases event with
  | begin | tick | setCancel | installCancel | setTable | requestStop =>
      cases hstep
      exact .inl ⟨rfl, rfl⟩
  | perform thread link =>
      obtain ⟨_, _, _, session, hthread, hexec, rfl⟩ := exists_of_step_perform hstep
      obtain ⟨htracker, hanswers⟩ := Op.exec_onTracker hexec
      obtain ⟨htransfer, htells⟩ := Op.exec_transfer hexec
      refine .inr ⟨_, entered?_of_performed hthread hexec, ⟨hanswers, htells⟩, ?_⟩
      change Books.mk session.tracker session.transfer = _
      rw [htracker, htransfer]
      rfl
  | route message =>
      obtain ⟨_, heq⟩ := Option.ite_none_right_eq_some.mp hstep
      cases heq
      exact .inr ⟨_, rfl, rfl, books_route machine.session message⟩
  | leave =>
      obtain ⟨_, heq⟩ := Option.ite_none_right_eq_some.mp hstep
      cases heq
      exact .inl ⟨rfl, rfl⟩
  | endRequests | endTransfers =>
      obtain ⟨_, heq⟩ := Option.ite_none_right_eq_some.mp hstep
      cases heq
      exact .inr ⟨_, rfl, trivial, rfl⟩

/-- The ledger of a run is the whole account of its books. -/
theorem kept_ledger (hrun : (start config).run events = some machine) :
    Books.Kept ((start config : Machine H β).ledger events) machine.session.books := by
  have hstart : (start config : Machine H β).run [] = some (start config) ∧
      Books.Kept ((start config : Machine H β).ledger [])
        (start config : Machine H β).session.books :=
    ⟨rfl, .fresh⟩
  refine (run_invariant (fun events machine => (start config).run events = some machine ∧
    Books.Kept ((start config).ledger events) machine.session.books) hstart ?_ hrun).2
  rintro earlier middle event next ⟨hreached, hkept⟩ hstep
  refine ⟨run_concat hreached hstep, ?_⟩
  rw [ledger_concat hreached]
  rcases books_step hstep with ⟨hnone, hsame⟩ | ⟨entry, hentry, hborne, hnext⟩
  · rw [hnone, hsame, Option.toList_none, List.append_nil]
    exact hkept
  · rw [hentry, hnext]
    exact hkept.entered hborne

end Machine

end AntHost
