import AntHost.Proofs.Replay
import AntHost.Tracker
/-!
# Requests at a tracker

A desk is a tracker with the tickets its callers hold. An event is one locked operation of one
caller, so a run of a desk is any interleaving of callers, of the router and of a close. A request
is named by its caller; the ticket it stands for is known to the desk only.
-/

namespace AntHost

/-- What a caller expects, and a number that tells the request from its likes. -/
structure Request where
  messageId : UInt8
  channel : Option UInt8
  number : Nat
deriving DecidableEq, Repr

/-- Whether messages of this identifier and channel answer the request. -/
def Request.AnsweredBy (request : Request) (messageId channel : UInt8) : Prop :=
  request.messageId = messageId ∧ (request.channel = none ∨ request.channel = some channel)

instance (request : Request) (messageId channel : UInt8) :
    Decidable (request.AnsweredBy messageId channel) :=
  inferInstanceAs (Decidable (_ ∧ _))

namespace Tracker

/-- One thing that happens at a tracker. A wait that goes on while other things happen is its last
look, since the looks before it find nothing; the handle of a `wait` is then dropped later. -/
inductive Event where
  | register (request : Request)
  | offer (messageId channel : UInt8) (message : Message)
  /-- The look that ends a wait for a request. -/
  | look (request : Request) (policy : WaitPolicy) (raised : Bool) (deadline : Option Nat)
      (now : Nat)
  /-- The look that ends a wait for either of two requests. -/
  | lookEither (first second : Request) (policy : WaitPolicy) (raised : Bool)
      (deadline : Option Nat) (now : Nat)
  /-- A whole wait that starts at this time and during which nothing else happens. -/
  | wait (request : Request) (policy : WaitPolicy) (raised : Bool) (now : Nat)
  /-- A whole wait for either of two requests during which nothing else happens. -/
  | waitEither (first second : Request) (policy : WaitPolicy) (raised : Bool) (now : Nat)
  | drop (request : Request)
  | close
deriving DecidableEq, Repr

namespace Event

def registers : Event → Bool
  | register _ => true
  | _ => false

/-- Whether the event is the end of a request. -/
def givesUp : Event → Bool
  | wait .. | drop _ => true
  | _ => false

/-- The requests an event waits for, the one to be served first in front. -/
def waitsFor : Event → List Request
  | look request _ _ _ _ | wait request _ _ _ => [request]
  | lookEither first second _ _ _ _ | waitEither first second _ _ _ => [first, second]
  | _ => []

/-- Whether the wait of an event finds a raised cancel flag that it watches. -/
def cancelled : Event → Bool
  | look _ policy raised _ _ | lookEither _ _ policy raised _ _ | wait _ policy raised _
  | waitEither _ _ policy raised _ => policy.watchesCancel && raised
  | _ => false

/-- Whether the wait of an event has reached its deadline; a timeout of zero has none. -/
def expired : Event → Bool
  | look _ _ _ deadline now | lookEither _ _ _ _ deadline now => deadline.any (· ≤ now)
  | wait _ policy _ _ | waitEither _ _ policy _ _ => policy.timeout ≠ 0
  | _ => false

/-- Whether the wait of an event asks for a deadline that the clock cannot hold. It panics before
its first look, so a wait that looks has its deadline. -/
def overflows : Event → Bool
  | wait _ policy _ now | waitEither _ _ policy _ now =>
      policy.timeout ≠ 0 ∧ clockEnd ≤ now + policy.timeout
  | _ => false

end Event

/-- What a caller is told. -/
inductive Answer where
  /-- A handle for messages of this identifier. -/
  | registered (messageId : UInt8)
  | offered (taken : Bool)
  | ended (result : Except WaitError Message)
  /-- Nothing, since its wait has panicked. -/
  | panicked
  | quiet

/-- What the caller of a whole wait is told, unless it waits for ever. -/
def Answer.ofWait? : Except ClockOverflow (Option (Except WaitError Message)) → Option Answer
  | .error _ => some .panicked
  | .ok ending => ending.map .ended

end Tracker

/-- A tracker and the tickets of the requests that are neither dropped nor consumed. -/
structure TicketDesk where
  tracker : Tracker := {}
  held : List (Request × Ticket) := []

namespace TicketDesk

open AntHost.Tracker (Event Answer)

def ticketFor? (desk : TicketDesk) (request : Request) : Option Ticket :=
  (desk.held.find? fun entry => entry.1 = request).map (·.2)

/-- The desk without a request. -/
def without (desk : TicketDesk) (request : Request) (tracker : Tracker) : TicketDesk :=
  ⟨tracker, desk.held.filter fun entry => entry.1 ≠ request⟩

/-- What an event answers and leaves; nothing if its handle is not held or its wait goes on. -/
def step (desk : TicketDesk) : Event → Option (Answer × TicketDesk)
  | .register request =>
      if (desk.ticketFor? request).isSome then none
      else
        let (ticket, tracker) := desk.tracker.register request.messageId request.channel
        some (.registered ticket.messageId, ⟨tracker, desk.held ++ [(request, ticket)]⟩)
  | .offer messageId channel message =>
      let (taken, tracker) := desk.tracker.offer messageId channel message
      some (.offered taken, { desk with tracker })
  | .look request policy raised deadline now =>
      (desk.ticketFor? request).bind fun ticket =>
        let (found, tracker) := desk.tracker.look ticket
        (policy.check raised deadline now found).map fun result =>
          (.ended result, { desk with tracker })
  | .lookEither first second policy raised deadline now =>
      (desk.ticketFor? first).bind fun ticket =>
        (desk.ticketFor? second).bind fun other =>
          let (found, tracker) := desk.tracker.lookEither ticket other
          (policy.check raised deadline now found).map fun result =>
            (.ended result, { desk with tracker })
  | .wait request policy raised now =>
      (desk.ticketFor? request).bind fun ticket =>
        let (ending, tracker) := desk.tracker.wait ticket policy raised now
        (Answer.ofWait? ending).map fun answer => (answer, desk.without request tracker)
  | .waitEither first second policy raised now =>
      (desk.ticketFor? first).bind fun ticket =>
        (desk.ticketFor? second).bind fun other =>
          let (ending, tracker) := desk.tracker.waitEither ticket other policy raised now
          (Answer.ofWait? ending).map fun answer => (answer, { desk with tracker })
  | .drop request =>
      (desk.ticketFor? request).map fun ticket =>
        (.quiet, desk.without request (desk.tracker.unregister ticket))
  | .close => some (.quiet, { desk with tracker := desk.tracker.close })

/-- The answers of a sequence of events from a fresh tracker on, and the desk after it. -/
def run (events : List Event) : Option (List (Event × Answer) × TicketDesk) :=
  replay step {} events

end TicketDesk

end AntHost
