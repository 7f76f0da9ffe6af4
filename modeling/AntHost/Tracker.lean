import AntHost.KeyedList
import AntHost.Message.Basic
import AntHost.Wait
/-!
# Request tracking

A caller registers what it expects before it writes its command. Every inbound response is offered
to the oldest waiter it answers, and the caller takes it when it looks. Waiters are kept per
message identifier; a ticket names one of them.
-/

namespace AntHost

/-- One expected response. -/
structure Waiter where
  token : UInt64
  /-- The only channel whose responses count, if there is one. -/
  channel : Option UInt8
  response : Option Message := none
deriving DecidableEq, Repr

/-- Whether the waiter is still open for a response from this channel. -/
def Waiter.accepts (waiter : Waiter) (channel : UInt8) : Bool :=
  waiter.response.isNone && waiter.channel.all (· == channel)

/-- Names a registered waiter. -/
structure Ticket where
  messageId : UInt8
  token : UInt64
deriving DecidableEq, Repr

/-- The outstanding requests of a session. -/
structure Tracker where
  /-- The token of the next registration; tokens repeat after 2^64 registrations. -/
  nextToken : UInt64 := 0
  waiting : KeyedList UInt8 (List Waiter) := {}
  closed : Bool := false
deriving Repr

/-- Gives a message to the first waiter that accepts it, if one does. -/
def answerFirst (channel : UInt8) (message : Message) : List Waiter → Option (List Waiter)
  | [] => none
  | waiter :: rest =>
      if waiter.accepts channel then some ({ waiter with response := some message } :: rest)
      else (answerFirst channel message rest).map (waiter :: ·)

/-- Takes the response of the first waiter with this token. -/
def takeFirst (token : UInt64) : List Waiter → Option (Message × List Waiter)
  | [] => none
  | waiter :: rest =>
      if waiter.token = token then
        waiter.response.map fun message => (message, { waiter with response := none } :: rest)
      else (takeFirst token rest).map fun (message, waiters) => (message, waiter :: waiters)

namespace Tracker

/-- The waiters for a message identifier, oldest first. -/
def waitersFor (tracker : Tracker) (messageId : UInt8) : List Waiter :=
  (tracker.waiting.get? messageId).getD []

/-- Replaces the waiters for a message identifier. -/
def setWaiters (tracker : Tracker) (messageId : UInt8) (waiters : List Waiter) : Tracker :=
  { tracker with waiting := tracker.waiting.set messageId waiters }

/-- Starts to expect `messageId`, from any channel or from one. -/
def register (tracker : Tracker) (messageId : UInt8) (channel : Option UInt8) : Ticket × Tracker :=
  let token := tracker.nextToken
  let waiters := tracker.waitersFor messageId ++ [{ token := token, channel := channel }]
  (⟨messageId, token⟩, { tracker.setWaiters messageId waiters with nextToken := token + 1 })

/-- Offers an inbound message. Answers whether a waiter took it. -/
def offer (tracker : Tracker) (messageId channel : UInt8) (message : Message) : Bool × Tracker :=
  if tracker.closed then (false, tracker)
  else
    match answerFirst channel message (tracker.waitersFor messageId) with
    | some waiters => (true, tracker.setWaiters messageId waiters)
    | none => (false, tracker)

/-- Takes the response of a ticket's waiter, if it is there. -/
def take (tracker : Tracker) (ticket : Ticket) : Option (Message × Tracker) :=
  (takeFirst ticket.token (tracker.waitersFor ticket.messageId)).map fun (message, waiters) =>
    (message, tracker.setWaiters ticket.messageId waiters)

/-- What a wait finds when it looks: a response, or that the tracker is closed. -/
def look (tracker : Tracker) (ticket : Ticket) : Option (Except WaitError Message) × Tracker :=
  match tracker.take ticket with
  | some (message, next) => (some (.ok message), next)
  | none => (if tracker.closed then some (.error .closed) else none, tracker)

/-- What a wait for either of two tickets finds; the first one's response comes first. -/
def lookEither (tracker : Tracker) (first second : Ticket) :
    Option (Except WaitError Message) × Tracker :=
  match tracker.take first with
  | some (message, next) => (some (.ok message), next)
  | none => tracker.look second

/-- Stops to expect a ticket's response. -/
def unregister (tracker : Tracker) (ticket : Ticket) : Tracker :=
  tracker.setWaiters ticket.messageId
    ((tracker.waitersFor ticket.messageId).filter fun waiter => waiter.token ≠ ticket.token)

def pending (tracker : Tracker) : Nat := tracker.waiting.values.flatten.length

/-- Ends every wait and refuses every further message. -/
def close (tracker : Tracker) : Tracker := { tracker with closed := true }

/-- A wait that starts now and during which nothing else happens. However it ends, the ticket is
given up. -/
def wait (tracker : Tracker) (ticket : Ticket) (policy : WaitPolicy) (raised : Bool) (now : Nat) :
    Except ClockOverflow (Option (Except WaitError Message)) × Tracker :=
  let (ending, next) := policy.alone raised now (·.look ticket) tracker
  (ending, next.unregister ticket)

/-- A wait for either of two tickets that starts now and during which nothing else happens; both
stay registered. -/
def waitEither (tracker : Tracker) (first second : Ticket) (policy : WaitPolicy) (raised : Bool)
    (now : Nat) : Except ClockOverflow (Option (Except WaitError Message)) × Tracker :=
  policy.alone raised now (·.lookEither first second) tracker

end Tracker

end AntHost
