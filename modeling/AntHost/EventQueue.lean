import AntHost.Dispatch
import AntHost.Message.EventCode
/-!
# Event queues

A bounded queue moves channel events off the thread that delivers them. A full queue refuses new
events; a receiver gets what was accepted, in order, before it learns that the sender is gone.
-/

namespace AntHost

/-- A channel event as it was delivered. -/
structure QueuedEvent where
  channel : UInt8
  event : UInt8
  data : List UInt8
deriving DecidableEq, Repr

/-- The event's code by name, if it has one. -/
def QueuedEvent.code? (event : QueuedEvent) : Option EventCode := EventCode.ofByte? event.event

/-- A bounded queue with a sending and a receiving end. -/
structure EventQueue where
  capacity : Nat
  events : List QueuedEvent := []
  senderAlive : Bool := true
  receiverAlive : Bool := true
deriving DecidableEq, Repr

/-- What a receiver finds. -/
inductive Received where
  | event (event : QueuedEvent)
  | empty
  | closed
deriving DecidableEq, Repr

namespace EventQueue

/-- A queue that holds at least one event. -/
def ofCapacity (capacity : Nat) : EventQueue := { capacity := max 1 capacity }

/-- Offers an event. It is accepted while a receiver is there and the queue is not full. -/
def offer (queue : EventQueue) (event : QueuedEvent) : Bool × EventQueue :=
  if queue.receiverAlive ∧ queue.events.length < queue.capacity then
    (true, { queue with events := queue.events ++ [event] })
  else (false, queue)

/-- What the handler of a queue does when it is called: it offers a copy of what its buffer holds.
Answers whether the queue took it. -/
def record {H β : Type} [DecidableEq β] (queue : EventQueue) (invocation : Invocation H β)
    (buffers : Buffers β) : Bool × EventQueue :=
  queue.offer ⟨invocation.channel, invocation.code, buffers.contents invocation.slot.buffer⟩

def receive (queue : EventQueue) : Received × EventQueue :=
  match queue.events with
  | event :: rest => (.event event, { queue with events := rest })
  | [] => (if queue.senderAlive then .empty else .closed, queue)

def dropSender (queue : EventQueue) : EventQueue := { queue with senderAlive := false }

def dropReceiver (queue : EventQueue) : EventQueue := { queue with receiverAlive := false }

end EventQueue

end AntHost
