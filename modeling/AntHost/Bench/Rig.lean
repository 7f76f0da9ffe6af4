import AntHost.Bench.Device
import AntHost.Bench.Script
/-!
# The rig

A session, the device it talks to, and the threads that make calls: what they write, what they
share, and who still has a use for the session. The clock stands still except where nothing but
time can end a wait.
-/

namespace AntHost.Bench

/-- What carries frames to the device. -/
inductive Carrier where
  /-- Bytes in memory; closing it may have no effect. -/
  | memory (closable : Bool)
  | usb (stick : UsbStick)

/-- Who makes a call, apart from the router. -/
inductive Caller where
  | host
  | task (name : String)
deriving DecidableEq, Repr

/-- How far the call of a thread is. -/
inductive Thread where
  /-- It hands a frame to the device and goes on when the write returns. -/
  | writing (rest : Program (Except CallError Reply))
  /-- It goes on as soon as its next operation need not wait. -/
  | waiting (rest : Program (Except CallError Reply))
  | ended (answer : Answer)

/-- Whether the call is still going on. -/
def Thread.inCall : Thread → Bool
  | writing _ | waiting _ => true
  | ended _ => false

/-- A session on the bench. -/
structure Rig where
  session : Session Recipient Nat
  device : Device
  carrier : Carrier
  queues : KeyedList Nat EventQueue := {}
  /-- The queues whose receiving ends are kept, by name. -/
  receivers : KeyedList String Nat := {}
  threads : KeyedList Caller Thread := {}
  /-- Buffers handed out so far. -/
  buffers : Nat := 0
  now : Nat := 0
  /-- The host still has its handle of the session. -/
  held : Bool := true
  /-- What the session held was let go of. -/
  gone : Bool := false
  seen : List Entry := []

namespace Rig

/-- Notes what can be seen. -/
def note (rig : Rig) (entry : Entry) : Rig := { rig with seen := rig.seen ++ [entry] }

/-! ## Frames to the device -/

/-- Hands a frame to the device, which acts on it. -/
def present (rig : Rig) (frame : List UInt8) : Except TransportError Unit × Rig :=
  let (result, cancel, device) := rig.device.receive frame
  let raised := cancel.getD rig.session.cancelRaised
  (result,
    { rig with device, session.cancelRaised := raised, seen := rig.seen ++ [.written frame] })

/-- Writes the last chunk of a frame over USB, again after every timeout. The device acts on the
frame whenever this chunk arrives. -/
def presentChunk (attempts : Nat) (frame chunk : List UInt8) (rig : Rig) :
    Except TransportError Unit × Rig :=
  match attempts with
  | 0 => (.error (.usb .timeout), rig)
  | attempts + 1 =>
      match rig.present frame with
      | (.ok (), rig) => (.ok (), rig)
      | (.error (.usb fault), rig) =>
          match WriteProgress.after chunk (.error fault) with
          | .more _ => presentChunk attempts frame chunk rig
          | .failed error => (.error error, rig)
      | (.error error, rig) => (.error error, rig)

/-- Writes a frame over whatever carries it. -/
def transmit (rig : Rig) (frame : List UInt8) : Except TransportError Unit × Rig :=
  match rig.carrier with
  | .memory _ => rig.present frame
  | .usb stick =>
      if stick.link.closed then (.error .closed, rig)
      else rig.presentChunk rig.device.attempts frame (stick.link.chunk frame)

/-- Closes whatever carries frames. -/
def closeCarrier (rig : Rig) : Rig :=
  match rig.carrier with
  | .memory true =>
      { rig with device.closed := true, seen := rig.seen ++ [.linkClosed] }
  | .memory false => rig
  | .usb stick => { rig with carrier := .usb { stick with link := stick.link.close } }

/-! ## Programs -/

/-- What the link answers to an operation, which reaches it if it is a write or a close. -/
def handOver (rig : Rig) : Op → Except TransportError Unit × Rig
  | .write frame => rig.transmit frame
  | .closeTransport => (.ok (), rig.closeCarrier)
  | _ => (.ok (), rig)

/-- Performs an operation, unless it has to wait. -/
def perform (rig : Rig) (op : Op) : Option (op.Reply × Rig) :=
  let (written, rig) := rig.handOver op
  (op.exec rig.now written rig.session).map fun (reply, session) => (reply, { rig with session })

/-- Whether a program can go on. -/
def canRun {α : Type} (rig : Rig) : Program α → Bool
  | .done _ => true
  | .perform op _ => (op.exec rig.now (.ok ()) rig.session).isSome

/-- Lets time pass until a moment. -/
def waitUntil (rig : Rig) (moment : Nat) : Rig := { rig with now := max rig.now moment }

/-! ## Handles -/

/-- The queues that some slot still feeds. -/
def fedQueues (rig : Rig) : List Nat :=
  rig.session.table.slots.filterMap fun slot =>
    match slot.handler with
    | .queue number => some number
    | .handler _ => none

/-- Drops the sending ends of queues for which a condition holds. -/
def dropSenders (rig : Rig) (orphaned : Nat → Bool) : Rig :=
  { rig with
    queues := ⟨rig.queues.entries.map fun (number, queue) =>
      (number, if orphaned number then queue.dropSender else queue)⟩ }

/-- Replaces the handlers. A queue that no slot feeds any more loses its sending end. -/
def setTable (rig : Rig) (table : DispatchTable Recipient Nat) : Rig :=
  let rig := { rig with session.table := table }
  let fed := rig.fedQueues
  rig.dropSenders fun number => !fed.contains number

/-- Whether the host still has its handle or a call is going on. -/
def inUse (rig : Rig) : Bool := rig.held || rig.threads.values.any Thread.inCall

/-- Whether nobody uses the session any more and its router is gone. -/
def isOver (rig : Rig) : Bool := !rig.gone && !rig.inUse && rig.session.phase = .exited

/-- Lets go of whatever carries frames. -/
def letGo (rig : Rig) : Rig :=
  let rig := { rig with gone := true }
  match rig.carrier with
  | .memory _ => rig
  | .usb stick => { rig with seen := rig.seen ++ stick.dropCalls.map .usb }

/-- Lets go of what the session held, if it is over. Queues lose their sending ends. -/
def retire (rig : Rig) : Rig := if rig.isOver then (rig.dropSenders fun _ => true).letGo else rig

/-- Lets go of what the session held, if it is over because a handler failed. Sending ends that go
down with the router leave their queues open. -/
def abandon (rig : Rig) : Rig := if rig.isOver then rig.letGo else rig

/-! ## Requests -/

/-- A buffer nobody uses yet. -/
def freshBuffer (rig : Rig) : Nat × Rig := (rig.buffers, { rig with buffers := rig.buffers + 1 })

/-- Gives up the receiving end kept under a name. -/
def dropReceiver (rig : Rig) (name : String) : Bool × Rig :=
  match rig.receivers.get? name with
  | none => (false, rig)
  | some number =>
      let queues := match rig.queues.get? number with
        | some queue => rig.queues.set number queue.dropReceiver
        | none => rig.queues
      (true, { rig with queues, receivers := rig.receivers.erase name })

/-- Queues a channel's events and keeps the receiving end under a name. -/
def queueEvents (rig : Rig) (channel : UInt8) (capacity : Nat) (name : String) : Rig :=
  let (number, rig) := rig.freshBuffer
  let rig := { rig with queues := rig.queues.set number (.ofCapacity capacity) }
  let rig := rig.setTable (rig.session.table.assign channel ⟨.queue number, number⟩)
  let rig := (rig.dropReceiver name).2
  { rig with receivers := rig.receivers.set name number }

/-- Answers a request that concerns the host alone. A call answers nothing here. -/
def answerLocally (rig : Rig) : Request → Answer × Rig
  | .call _ => (.nothing, rig)
  | .state => (.state rig.session.state, rig)
  | .config => (.config rig.session.config, rig)
  | .setChannelHandler channel handler =>
      let (buffer, rig) := rig.freshBuffer
      (.nothing, rig.setTable (rig.session.table.assign channel ⟨.handler handler, buffer⟩))
  | .setResponseHandler handler =>
      let (buffer, rig) := rig.freshBuffer
      (.nothing, rig.setTable (rig.session.table.setResponse ⟨.handler handler, buffer⟩))
  | .clearHandlers => (.nothing, rig.setTable rig.session.table.unassignAll)
  | .queueEvents channel capacity name => (.nothing, rig.queueEvents channel capacity name)
  | .useCancelFlag installed => (.nothing, { rig with session.cancelInstalled := installed })

end Rig

end AntHost.Bench
