import AntHost.Tracker
import AntHost.Transfer
import AntHost.Session.Error
/-!
# Programs of atomic operations

A session call is a program: a tree of atomic operations on the state that all threads share, each
followed by what the call does with the reply. Between two operations anything else may happen, so
a program can be run by itself, by a scheduler, or against every possible interleaving.
-/

namespace AntHost

/-- One atomic step of a call. Waits repeat their step until it ends them. -/
inductive Op where
  | now
  /-- Whether calls are told to watch the cancel flag. -/
  | cancelInstalled
  | cancelRaised
  | register (messageId : UInt8) (channel : Option UInt8)
  | unregister (ticket : Ticket)
  /-- Waits for the response of a ticket, or of a second one. -/
  | awaitResponse (first : Ticket) (second : Option Ticket) (policy : WaitPolicy)
      (deadline : Option Nat)
  /-- Waits until the transfer monitor is free and takes it. -/
  | beginTransfer (channel : UInt8) (kind : TransferKind) (packets : Nat) (policy : WaitPolicy)
      (deadline : Option Nat)
  /-- Waits for the outcome of the transfer held. -/
  | awaitOutcome (policy : WaitPolicy) (deadline : Option Nat)
  /-- Counts one packet of the transfer held as sent. -/
  | packetSent
  /-- Whether the transfer held has failed. -/
  | transferAborted
  | releaseTransfer
  /-- Whether frames may still be written. -/
  | mayWrite
  | write (frame : List UInt8)
  /-- Marks the session closed and tells whether it was before. -/
  | swapClosed
  | raiseStop
  /-- Shows that the router was asked to stop. -/
  | markStopping
  /-- Waits until the router counts as stopped. -/
  | awaitStopped
  | joinRouter
  | closeTransport
deriving DecidableEq, Repr

namespace Op

abbrev Reply : Op → Type
  | now => Nat
  | cancelInstalled => Bool
  | cancelRaised => Bool
  | register .. => Ticket
  | unregister .. => Unit
  | awaitResponse .. => Except WaitError Message
  | beginTransfer .. => Except WaitError Unit
  | awaitOutcome .. => Except WaitError TransferOutcome
  | packetSent => Unit
  | transferAborted => Bool
  | releaseTransfer => Unit
  | mayWrite => Bool
  | write .. => Except TransportError Unit
  | swapClosed => Bool
  | raiseStop => Unit
  | markStopping => Unit
  | awaitStopped => Unit
  | joinRouter => Unit
  | closeTransport => Unit

def deadline? : Op → Option Nat
  | awaitResponse _ _ _ deadline => deadline
  | beginTransfer _ _ _ _ deadline => deadline
  | awaitOutcome _ deadline => deadline
  | _ => none

/-- Whether an operation hands a frame to the link. -/
def isWrite : Op → Bool
  | write _ => true
  | _ => false

end Op

/-- A value, or an operation and what follows each of its replies. -/
inductive Program (α : Type) where
  | done (value : α)
  | perform (op : Op) (next : op.Reply → Program α)

namespace Program

variable {α β : Type}

/-- Runs a second program on the value of the first. -/
def bind : Program α → (α → Program β) → Program β
  | done value, rest => rest value
  | perform op next, rest => perform op fun reply => (next reply).bind rest

instance : Monad Program where
  pure := done
  bind := bind

def single (op : Op) : Program op.Reply := perform op done

end Program

/-- A program that may fail. -/
abbrev Action (α : Type) := ExceptT CallError Program α

namespace Action

variable {α : Type}

/-- Runs an action and then a last program, whichever way the action ended. -/
def andLast (action : Action α) (last : Program Unit) : Action α :=
  ExceptT.mk do
    let result ← action.run
    last
    return result

/-- The result of a wait inside an action. -/
def ofWait (result : Except WaitError α) : Action α :=
  match result with
  | .ok value => pure value
  | .error error => throw (.ofWait error)

/-- The deadline of a wait that starts at `start`. -/
def deadlineFrom (policy : WaitPolicy) (start : Nat) : Action (Option Nat) :=
  match policy.deadline start with
  | .ok deadline => pure deadline
  | .error _ => throw .panicked

end Action

end AntHost
