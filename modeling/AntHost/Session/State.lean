import AntHost.Dispatch
import AntHost.Frame.Deframer
import AntHost.Session.Config
import AntHost.Session.Program
/-!
# Session state

What the threads of a session share, and what each atomic operation answers and does to it. An
operation that has to wait answers nothing and changes nothing; it is tried again later.
-/

namespace AntHost

/-- The router of a session as its host sees it. -/
inductive RouterState where
  | running
  /-- A stop was asked for; the router exits within one poll. -/
  | stopping
  | stopped
deriving DecidableEq, Repr

def RouterState.name : RouterState → String
  | running => "Running"
  | stopping => "Stopping"
  | stopped => "Stopped"

/-- How far the router's thread is. -/
inductive RouterPhase where
  /-- It reads the link and routes. -/
  | polling
  /-- It has left its loop and shows that it stopped. -/
  | marked
  /-- It has ended the waits for responses, too. -/
  | requestsEnded
  /-- It has ended the waits for transfers, too, and is gone. -/
  | exited
deriving DecidableEq, Repr

/-- What the threads of a session share. -/
structure Session (H β : Type) where
  config : Config
  deframer : Deframer
  table : DispatchTable H β := {}
  buffers : Buffers β := {}
  tracker : Tracker := {}
  transfer : TransferMonitor := {}
  state : RouterState := .running
  phase : RouterPhase := .polling
  stopRequested : Bool := false
  closed : Bool := false
  linkClosed : Bool := false
  /-- Calls are told to watch the cancel flag. -/
  cancelInstalled : Bool := false
  cancelRaised : Bool := false

variable {H β : Type}

namespace Session

/-- A session as it starts. -/
def start (config : Config) : Session H β := { config, deframer := { limit := config.limit } }

/-- Whether frames may still be written. -/
def mayWrite (session : Session H β) : Bool := !session.closed && session.state = .running

/-- Shows that a stop was asked for, unless the router has stopped. -/
def markStopping (session : Session H β) : Session H β :=
  { session with state := if session.state = .running then .stopping else session.state }

/-- Asks the router to stop. -/
def requestStop (session : Session H β) : Session H β :=
  { session with stopRequested := true }.markStopping

end Session

/-- What a wait for one of up to two tickets finds. -/
def Tracker.lookFor (tracker : Tracker) (first : Ticket) :
    Option Ticket → Option (Except WaitError Message) × Tracker
  | none => tracker.look first
  | some second => tracker.lookEither first second

/-- What an operation answers at a time and makes of the session; nothing while it has to wait. A
write answers what the link said. -/
def Op.exec (now : Nat) (written : Except TransportError Unit) :
    (op : Op) → Session H β → Option (op.Reply × Session H β)
  | .now, session => some (now, session)
  | .cancelInstalled, session => some (session.cancelInstalled, session)
  | .cancelRaised, session => some (session.cancelRaised, session)
  | .register messageId channel, session =>
      let (ticket, tracker) := session.tracker.register messageId channel
      some (ticket, { session with tracker })
  | .unregister ticket, session =>
      some ((), { session with tracker := session.tracker.unregister ticket })
  | .awaitResponse first second policy deadline, session =>
      let (found, tracker) := session.tracker.lookFor first second
      (policy.check session.cancelRaised deadline now found).map fun result =>
        (result, { session with tracker })
  | .beginTransfer channel kind packets policy deadline, session =>
      let (found, transfer) := session.transfer.tryBegin channel kind packets
      (policy.check session.cancelRaised deadline now found).map fun result =>
        (result, { session with transfer })
  | .awaitOutcome policy deadline, session =>
      (policy.check session.cancelRaised deadline now session.transfer.look).map fun result =>
        (result, session)
  | .packetSent, session =>
      some ((), { session with transfer := session.transfer.packetSent })
  | .transferAborted, session => some (session.transfer.aborted, session)
  | .releaseTransfer, session =>
      some ((), { session with transfer := session.transfer.release })
  | .mayWrite, session => some (session.mayWrite, session)
  | .write _, session => some (written, session)
  | .swapClosed, session => some (session.closed, { session with closed := true })
  | .raiseStop, session => some ((), { session with stopRequested := true })
  | .markStopping, session => some ((), session.markStopping)
  | .awaitStopped, session => if session.state = .stopped then some ((), session) else none
  | .joinRouter, session => if session.phase = .exited then some ((), session) else none
  | .closeTransport, session => some ((), { session with linkClosed := true })

end AntHost
