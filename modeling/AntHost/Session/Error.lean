import AntHost.Message.EventCode
import AntHost.Frame.Basic
import AntHost.Transport.Error
import AntHost.Wait
/-!
# Call errors

What a session call can end with instead of an answer, the words for it, and the status it counts
as.
-/

namespace AntHost

/-- Two hexadecimal digits behind `0x`. -/
def hexByte (byte : UInt8) : String :=
  "0x" ++ String.ofList [Nat.digitChar (byte.toNat / 16), Nat.digitChar (byte.toNat % 16)]

/-- How a session call ends without an answer. All but the last are errors that it returns. -/
inductive CallError where
  | transport (error : TransportError)
  | framing (error : FramingError)
  | spawn (reason : String)
  | timeout
  | cancelled
  | closed
  | rejected (messageId code : UInt8)
  | transferFailed (channel : UInt8)
  /-- A handler tried to close the session that calls it. -/
  | closeFromRouter
  /-- The call does not return. It panics because the clock cannot hold the deadline of its wait,
  and gives up what it holds as its thread unwinds. -/
  | panicked
deriving DecidableEq, Repr

namespace CallError

def ofWait : WaitError → CallError
  | .timeout => timeout
  | .cancelled => cancelled
  | .closed => closed

def name : CallError → String
  | transport _ => "Transport"
  | framing _ => "Framing"
  | spawn _ => "Spawn"
  | timeout => "Timeout"
  | cancelled => "Cancelled"
  | closed => "Closed"
  | rejected .. => "Rejected"
  | transferFailed _ => "TransferFailed"
  | closeFromRouter => "CloseFromRouterThread"
  | panicked => "Panic"

def message : CallError → String
  | transport error => error.message
  | framing error => "could not frame message: " ++ error.message
  | spawn reason => "failed to start router thread: " ++ reason
  | timeout => "timed out waiting for the device"
  | cancelled => "cancelled"
  | closed => "engine is closed"
  | rejected messageId code =>
      "device rejected message " ++ hexByte messageId ++ " with code " ++ hexByte code
  | transferFailed channel => "transfer on channel " ++ toString channel.toNat ++ " failed"
  | closeFromRouter => "close called from the router thread"
  | panicked => ClockOverflow.message {}

/-- The status a failed call counts as; one that does not return has none. -/
def status? : CallError → Option Status
  | timeout => some .timeout
  | cancelled => some .cancelled
  | panicked => none
  | _ => some .fail

/-- The device's reason for a rejection, if it is known by name. -/
def rejectionCode? : CallError → Option EventCode
  | rejected _ code => EventCode.ofByte? code
  | _ => none

end CallError

def statusOf? {α : Type} : Except CallError α → Option Status
  | .ok _ => some .pass
  | .error error => error.status?

end AntHost
