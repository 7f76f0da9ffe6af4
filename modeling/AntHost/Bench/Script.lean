import AntHost.EventQueue
import AntHost.Session.Call
import AntHost.Session.State
import AntHost.Transport.Usb.Link
/-!
# Scripts

What a host does with a session on the bench, what its handlers do when they are called, and what
there is to see of it.
-/

namespace AntHost.Bench

mutual

/-- A handler and how it reacts. -/
inductive Handler where
  | mk (tag : String) (reactions : List Reaction)

/-- One reaction of a handler, to one code or to every code. -/
inductive Reaction where
  | mk (code : Option UInt8) (act : Act)

inductive Act where
  | request (request : Request)
  | setCancel (raised : Bool)
  /-- The handler fails and takes the router down. -/
  | crash
  /-- The handler drops the host's handle of the session. -/
  | dropSession

/-- What a host can ask of a session. -/
inductive Request where
  | call (call : Call)
  | state
  | config
  | setChannelHandler (channel : UInt8) (handler : Handler)
  | setResponseHandler (handler : Handler)
  | clearHandlers
  /-- Queues a channel's events and keeps the receiving end under a name. -/
  | queueEvents (channel : UInt8) (capacity : Nat) (name : String)
  | useCancelFlag (installed : Bool)

end

def Handler.tag : Handler → String
  | mk tag _ => tag

/-- What the handler does when it is called with a code. -/
def Handler.actsOn (code : UInt8) : Handler → List Act
  | mk _ reactions => reactions.filterMap fun
      | .mk expected act => if expected.all (· == code) then some act else none

/-- Who is called for a slot. -/
inductive Recipient where
  | handler (handler : Handler)
  | queue (number : Nat)

inductive Step where
  | request (request : Request)
  /-- The device sends bytes of its own accord. -/
  | inject (bytes : List UInt8)
  | failRead (error : TransportError)
  | setCancel (raised : Bool)
  | receive (name : String)
  | dropQueue (name : String)
  /-- Makes a request on a thread of its own and goes on when it blocks or ends. -/
  | spawn (name : String) (request : Request)
  | join (name : String)
  /-- Drops the host's handle of the session. -/
  | dropSession

/-- What a step or request answers. -/
inductive Answer where
  | call (result : Except CallError Reply)
  | state (state : RouterState)
  | config (config : Config)
  | received (received : Received)
  | flag (value : Bool)
  | nothing
  | noSession
  | stalled

/-- Something that could be seen. -/
inductive Entry where
  | written (frame : List UInt8)
  | linkClosed
  | called (tag : String) (channel code : UInt8) (buffer : List UInt8)
  | handlerAnswer (answer : Answer)
  | usb (call : UsbCall)

/-- What a step answered, the router's state if the session is still there, and what was seen. -/
structure Record where
  answer : Answer
  state : Option RouterState
  seen : List Entry

end AntHost.Bench
