import AntHost.Route
import AntHost.Session.State
/-!
# The router

The router reads the link, routes every complete message, and on its way out ends all waits. A
response goes to the oldest call that expects it and else to the response handler; a channel event
first reaches the transfer in progress, then the channel's handler; data goes to the channel's
handler. Handlers are called by the router; here a routed message answers which call is due.
-/

namespace AntHost

variable {H β : Type} [DecidableEq β]

namespace Session

def deliver (session : Session H β) (slot? : Option (Slot H β)) (channel code : UInt8)
    (data : List UInt8) : Option (Invocation H β) × Session H β :=
  match slot? with
  | none => (none, session)
  | some slot =>
      let (invocation, buffers) := slot.deliver channel code data session.buffers
      (some invocation, { session with buffers })

/-- Offers a message to the calls that expect it, then to the response handler. -/
def offerResponse (session : Session H β) (messageId channel code : UInt8) (message : Message) :
    Option (Invocation H β) × Session H β :=
  match session.tracker.offer messageId channel message with
  | (true, tracker) => (none, { session with tracker })
  | (false, _) => session.deliver session.table.response channel code message.payload

/-- Routes a message. Answers the handler call that is due. -/
def route (session : Session H β) (message : Message) :
    Option (Invocation H β) × Session H β :=
  match message.route? with
  | none => (none, session)
  | some (.response channel commandId) =>
      session.offerResponse commandId channel MessageId.channelEvent.value message
  | some (.channelEvent channel code) =>
      let session := { session with transfer := session.transfer.onEvent channel code }
      session.deliver (session.table.slot? channel) channel code message.payload
  | some (.data channel event length) =>
      session.deliver (session.table.slot? channel) channel event.value
        (message.payload.take length)
  | some (.other channel messageId) => session.offerResponse messageId channel messageId message

/-- Takes a chunk read from the link. Answers the messages that are now complete. -/
def takeChunk (session : Session H β) (bytes : List UInt8) : List Message × Session H β :=
  let (messages, deframer) := session.deframer.readChunk bytes
  (messages, { session with deframer })

/-- The router has left its loop. -/
def markStopped (session : Session H β) : Session H β :=
  { session with state := .stopped, phase := .marked }

/-- The router ends the waits for responses. -/
def endRequests (session : Session H β) : Session H β :=
  { session with tracker := session.tracker.close, phase := .requestsEnded }

/-- The router ends the waits for transfers and is gone. -/
def endTransfers (session : Session H β) : Session H β :=
  { session with transfer := session.transfer.close, phase := .exited }

/-- Everything the router does on its way out. -/
def shutDown (session : Session H β) : Session H β :=
  session.markStopped.endRequests.endTransfers

end Session

end AntHost
