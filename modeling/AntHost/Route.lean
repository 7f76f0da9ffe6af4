import AntHost.Message.EventCode
import AntHost.Message.Basic
/-!
# Routes

Where an inbound message belongs. The identifier decides the kind of route, the first payload byte
the channel, and for data messages the payload length the event code.
-/

namespace AntHost

/-- The destination of an inbound message. -/
inductive Route where
  /-- A response to the command sent under `commandId`. -/
  | response (channel commandId : UInt8)
  /-- A radio or transfer event on a channel. -/
  | channelEvent (channel code : UInt8)
  /-- Received data; the first `length` payload bytes belong to the channel. -/
  | data (channel : UInt8) (event : EventCode) (length : Nat)
  /-- An answer to a request, or a notification. -/
  | other (channel messageId : UInt8)
deriving DecidableEq, Repr

/-- The second byte of a channel event message that is an event rather than a response. -/
def eventMarker : UInt8 := 1

namespace Message

/-- The codes for data in the standard layout and for data with a flag byte. -/
def dataEvents? : MessageId → Option (EventCode × EventCode)
  | .broadcastData => some (.rxBroadcast, .rxFlagBroadcast)
  | .acknowledgedData => some (.rxAcknowledged, .rxFlagAcknowledged)
  | .burstTransferData => some (.rxBurstPacket, .rxFlagBurstPacket)
  | _ => none

/-- The code for data in the legacy extended layout. -/
def extendedEvent? : MessageId → Option EventCode
  | .extendedBroadcastData => some .rxExtBroadcast
  | .extendedAcknowledgedData => some .rxExtAcknowledged
  | .extendedBurstData => some .rxExtBurstPacket
  | _ => none

/-- The route of a message known by name that has a payload. -/
def routeOf (message : Message) (id : MessageId) : Route :=
  if id = .channelEvent then
    if message.byteAt 1 = eventMarker then .channelEvent message.channel (message.byteAt 2)
    else .response message.channel (message.byteAt 1)
  else
    match dataEvents? id, extendedEvent? id with
    | some (plain, flagged), _ =>
        .data message.channel (if standardDataSize < message.size then flagged else plain)
          message.size
    | none, some event => .data message.channel event (min message.size extendedDataSize)
    | none, none =>
        if id = .advancedBurstData then .data message.channel .rxBurstPacket message.size
        else .other message.channel message.id

/-- The route of a message. An empty message has none. -/
def route? (message : Message) : Option Route :=
  if message.payload = [] then none
  else
    match message.messageId? with
    | none => some (.other message.channel message.id)
    | some id => some (message.routeOf id)

end Message

end AntHost
