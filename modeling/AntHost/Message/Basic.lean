import AntHost.Message.Id
/-!
# Messages

A message is what remains of a frame once the framing is gone: an identifier and a payload that
fits a message buffer. The layout constants shared by every part of the library stand here too.
-/

namespace AntHost

/-- The byte that opens every frame in both directions. -/
def syncByte : UInt8 := 0xA4

/-- Sync byte, length byte and identifier. -/
def headerSize : Nat := 3

/-- The checksum byte that ends a frame. -/
def checksumSize : Nat := 1

/-- Data bytes of a standard broadcast, acknowledged or burst packet. -/
def packetDataSize : Nat := 8

/-- A channel byte and the data of a standard packet. -/
def standardDataSize : Nat := packetDataSize + 1

/-- Bytes of a packed sender id. -/
def senderIdSize : Nat := 4

/-- A channel byte, a sender id and the data of a standard packet. -/
def extendedDataSize : Nat := standardDataSize + senderIdSize

/-- The largest payload a standard device declares. -/
def maxStandardPayload : Nat := 41

/-- Capacity of every message buffer, those handed to handlers included. -/
def bufferSize : Nat := 64

/-- The largest frame on the wire, header and checksum included. -/
def maxFrameSize : Nat := bufferSize + headerSize + checksumSize

/-- The low five bits of a first payload byte hold the channel. -/
def channelMask : UInt8 := 0x1F

/-- The high three bits of a burst packet's first byte hold the sequence. -/
def sequenceMask : UInt8 := 0xE0

/-- The flag byte bit that announces an appended sender id. -/
def senderIdFlag : UInt8 := 0x80

/-- The sequence bit of the last packet of a burst. -/
def lastPacketBit : UInt8 := 0x80

/-- Channel handlers a session can hold. -/
def maxChannels : Nat := 8

/-- An identifier and a payload that fits a message buffer. -/
structure Message where
  id : UInt8
  payload : List UInt8
  payload_le : payload.length ≤ bufferSize
deriving DecidableEq, Repr

namespace Message

/-- The message with this identifier and payload, if the payload fits a buffer. -/
def ofPayload? (id : UInt8) (payload : List UInt8) : Option Message :=
  if hle : payload.length ≤ bufferSize then some ⟨id, payload, hle⟩ else none

/-- Payload length as a frame declares it. -/
def size (message : Message) : Nat := message.payload.length

/-- The identifier by name, if it has one. -/
def messageId? (message : Message) : Option MessageId := MessageId.ofByte? message.id

/-- Payload byte `index`, or zero where the payload is too short. -/
def byteAt (message : Message) (index : Nat) : UInt8 := message.payload.getD index 0

/-- Channel of the first payload byte, burst sequence bits removed; zero for an empty payload. -/
def channel (message : Message) : UInt8 := message.byteAt 0 &&& channelMask

end Message

end AntHost
