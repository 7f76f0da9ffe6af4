import AntHost.Command.Basic
/-!
# Packed commands

Commands of one kind have one packed size. Packing writes that many bytes at the front of a
buffer and leaves the rest alone; unpacking reads exactly that many bytes and ignores reserved
bits, so that packing an unpacked command clears them.
-/

namespace AntHost

/-- Why bytes and a command do not correspond. -/
inductive PackingError where
  /-- A channel type byte names no channel type. -/
  | invalidValue
  | bufferSizeMismatch (expected actual : Nat)
deriving DecidableEq, Repr

def PackingError.name : PackingError → String
  | invalidValue => "InvalidValue"
  | bufferSizeMismatch .. => "BufferSizeMismatch"

/-- The error in words, as other messages quote it. -/
def PackingError.message : PackingError → String
  | invalidValue => "InvalidValue"
  | bufferSizeMismatch expected actual =>
      "BufferSizeMismatch \x7b expected: " ++ toString expected ++ ", actual: " ++
        toString actual ++ " \x7d"

namespace CommandKind

/-- The command that payload bytes of the right number stand for. -/
def ofPayload? : CommandKind → List UInt8 → Option Command
  | unassignChannel, [channel] => some (.unassignChannel channel)
  | assignChannel, [channel, type, network] =>
      (ChannelType.ofByte? type).map fun channelType => .assignChannel channel channelType network
  | channelId, [channel, low, high, deviceType, transmissionType] =>
      some (.channelId channel ⟨ofLittleEndian low high, deviceType, transmissionType⟩)
  | channelPeriod, [channel, low, high] => some (.channelPeriod channel (ofLittleEndian low high))
  | searchTimeout, [channel, steps] => some (.searchTimeout channel steps)
  | channelRfFrequency, [channel, frequency] => some (.channelRfFrequency channel frequency)
  | setNetworkKey, [network, b0, b1, b2, b3, b4, b5, b6, b7] =>
      some (.setNetworkKey network #v[b0, b1, b2, b3, b4, b5, b6, b7])
  | transmitPower, [_, power] => some (.transmitPower power)
  | setChannelTransmitPower, [channel, power] => some (.setChannelTransmitPower channel power)
  | enableExtRxMessages, [_, flags] => some (.enableExtRxMessages (flags &&& 0x01 != 0))
  | libConfig, [_, flags] =>
      some (.libConfig (flags &&& 0x80 != 0) (flags &&& 0x40 != 0) (flags &&& 0x20 != 0))
  | resetSystem, [_] => some .resetSystem
  | openChannel, [channel] => some (.openChannel channel)
  | closeChannel, [channel] => some (.closeChannel channel)
  | requestMessage, [channel, messageId] => some (.requestMessage channel messageId)
  | broadcastData, [channel, b0, b1, b2, b3, b4, b5, b6, b7] =>
      some (.broadcastData channel #v[b0, b1, b2, b3, b4, b5, b6, b7])
  | acknowledgedData, [channel, b0, b1, b2, b3, b4, b5, b6, b7] =>
      some (.acknowledgedData channel #v[b0, b1, b2, b3, b4, b5, b6, b7])
  | burstData, [channelSequence, b0, b1, b2, b3, b4, b5, b6, b7] =>
      some (.burstData channelSequence #v[b0, b1, b2, b3, b4, b5, b6, b7])
  | _, _ => none

/-- Reads a command of this kind back from exactly its packed bytes. -/
def unpack (kind : CommandKind) (bytes : List UInt8) : Except PackingError Command :=
  if bytes.length ≠ kind.packedSize then
    .error (.bufferSizeMismatch kind.packedSize bytes.length)
  else
    match kind.ofPayload? bytes with
    | some command => .ok command
    | none => .error .invalidValue

end CommandKind

namespace Command

/-- Packs the command at the front of a buffer. Answers the bytes written, or why the buffer is
too short, with the buffer as it is afterwards. -/
def packInto (command : Command) (buffer : List UInt8) :
    Except PackingError Nat × List UInt8 :=
  let size := command.kind.packedSize
  if buffer.length < size then
    (.error (.bufferSizeMismatch size buffer.length), buffer)
  else
    (.ok size, command.payload ++ buffer.drop size)

theorem length_payload (command : Command) : command.payload.length = command.kind.packedSize := by
  cases command <;>
    simp [payload, kind, CommandKind.packedSize, SenderId.pack, littleEndian, standardDataSize]

/-- Packing is a matter of the payload alone: it stands at the front, and all of it or nothing. -/
theorem packInto_eq (command : Command) (room : List UInt8) :
    command.packInto room =
      if room.length < command.payload.length then
        (.error (.bufferSizeMismatch command.payload.length room.length), room)
      else (.ok command.payload.length, command.payload ++ room.drop command.payload.length) := by
  rw [length_payload]
  rfl

/-- There is room for every command in a message. -/
theorem packedSize_le (command : Command) : command.payload.length ≤ bufferSize := by
  rw [command.length_payload]
  cases command.kind <;> decide

end Command

end AntHost
