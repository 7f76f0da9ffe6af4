import AntHost.Command.Kind
import AntHost.Message.SenderId
/-!
# Commands

Every command a host can give a device, with the identifier it is sent under, the channel its
response will name and the payload it puts on the wire.
-/

namespace AntHost

/-- The role an assigned channel plays. -/
inductive ChannelType where
  | bidirectionalSlave | bidirectionalMaster
  | sharedBidirectionalSlave | sharedBidirectionalMaster
  | sharedReceiveOnly | masterTransmitOnly
deriving DecidableEq, Repr

namespace ChannelType

def value : ChannelType → UInt8
  | bidirectionalSlave => 0x00
  | bidirectionalMaster => 0x10
  | sharedBidirectionalSlave => 0x20
  | sharedBidirectionalMaster => 0x30
  | sharedReceiveOnly => 0x40
  | masterTransmitOnly => 0x50

def all : List ChannelType :=
  [bidirectionalSlave, bidirectionalMaster, sharedBidirectionalSlave, sharedBidirectionalMaster,
    sharedReceiveOnly, masterTransmitOnly]

/-- The channel type a byte stands for, if any. -/
def ofByte? (byte : UInt8) : Option ChannelType :=
  all.find? fun channelType => channelType.value == byte

/-- The channel type's name in the serial protocol. -/
def name : ChannelType → String
  | bidirectionalSlave => "BidirectionalSlave"
  | bidirectionalMaster => "BidirectionalMaster"
  | sharedBidirectionalSlave => "SharedBidirectionalSlave"
  | sharedBidirectionalMaster => "SharedBidirectionalMaster"
  | sharedReceiveOnly => "SharedReceiveOnly"
  | masterTransmitOnly => "MasterTransmitOnly"

theorem ofByte?_value (channelType : ChannelType) :
    ofByte? channelType.value = some channelType := by
  cases channelType <;> rfl

theorem value_of_ofByte? {byte : UInt8} {channelType : ChannelType}
    (htype : ofByte? byte = some channelType) : channelType.value = byte := by
  have hfound := List.find?_some htype
  simpa using hfound

end ChannelType

/-- Eight data bytes: one standard packet, or a network key. -/
abbrev Octets := Vector UInt8 packetDataSize

inductive Command where
  | unassignChannel (channel : UInt8)
  | assignChannel (channel : UInt8) (channelType : ChannelType) (network : UInt8)
  /-- Zero in a field matches any device while searching. -/
  | channelId (channel : UInt8) (sender : SenderId)
  /-- The message period counts 1/32768 seconds. -/
  | channelPeriod (channel : UInt8) (period : UInt16)
  /-- The search timeout counts steps of 2.5 seconds; 255 never gives up. -/
  | searchTimeout (channel : UInt8) (steps : UInt8)
  /-- The frequency is an offset from 2400 MHz in MHz. -/
  | channelRfFrequency (channel : UInt8) (frequency : UInt8)
  | setNetworkKey (network : UInt8) (key : Octets)
  /-- Transmit power of every channel. -/
  | transmitPower (power : UInt8)
  | setChannelTransmitPower (channel : UInt8) (power : UInt8)
  | enableExtRxMessages (enable : Bool)
  /-- Selects the fields appended to flagged data. -/
  | libConfig (senderId rssi rxTimestamp : Bool)
  | resetSystem
  | openChannel (channel : UInt8)
  | closeChannel (channel : UInt8)
  /-- Asks the device to send the message with identifier `messageId`. -/
  | requestMessage (channel : UInt8) (messageId : UInt8)
  | broadcastData (channel : UInt8) (data : Octets)
  | acknowledgedData (channel : UInt8) (data : Octets)
  /-- Channel in the low five bits of the first byte, sequence in the high three. -/
  | burstData (channelSequence : UInt8) (data : Octets)
deriving DecidableEq, Repr

namespace Command

def kind : Command → CommandKind
  | unassignChannel .. => .unassignChannel
  | assignChannel .. => .assignChannel
  | channelId .. => .channelId
  | channelPeriod .. => .channelPeriod
  | searchTimeout .. => .searchTimeout
  | channelRfFrequency .. => .channelRfFrequency
  | setNetworkKey .. => .setNetworkKey
  | transmitPower .. => .transmitPower
  | setChannelTransmitPower .. => .setChannelTransmitPower
  | enableExtRxMessages .. => .enableExtRxMessages
  | libConfig .. => .libConfig
  | resetSystem => .resetSystem
  | openChannel .. => .openChannel
  | closeChannel .. => .closeChannel
  | requestMessage .. => .requestMessage
  | broadcastData .. => .broadcastData
  | acknowledgedData .. => .acknowledgedData
  | burstData .. => .burstData

/-- The identifier the command is sent under. -/
def messageId (command : Command) : MessageId := command.kind.messageId

/-- The channel a response to the command is expected to name; device wide commands, message
requests and burst packets name none. -/
def channel? : Command → Option UInt8
  | unassignChannel channel => some channel
  | assignChannel channel .. => some channel
  | channelId channel .. => some channel
  | channelPeriod channel .. => some channel
  | searchTimeout channel .. => some channel
  | channelRfFrequency channel .. => some channel
  | setChannelTransmitPower channel .. => some channel
  | openChannel channel => some channel
  | closeChannel channel => some channel
  | broadcastData channel .. => some channel
  | acknowledgedData channel .. => some channel
  | setNetworkKey .. | transmitPower .. | enableExtRxMessages .. | libConfig .. | resetSystem
  | requestMessage .. | burstData .. => none

/-- The byte with bit `mask` set when `on` holds. -/
def flagBit (mask : UInt8) (on : Bool) : UInt8 := if on then mask else 0

/-- The bytes the command puts on the wire between identifier and checksum. -/
def payload : Command → List UInt8
  | unassignChannel channel => [channel]
  | assignChannel channel channelType network => [channel, channelType.value, network]
  | channelId channel sender => channel :: sender.pack
  | channelPeriod channel period => channel :: littleEndian period
  | searchTimeout channel steps => [channel, steps]
  | channelRfFrequency channel frequency => [channel, frequency]
  | setNetworkKey network key => network :: key.toList
  | transmitPower power => [0, power]
  | setChannelTransmitPower channel power => [channel, power]
  | enableExtRxMessages enable => [0, flagBit 0x01 enable]
  | libConfig senderId rssi rxTimestamp =>
      [0, flagBit 0x80 senderId ||| flagBit 0x40 rssi ||| flagBit 0x20 rxTimestamp]
  | resetSystem => [0]
  | openChannel channel => [channel]
  | closeChannel channel => [channel]
  | requestMessage channel messageId => [channel, messageId]
  | broadcastData channel data => channel :: data.toList
  | acknowledgedData channel data => channel :: data.toList
  | burstData channelSequence data => channelSequence :: data.toList

end Command

end AntHost
