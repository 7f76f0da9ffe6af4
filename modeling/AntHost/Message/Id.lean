/-!
# Message identifiers

Every frame carries a one byte identifier that says what its payload means. This module lists the
identifiers a host knows by name and reads them back from the wire.
-/

namespace AntHost

/-- The messages known by name, grouped by their role on the serial interface. -/
inductive MessageId where
  -- channel and radio configuration
  | unassignChannel | assignChannel | channelId | channelPeriod | searchTimeout
  | channelRfFrequency | setNetworkKey | transmitPower | setChannelTransmitPower
  | enableExtRxMessages | libConfig
  -- control
  | resetSystem | openChannel | closeChannel | requestMessage
  -- data
  | broadcastData | acknowledgedData | burstTransferData | advancedBurstData
  -- data in the legacy extended layout
  | extendedBroadcastData | extendedAcknowledgedData | extendedBurstData
  -- command responses and channel events share one identifier
  | channelEvent
  -- answers to a request
  | channelStatus | antVersion | capabilities | serialNumber
  -- notifications
  | startupMessage | serialErrorMessage
deriving DecidableEq, Repr

namespace MessageId

/-- The identifier byte on the wire. -/
def value : MessageId → UInt8
  | unassignChannel => 0x41
  | assignChannel => 0x42
  | channelId => 0x51
  | channelPeriod => 0x43
  | searchTimeout => 0x44
  | channelRfFrequency => 0x45
  | setNetworkKey => 0x46
  | transmitPower => 0x47
  | setChannelTransmitPower => 0x60
  | enableExtRxMessages => 0x66
  | libConfig => 0x6E
  | resetSystem => 0x4A
  | openChannel => 0x4B
  | closeChannel => 0x4C
  | requestMessage => 0x4D
  | broadcastData => 0x4E
  | acknowledgedData => 0x4F
  | burstTransferData => 0x50
  | advancedBurstData => 0x72
  | extendedBroadcastData => 0x5D
  | extendedAcknowledgedData => 0x5E
  | extendedBurstData => 0x5F
  | channelEvent => 0x40
  | channelStatus => 0x52
  | antVersion => 0x3E
  | capabilities => 0x54
  | serialNumber => 0x61
  | startupMessage => 0x6F
  | serialErrorMessage => 0xAE

/-- Every identifier known by name. -/
def all : List MessageId :=
  [unassignChannel, assignChannel, channelId, channelPeriod, searchTimeout, channelRfFrequency,
    setNetworkKey, transmitPower, setChannelTransmitPower, enableExtRxMessages, libConfig,
    resetSystem, openChannel, closeChannel, requestMessage, broadcastData, acknowledgedData,
    burstTransferData, advancedBurstData, extendedBroadcastData, extendedAcknowledgedData,
    extendedBurstData, channelEvent, channelStatus, antVersion, capabilities, serialNumber,
    startupMessage, serialErrorMessage]

/-- The identifier a wire byte stands for, if it is known by name. -/
def ofByte? (byte : UInt8) : Option MessageId :=
  all.find? fun id => id.value == byte

/-- The identifier's name in the serial protocol. -/
def name : MessageId → String
  | unassignChannel => "UnAssignChannel"
  | assignChannel => "AssignChannel"
  | channelId => "ChannelId"
  | channelPeriod => "ChannelPeriod"
  | searchTimeout => "SearchTimeout"
  | channelRfFrequency => "ChannelRfFrequency"
  | setNetworkKey => "SetNetworkKey"
  | transmitPower => "TransmitPower"
  | setChannelTransmitPower => "SetChannelTransmitPower"
  | enableExtRxMessages => "EnableExtRxMessages"
  | libConfig => "LibConfig"
  | resetSystem => "ResetSystem"
  | openChannel => "OpenChannel"
  | closeChannel => "CloseChannel"
  | requestMessage => "RequestMessage"
  | broadcastData => "BroadcastData"
  | acknowledgedData => "AcknowledgedData"
  | burstTransferData => "BurstTransferData"
  | advancedBurstData => "AdvancedBurstData"
  | extendedBroadcastData => "ExtendedBroadcastData"
  | extendedAcknowledgedData => "ExtendedAcknowledgedData"
  | extendedBurstData => "ExtendedBurstData"
  | channelEvent => "ChannelEvent"
  | channelStatus => "ChannelStatus"
  | antVersion => "AntVersion"
  | capabilities => "Capabilities"
  | serialNumber => "SerialNumber"
  | startupMessage => "StartUpMessage"
  | serialErrorMessage => "SerialErrorMessage"

/-- Requested messages whose first payload byte is a channel number rather than device data. -/
def isChannelScoped : MessageId → Bool
  | channelId | channelStatus => true
  | _ => false

/-- Naming a byte and writing the name back are inverse to each other. -/
theorem ofByte?_value (id : MessageId) : ofByte? id.value = some id := by
  cases id <;> rfl

theorem value_of_ofByte? {byte : UInt8} {id : MessageId} (hid : ofByte? byte = some id) :
    id.value = byte := by
  have hfound := List.find?_some hid
  simpa using hfound

/-- A byte reads as an identifier exactly when it is that identifier's value. -/
theorem ofByte?_eq_some_iff {byte : UInt8} {id : MessageId} :
    ofByte? byte = some id ↔ id.value = byte :=
  ⟨value_of_ofByte?, fun hvalue => hvalue ▸ ofByte?_value id⟩

end MessageId

end AntHost
