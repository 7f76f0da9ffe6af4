/-!
# Event codes

The codes a channel handler or a response check meets. Codes below `0x7D` come off the wire in
channel event messages; the codes for received data are made by the host when data arrives.
-/

namespace AntHost

/-- The result and event codes known by name. -/
inductive EventCode where
  | responseNoError
  | rxSearchTimeout | rxFail | tx
  | transferRxFailed | transferTxCompleted | transferTxFailed
  | channelClosed | rxFailGoToSearch | channelCollision
  | transferTxStart | transferNextDataBlock
  | channelInWrongState | channelNotOpened | channelIdNotSet | closeAllChannels
  | transferInProgress | transferSequenceNumberError | transferInError
  | messageSizeExceedsLimit | invalidMessage | invalidNetworkNumber
  | invalidListId | invalidScanTxChannel | invalidParameterProvided
  | serialQueueOverflow | queueOverflow
  | encryptNegotiationSuccess | encryptNegotiationFail
  | nvmFull | nvmWrite | usbStringWriteFail
  -- received data with a flag byte and appended fields
  | rxFlagAcknowledged | rxFlagBurstPacket | rxFlagBroadcast
  -- received data in the standard layout
  | rxBroadcast | rxAcknowledged | rxBurstPacket
  -- received data in the legacy extended layout
  | rxExtBroadcast | rxExtAcknowledged | rxExtBurstPacket
  | serialError
deriving DecidableEq, Repr

namespace EventCode

def value : EventCode → UInt8
  | responseNoError => 0x00
  | rxSearchTimeout => 0x01
  | rxFail => 0x02
  | tx => 0x03
  | transferRxFailed => 0x04
  | transferTxCompleted => 0x05
  | transferTxFailed => 0x06
  | channelClosed => 0x07
  | rxFailGoToSearch => 0x08
  | channelCollision => 0x09
  | transferTxStart => 0x0A
  | transferNextDataBlock => 0x11
  | channelInWrongState => 0x15
  | channelNotOpened => 0x16
  | channelIdNotSet => 0x18
  | closeAllChannels => 0x19
  | transferInProgress => 0x1F
  | transferSequenceNumberError => 0x20
  | transferInError => 0x21
  | messageSizeExceedsLimit => 0x27
  | invalidMessage => 0x28
  | invalidNetworkNumber => 0x29
  | invalidListId => 0x30
  | invalidScanTxChannel => 0x31
  | invalidParameterProvided => 0x32
  | serialQueueOverflow => 0x34
  | queueOverflow => 0x35
  | encryptNegotiationSuccess => 0x38
  | encryptNegotiationFail => 0x39
  | nvmFull => 0x40
  | nvmWrite => 0x41
  | usbStringWriteFail => 0x70
  | rxFlagAcknowledged => 0x7D
  | rxFlagBurstPacket => 0x7E
  | rxFlagBroadcast => 0x7F
  | rxBroadcast => 0x9A
  | rxAcknowledged => 0x9B
  | rxBurstPacket => 0x9C
  | rxExtBroadcast => 0x9D
  | rxExtAcknowledged => 0x9E
  | rxExtBurstPacket => 0x9F
  | serialError => 0xAE

/-- Every code known by name. -/
def all : List EventCode :=
  [responseNoError, rxSearchTimeout, rxFail, tx, transferRxFailed, transferTxCompleted,
    transferTxFailed, channelClosed, rxFailGoToSearch, channelCollision, transferTxStart,
    transferNextDataBlock, channelInWrongState, channelNotOpened, channelIdNotSet,
    closeAllChannels, transferInProgress, transferSequenceNumberError, transferInError,
    messageSizeExceedsLimit, invalidMessage, invalidNetworkNumber, invalidListId,
    invalidScanTxChannel, invalidParameterProvided, serialQueueOverflow, queueOverflow,
    encryptNegotiationSuccess, encryptNegotiationFail, nvmFull, nvmWrite, usbStringWriteFail,
    rxFlagAcknowledged, rxFlagBurstPacket, rxFlagBroadcast, rxBroadcast, rxAcknowledged,
    rxBurstPacket, rxExtBroadcast, rxExtAcknowledged, rxExtBurstPacket, serialError]

/-- The code a byte stands for, if it is known by name. -/
def ofByte? (byte : UInt8) : Option EventCode :=
  all.find? fun code => code.value == byte

/-- The code's name in the serial protocol. -/
def name : EventCode → String
  | responseNoError => "ResponseNoError"
  | rxSearchTimeout => "EventRxSearchTimeout"
  | rxFail => "EventRxFail"
  | tx => "EventTx"
  | transferRxFailed => "EventTransferRxFailed"
  | transferTxCompleted => "EventTransferTxCompleted"
  | transferTxFailed => "EventTransferTxFailed"
  | channelClosed => "EventChannelClosed"
  | rxFailGoToSearch => "EventRxFailGoToSearch"
  | channelCollision => "EventChannelCollision"
  | transferTxStart => "EventTransferTxStart"
  | transferNextDataBlock => "EventTransferNextDataBlock"
  | channelInWrongState => "ChannelInWrongState"
  | channelNotOpened => "ChannelNotOpened"
  | channelIdNotSet => "ChannelIdNotSet"
  | closeAllChannels => "CloseAllChannels"
  | transferInProgress => "TransferInProgress"
  | transferSequenceNumberError => "TransferSequenceNumberError"
  | transferInError => "TransferInError"
  | messageSizeExceedsLimit => "MessageSizeExceedsLimit"
  | invalidMessage => "InvalidMessage"
  | invalidNetworkNumber => "InvalidNetworkNumber"
  | invalidListId => "InvalidListId"
  | invalidScanTxChannel => "InvalidScanTxChannel"
  | invalidParameterProvided => "InvalidParameterProvided"
  | serialQueueOverflow => "EventSerialQueOverflow"
  | queueOverflow => "EventQueOverflow"
  | encryptNegotiationSuccess => "EncryptNegotiationSuccess"
  | encryptNegotiationFail => "EncryptNegotiationFail"
  | nvmFull => "NvmFullError"
  | nvmWrite => "NvmWriteError"
  | usbStringWriteFail => "UsbStringWriteFail"
  | rxFlagAcknowledged => "EventRxFlagAcknowledged"
  | rxFlagBurstPacket => "EventRxFlagBurstPacket"
  | rxFlagBroadcast => "EventRxFlagBroadcast"
  | rxBroadcast => "EventRxBroadcast"
  | rxAcknowledged => "EventRxAcknowledged"
  | rxBurstPacket => "EventRxBurstPacket"
  | rxExtBroadcast => "EventRxExtBroadcast"
  | rxExtAcknowledged => "EventRxExtAcknowledged"
  | rxExtBurstPacket => "EventRxExtBurstPacket"
  | serialError => "MesgSerialErrorId"

theorem ofByte?_value (code : EventCode) : ofByte? code.value = some code := by
  cases code <;> rfl

theorem value_of_ofByte? {byte : UInt8} {code : EventCode} (hcode : ofByte? byte = some code) :
    code.value = byte := by
  have hfound := List.find?_some hcode
  simpa using hfound

end EventCode

end AntHost
