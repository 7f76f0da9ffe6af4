import AntHost.Message.Basic
/-!
# Kinds of commands

The kinds of commands a host can give, each with the identifier it is sent under and the number of
payload bytes it takes.
-/

namespace AntHost

inductive CommandKind where
  | unassignChannel | assignChannel | channelId | channelPeriod | searchTimeout
  | channelRfFrequency | setNetworkKey | transmitPower | setChannelTransmitPower
  | enableExtRxMessages | libConfig | resetSystem | openChannel | closeChannel | requestMessage
  | broadcastData | acknowledgedData | burstData
deriving DecidableEq, Repr

namespace CommandKind

/-- The identifier commands of this kind are sent under. -/
def messageId : CommandKind → MessageId
  | unassignChannel => .unassignChannel
  | assignChannel => .assignChannel
  | channelId => .channelId
  | channelPeriod => .channelPeriod
  | searchTimeout => .searchTimeout
  | channelRfFrequency => .channelRfFrequency
  | setNetworkKey => .setNetworkKey
  | transmitPower => .transmitPower
  | setChannelTransmitPower => .setChannelTransmitPower
  | enableExtRxMessages => .enableExtRxMessages
  | libConfig => .libConfig
  | resetSystem => .resetSystem
  | openChannel => .openChannel
  | closeChannel => .closeChannel
  | requestMessage => .requestMessage
  | broadcastData => .broadcastData
  | acknowledgedData => .acknowledgedData
  | burstData => .burstTransferData

def all : List CommandKind :=
  [unassignChannel, assignChannel, channelId, channelPeriod, searchTimeout, channelRfFrequency,
    setNetworkKey, transmitPower, setChannelTransmitPower, enableExtRxMessages, libConfig,
    resetSystem, openChannel, closeChannel, requestMessage, broadcastData, acknowledgedData,
    burstData]

/-- Payload bytes of a command of this kind. -/
def packedSize : CommandKind → Nat
  | unassignChannel | resetSystem | openChannel | closeChannel => 1
  | searchTimeout | channelRfFrequency | transmitPower | setChannelTransmitPower
  | enableExtRxMessages | libConfig | requestMessage => 2
  | assignChannel | channelPeriod => 3
  | channelId => 5
  | setNetworkKey | broadcastData | acknowledgedData | burstData => standardDataSize

end CommandKind

end AntHost
