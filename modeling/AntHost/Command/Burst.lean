import AntHost.Command.Basic
/-!
# Burst packets

A burst carries data of any length in packets of eight bytes. The sequence in the high bits of a
packet's first byte runs 0, 1, 2, 3, 1, 2, 3, …; its top bit marks the last packet.
-/

namespace AntHost

structure BurstPacket where
  /-- Channel in the low five bits, sequence in the high three. -/
  channelSequence : UInt8
  data : Octets
deriving DecidableEq, Repr

/-- At most eight bytes, filled up with zeros. -/
def zeroPadded (data : List UInt8) : Octets :=
  Vector.ofFn fun index : Fin packetDataSize => data.getD index 0

namespace BurstPacket

/-- One step in the sequence bits. -/
def sequenceStep : UInt8 := 0x20

/-- The largest sequence before it starts again at one. -/
def sequenceTop : UInt8 := 0x60

/-- The packet for a channel and sequence, each cut down to its own bits. -/
def of (channel sequence : UInt8) (data : Octets) : BurstPacket :=
  ⟨(channel &&& channelMask) ||| (sequence &&& sequenceMask), data⟩

/-- The channel without the sequence bits. -/
def channel (packet : BurstPacket) : UInt8 := packet.channelSequence &&& channelMask

def command (packet : BurstPacket) : Command := .burstData packet.channelSequence packet.data

/-- The sequence that follows: zero occurs only at the start. -/
def nextSequence (sequence : UInt8) : UInt8 :=
  if sequence = sequenceTop then sequenceStep else sequence + sequenceStep

/-- Splits `data` into packets whose sequence starts at `sequence`. -/
def splitFrom (channel sequence : UInt8) (data : List UInt8) : List BurstPacket :=
  if _hempty : data = [] then []
  else
    let rest := data.drop packetDataSize
    let marked := if rest = [] then sequence ||| lastPacketBit else sequence
    of channel marked (zeroPadded (data.take packetDataSize)) ::
      splitFrom channel (nextSequence sequence) rest
termination_by data.length
decreasing_by
  have hpos := List.length_pos_iff.mpr _hempty
  simp only [List.length_drop, packetDataSize]
  omega

/-- The packets that carry `data` on `channel`, the last one filled up with zeros. -/
def split (channel : UInt8) (data : List UInt8) : List BurstPacket := splitFrom channel 0 data

end BurstPacket

end AntHost
