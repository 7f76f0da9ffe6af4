import Mathlib.Data.List.GetD
import Mathlib.Logic.Function.Iterate
import AntHost.Command.Burst
/-!
# Data in burst packets

Every eight bytes of the data of a burst make a packet, and a packet is known by its place: the
first by its number zero, the others by numbers that run from one to three over and over, the last
by a bit of its own. The channel, the number and that bit share one byte without touching one
another, and counting up never leaves it.
-/

namespace AntHost

namespace BurstPacket

/-! ## The byte in front of the data -/

/-- Reading the first byte through a mask reads channel and sequence through what is left of
their own masks. -/
theorem and_of (channel sequence mask : UInt8) (data : Octets) :
    (of channel sequence data).channelSequence &&& mask =
      (channel &&& (channelMask &&& mask)) ||| (sequence &&& (sequenceMask &&& mask)) := by
  have hor : ∀ low high : UInt8, (low ||| high) &&& mask = (low &&& mask) ||| (high &&& mask) :=
    fun _ _ => UInt8.toBitVec_inj.mp BitVec.and_or_distrib_right
  rw [of, hor, UInt8.and_assoc, UInt8.and_assoc]

/-- The sequence bits do not reach into the channel. -/
theorem channel_of (channel sequence : UInt8) (data : Octets) :
    (of channel sequence data).channelSequence &&& channelMask = channel &&& channelMask := by
  have hmask : sequenceMask &&& channelMask = 0 := by decide
  rw [and_of, hmask, UInt8.and_self, UInt8.and_zero, UInt8.or_zero]

/-- The number in the two bits below the mark of the last packet. -/
def number (packet : BurstPacket) : Nat := (packet.channelSequence &&& 0x60).toNat / 0x20

/-- The packet bears the mark of the last one. -/
def isLast (packet : BurstPacket) : Bool := packet.channelSequence &&& lastPacketBit != 0

/-- The sequence with this number. -/
def sequenceOf (number : Nat) : UInt8 := UInt8.ofNat (0x20 * number)

/-- The sequence as the packet at its place carries it. -/
def marked (sequence : UInt8) (last : Bool) : UInt8 :=
  if last then sequence ||| lastPacketBit else sequence

theorem number_of (channel : UInt8) {count : Nat} (hcount : count < 4) (last : Bool)
    (data : Octets) : (of channel (marked (sequenceOf count) last) data).number = count := by
  have hchannel : channelMask &&& 0x60 = 0 := by decide
  rw [number, and_of, hchannel, UInt8.and_zero, UInt8.zero_or]
  revert last count
  decide

theorem isLast_of (channel : UInt8) {count : Nat} (hcount : count < 4) (last : Bool)
    (data : Octets) : (of channel (marked (sequenceOf count) last) data).isLast = last := by
  have hchannel : channelMask &&& lastPacketBit = 0 := by decide
  rw [isLast, and_of, hchannel, UInt8.and_zero, UInt8.zero_or]
  revert last count
  decide

/-! ## Counting packets -/

/-- The number of the packet at this place: zero at the start only, then one, two, three and one
again. -/
def numberAt : Nat → Nat
  | 0 => 0
  | index + 1 => index % 3 + 1

theorem numberAt_lt (index : Nat) : numberAt index < 4 := by
  cases index with
  | zero => decide
  | succ index => exact Nat.add_lt_add_right (Nat.mod_lt index (by decide)) 1

theorem numberAt_succ (index : Nat) :
    numberAt (index + 1) = if numberAt index = 3 then 1 else numberAt index + 1 := by
  cases index with
  | zero => rfl
  | succ index =>
      simp only [numberAt, Nat.reduceEqDiff]
      split <;> omega

theorem nextSequence_sequenceOf {count : Nat} (hcount : count < 4) :
    nextSequence (sequenceOf count) = sequenceOf (if count = 3 then 1 else count + 1) := by
  revert count
  decide

/-- The sequence in front of a packet holds the packet's number. -/
theorem iterate_nextSequence (index : Nat) :
    nextSequence^[index] 0 = sequenceOf (numberAt index) := by
  induction index with
  | zero => rfl
  | succ index ih =>
      rw [Function.iterate_succ_apply', ih, nextSequence_sequenceOf (numberAt_lt index),
        numberAt_succ]

/-! ## All packets at once -/

/-- Packets that carry this many bytes. -/
def packetCount (size : Nat) : Nat := (size + (packetDataSize - 1)) / packetDataSize

/-- The packet at a place, when the first one has this sequence. -/
def packetAt (channel sequence : UInt8) (data : List UInt8) (index : Nat) : BurstPacket :=
  of channel
    (marked (nextSequence^[index] sequence) (data.drop (packetDataSize * (index + 1))).isEmpty)
    (zeroPadded ((data.drop (packetDataSize * index)).take packetDataSize))

theorem packetCount_drop {data : List UInt8} (hdata : data ≠ []) :
    packetCount data.length = packetCount (data.drop packetDataSize).length + 1 := by
  have hpos := List.length_pos_iff.mpr hdata
  simp only [packetCount, packetDataSize, List.length_drop]
  omega

theorem packetAt_succ (channel sequence : UInt8) (data : List UInt8) (index : Nat) :
    packetAt channel sequence data (index + 1) =
      packetAt channel (nextSequence sequence) (data.drop packetDataSize) index := by
  have hplace : ∀ place, packetDataSize * (place + 1) = packetDataSize + packetDataSize * place :=
    fun place => (Nat.mul_succ ..).trans (Nat.add_comm ..)
  simp only [packetAt, Function.iterate_succ_apply, List.drop_drop, hplace]

theorem packetAt_zero (channel sequence : UInt8) (data : List UInt8) :
    packetAt channel sequence data 0 =
      of channel
        (if data.drop packetDataSize = [] then sequence ||| lastPacketBit else sequence)
        (zeroPadded (data.take packetDataSize)) := by
  simp only [packetAt, marked, Function.iterate_zero_apply, List.isEmpty_iff, Nat.mul_zero,
    List.drop_zero, Nat.zero_add, Nat.mul_one]

/-- Splitting makes one packet after the other, each from its own eight bytes. -/
theorem splitFrom_eq_map (channel sequence : UInt8) (data : List UInt8) :
    splitFrom channel sequence data =
      (List.range (packetCount data.length)).map (packetAt channel sequence data) := by
  fun_induction splitFrom channel sequence data with
  | case1 => rfl
  | case2 sequence data hdata rest marked ih =>
      rw [packetCount_drop hdata, List.range_succ_eq_map, List.map_cons, List.map_map, ih,
        packetAt_zero]
      congr 1
      apply List.map_congr_left
      intro index _
      exact (packetAt_succ channel sequence data index).symm

theorem length_split (channel : UInt8) (data : List UInt8) :
    (split channel data).length = packetCount data.length := by
  rw [split, splitFrom_eq_map, List.length_map, List.length_range]

theorem getElem_split {channel : UInt8} {data : List UInt8} {index : Nat}
    (hindex : index < (split channel data).length) :
    (split channel data)[index] = packetAt channel 0 data index := by
  simp [split, splitFrom_eq_map]

/-- The last packet is the one behind which no data is left. -/
theorem isEmpty_drop_iff {channel : UInt8} {data : List UInt8} {index : Nat}
    (hindex : index < (split channel data).length) :
    (data.drop (packetDataSize * (index + 1))).isEmpty = true ↔
      index + 1 = (split channel data).length := by
  rw [length_split] at hindex ⊢
  rw [List.isEmpty_iff, List.drop_eq_nil_iff]
  simp only [packetCount, packetDataSize] at hindex ⊢
  omega

/-- No packet names another channel than its burst's. -/
theorem channel_of_mem_splitFrom {channel sequence : UInt8} {data : List UInt8}
    {packet : BurstPacket} (hpacket : packet ∈ splitFrom channel sequence data) :
    packet.channelSequence &&& channelMask = channel &&& channelMask := by
  rw [splitFrom_eq_map] at hpacket
  obtain ⟨index, _, rfl⟩ := List.mem_map.mp hpacket
  exact channel_of channel _ _

theorem split_eq_nil_iff (channel : UInt8) (data : List UInt8) :
    split channel data = [] ↔ data = [] := by
  rw [← List.length_eq_zero_iff, length_split, ← List.length_eq_zero_iff]
  simp only [packetCount, packetDataSize]
  omega

/-! ## The data -/

theorem toList_zeroPadded {data : List UInt8} (hsize : data.length ≤ packetDataSize) :
    (zeroPadded data).toList = data ++ List.replicate (packetDataSize - data.length) 0 := by
  rw [zeroPadded, Vector.toList_ofFn]
  apply List.ext_getElem
  · simp only [List.length_ofFn, List.length_append, List.length_replicate]
    omega
  · intro index _ _
    rw [List.getElem_ofFn, List.getElem_append]
    split
    next hlt => exact List.getD_eq_getElem _ _ hlt
    next hge => rw [List.getElem_replicate, List.getD_eq_default _ _ (Nat.not_lt.mp hge)]

/-- The packets carry the data and fill up the last of them. -/
theorem flatMap_data_splitFrom (channel sequence : UInt8) (data : List UInt8) :
    ∃ padding < packetDataSize,
      ((splitFrom channel sequence data).flatMap fun packet => packet.data.toList) =
        data ++ List.replicate padding 0 := by
  fun_induction splitFrom channel sequence data with
  | case1 => exact ⟨0, by decide, rfl⟩
  | case2 sequence data hdata rest marked ih =>
      have hfirst := toList_zeroPadded (List.length_take_le packetDataSize data)
      rw [List.flatMap_cons]
      -- only the last packet can be filled up
      by_cases hrest : rest = []
      · have hall : data.take packetDataSize = data :=
          List.take_of_length_le (List.drop_eq_nil_iff.mp hrest)
        have hpos := List.length_pos_iff.mpr hdata
        refine ⟨packetDataSize - data.length, ?_, ?_⟩
        · simp only [packetDataSize]
          omega
        · rw [hall] at hfirst
          rw [of, hall, hfirst, hrest, splitFrom]
          simp
      · obtain ⟨padding, hpadding, hlater⟩ := ih
        have hfull : (data.take packetDataSize).length = packetDataSize := by
          have hlonger := mt List.drop_eq_nil_iff.mpr hrest
          rw [List.length_take]
          omega
        refine ⟨padding, hpadding, ?_⟩
        rw [hfull, Nat.sub_self, List.replicate_zero, List.append_nil] at hfirst
        rw [of, hfirst, hlater, ← List.append_assoc, List.take_append_drop]

/-! ## Counting in a byte -/

/-- The sequence that follows, if the byte can hold it. -/
def nextSequence? (sequence : UInt8) : Option UInt8 :=
  if sequence = sequenceTop then some sequenceStep
  else if sequence.toNat + sequenceStep.toNat < UInt8.size then some (sequence + sequenceStep)
  else none

/-- Splitting that fails where counting leaves the byte. -/
def splitFrom? (channel sequence : UInt8) (data : List UInt8) : Option (List BurstPacket) :=
  if _hempty : data = [] then some []
  else
    let rest := data.drop packetDataSize
    let marked := if rest = [] then sequence ||| lastPacketBit else sequence
    (nextSequence? sequence).bind fun next =>
      (splitFrom? channel next rest).map
        (of channel marked (zeroPadded (data.take packetDataSize)) :: ·)
termination_by data.length
decreasing_by
  have hpos := List.length_pos_iff.mpr _hempty
  simp only [List.length_drop, packetDataSize]
  omega

theorem nextSequence?_sequenceOf {count : Nat} (hcount : count < 4) :
    nextSequence? (sequenceOf count) = some (nextSequence (sequenceOf count)) := by
  revert count
  decide

/-- From a sequence that a packet can have, counting stays among such sequences. -/
theorem splitFrom?_of_sequenceOf (channel sequence : UInt8) (data : List UInt8) :
    (∃ count < 4, sequence = sequenceOf count) →
      splitFrom? channel sequence data = some (splitFrom channel sequence data) := by
  fun_induction splitFrom channel sequence data with
  | case1 =>
      intro _
      rw [splitFrom?, dif_pos rfl]
  | case2 sequence data hdata rest marked ih =>
      rintro ⟨count, hcount, rfl⟩
      have hlater := ih ⟨if count = 3 then 1 else count + 1, by split <;> omega,
        nextSequence_sequenceOf hcount⟩
      rw [splitFrom?, dif_neg hdata, nextSequence?_sequenceOf hcount]
      dsimp only [Option.bind_some]
      rw [hlater]
      rfl

/-! ## The packets of a burst -/

/-- A burst's packets are as many as its data needs and carry all of it, zeros behind it in the last
one only. Each names the burst's channel and bears its number, zero for the first alone, and the
last alone is marked as such. Counting up never leaves the byte, however long the data is. -/
theorem split_numbers_packets (channel : UInt8) (data : List UInt8) :
    (split channel data).length = (data.length + 7) / 8 ∧
      (∃ padding < 8, ((split channel data).flatMap fun packet => packet.data.toList) =
        data ++ List.replicate padding 0) ∧
      (∀ index : Fin (split channel data).length,
        let packet := (split channel data).get index
        packet.channel = channel &&& channelMask ∧
          packet.number = (if index.val = 0 then 0 else (index.val - 1) % 3 + 1) ∧
          (packet.number = 0 ↔ index.val = 0) ∧
          (packet.isLast = true ↔ index.val + 1 = (split channel data).length)) ∧
      splitFrom? channel 0 data = some (split channel data) := by
  refine ⟨length_split channel data, flatMap_data_splitFrom channel 0 data, fun index => ?_,
    splitFrom?_of_sequenceOf channel 0 data ⟨0, by decide, rfl⟩⟩
  have hpacket : (split channel data).get index = of channel
      (marked (sequenceOf (numberAt index)) (data.drop (packetDataSize * (index + 1))).isEmpty)
      (zeroPadded ((data.drop (packetDataSize * index)).take packetDataSize)) := by
    rw [List.get_eq_getElem, getElem_split index.isLt, packetAt, iterate_nextSequence]
  dsimp only
  rw [hpacket, number_of channel (numberAt_lt index), isLast_of channel (numberAt_lt index),
    isEmpty_drop_iff index.isLt]
  refine ⟨channel_of channel _ _, ?_, ?_, Iff.rfl⟩
  · cases index.val <;> rfl
  · cases index.val <;> simp [numberAt]

end BurstPacket

end AntHost
