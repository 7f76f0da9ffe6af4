import Mathlib.Data.Nat.Bitwise
import AntHost.Command.Packed
/-!
# The layout of commands

A packed command is a row of fields. Bits count from the most significant bit of the first byte on,
a number of two bytes has its low byte first, and reserved bits are zero when they are written and
ignored when they are read.
-/

namespace AntHost

/-! ## Bits -/

/-- The bits of a byte, most significant first. -/
def byteBits (byte : UInt8) : List Bool := [7, 6, 5, 4, 3, 2, 1, 0].map byte.toNat.testBit

def bitsOf (bytes : List UInt8) : List Bool := bytes.flatMap byteBits

/-- Bits, with those cleared that a mask does not keep. -/
def keepBits (mask bits : List Bool) : List Bool := List.zipWith (· && ·) mask bits

theorem bitsOf_append (first second : List UInt8) :
    bitsOf (first ++ second) = bitsOf first ++ bitsOf second :=
  List.flatMap_append

/-- Testing a byte against a mask of one bit reads that bit. -/
theorem and_mask_ne_zero (byte : UInt8) {index : Nat} (hindex : index < 8) :
    (byte &&& UInt8.ofNat (2 ^ index) != 0) = byte.toNat.testBit index := by
  have hpow : 2 ^ index < 2 ^ 8 := Nat.pow_lt_pow_right (by decide) hindex
  have hmasked : (byte &&& UInt8.ofNat (2 ^ index)).toNat =
      (byte.toNat.testBit index).toNat * 2 ^ index := by
    rw [UInt8.toNat_and, UInt8.toNat_ofNat', Nat.mod_eq_of_lt hpow, Nat.and_two_pow]
  rw [Bool.eq_iff_iff, bne_iff_ne, ne_eq, ← UInt8.toNat_inj, hmasked]
  cases byte.toNat.testBit index <;> simp

/-- A byte has the low bits of the number it was made from. -/
theorem byteBits_ofNat (number : Nat) :
    byteBits (UInt8.ofNat number) = [7, 6, 5, 4, 3, 2, 1, 0].map number.testBit := by
  apply List.map_congr_left
  intro index hindex
  have hlt : index < 8 := by
    revert index
    decide
  rw [UInt8.toNat_ofNat', Nat.testBit_mod_two_pow, decide_eq_true hlt, Bool.true_and]

/-- A number of two bytes is written low byte first. -/
theorem bitsOf_littleEndian (number : UInt16) :
    bitsOf (littleEndian number) =
      [7, 6, 5, 4, 3, 2, 1, 0, 15, 14, 13, 12, 11, 10, 9, 8].map number.toNat.testBit := by
  have hlow : byteBits (UInt8.ofNat (number.toNat % 2 ^ 8)) =
      [7, 6, 5, 4, 3, 2, 1, 0].map number.toNat.testBit := by
    rw [byteBits_ofNat]
    simp only [List.map_cons, List.map_nil, Nat.testBit_mod_two_pow]
    rfl
  have hhigh : byteBits (UInt8.ofNat (number.toNat / 2 ^ 8)) =
      [15, 14, 13, 12, 11, 10, 9, 8].map number.toNat.testBit := by
    rw [byteBits_ofNat]
    simp only [List.map_cons, List.map_nil, Nat.testBit_div_two_pow, Nat.reduceAdd]
  change byteBits (UInt8.ofNat (number.toNat % 2 ^ 8)) ++
    (byteBits (UInt8.ofNat (number.toNat / 2 ^ 8)) ++ []) = _
  rw [hlow, hhigh]
  rfl

/-! ## Fields -/

/-- A field of a packed command. -/
inductive Field where
  /-- Bits without a meaning. -/
  | reserved (width : Nat)
  | flag (on : Bool)
  | byte (value : UInt8)
  | word (value : UInt16)
deriving DecidableEq, Repr

namespace Field

/-- The bits of the field as they are written. -/
def bits : Field → List Bool
  | reserved width => List.replicate width false
  | flag on => [on]
  | byte value => [7, 6, 5, 4, 3, 2, 1, 0].map value.toNat.testBit
  | word value =>
      [7, 6, 5, 4, 3, 2, 1, 0, 15, 14, 13, 12, 11, 10, 9, 8].map value.toNat.testBit

/-- Which bits of the field have a meaning. -/
def mask : Field → List Bool
  | reserved width => List.replicate width false
  | flag _ => [true]
  | byte _ => List.replicate 8 true
  | word _ => List.replicate 16 true

/-- A field is written with its meaningless bits clear. -/
theorem keepBits_bits (field : Field) : keepBits field.mask field.bits = field.bits := by
  cases field with
  | reserved width => simp [keepBits, mask, bits]
  | _ => rfl

theorem length_mask (field : Field) : field.mask.length = field.bits.length := by
  cases field <;> simp [mask, bits]

end Field

namespace Command

/-- The fields of a command in the order of its bits. -/
def fields : Command → List Field
  | unassignChannel channel => [.byte channel]
  | assignChannel channel channelType network =>
      [.byte channel, .byte channelType.value, .byte network]
  | channelId channel sender =>
      [.byte channel, .word sender.deviceNumber, .byte sender.deviceType,
        .byte sender.transmissionType]
  | channelPeriod channel period => [.byte channel, .word period]
  | searchTimeout channel steps => [.byte channel, .byte steps]
  | channelRfFrequency channel frequency => [.byte channel, .byte frequency]
  | setNetworkKey network key => .byte network :: key.toList.map .byte
  | transmitPower power => [.reserved 8, .byte power]
  | setChannelTransmitPower channel power => [.byte channel, .byte power]
  | enableExtRxMessages enable => [.reserved 15, .flag enable]
  | libConfig senderId rssi rxTimestamp =>
      [.reserved 8, .flag senderId, .flag rssi, .flag rxTimestamp, .reserved 5]
  | resetSystem => [.reserved 8]
  | openChannel channel => [.byte channel]
  | closeChannel channel => [.byte channel]
  | requestMessage channel messageId => [.byte channel, .byte messageId]
  | broadcastData channel data => .byte channel :: data.toList.map .byte
  | acknowledgedData channel data => .byte channel :: data.toList.map .byte
  | burstData channelSequence data => .byte channelSequence :: data.toList.map .byte

/-- The bits of a command as its fields have them. -/
def fieldBits (command : Command) : List Bool := command.fields.flatMap Field.bits

/-- Which bits of a command have a meaning. -/
def fieldMask (command : Command) : List Bool := command.fields.flatMap Field.mask

theorem bitsOf_bytes (bytes : List UInt8) :
    bitsOf bytes = (bytes.map Field.byte).flatMap Field.bits := by
  rw [List.flatMap_map]
  rfl

/-- A command is packed as its fields say. -/
theorem bitsOf_payload (command : Command) : bitsOf command.payload = command.fieldBits := by
  cases command with
  | channelId channel sender =>
      change byteBits channel ++ bitsOf (littleEndian sender.deviceNumber ++ _) = _
      rw [bitsOf_append, bitsOf_littleEndian]
      rfl
  | channelPeriod channel period =>
      change byteBits channel ++ bitsOf (littleEndian period) = _
      rw [bitsOf_littleEndian]
      rfl
  | setNetworkKey network key => exact congrArg (byteBits network ++ ·) (bitsOf_bytes _)
  | broadcastData channel data => exact congrArg (byteBits channel ++ ·) (bitsOf_bytes _)
  | acknowledgedData channel data => exact congrArg (byteBits channel ++ ·) (bitsOf_bytes _)
  | burstData channelSequence data =>
      exact congrArg (byteBits channelSequence ++ ·) (bitsOf_bytes _)
  | enableExtRxMessages enable => cases enable <;> rfl
  | libConfig senderId rssi rxTimestamp =>
      cases senderId <;> cases rssi <;> cases rxTimestamp <;> rfl
  | _ => rfl

/-- A packed command has no reserved bit set. -/
theorem keepBits_payload (command : Command) :
    keepBits command.fieldMask (bitsOf command.payload) = bitsOf command.payload := by
  rw [bitsOf_payload, fieldMask, fieldBits]
  induction command.fields with
  | nil => rfl
  | cons field rest ih =>
      rw [List.flatMap_cons, List.flatMap_cons, keepBits, List.zipWith_append field.length_mask]
      exact congrArg₂ (· ++ ·) field.keepBits_bits ih

end Command

end AntHost
