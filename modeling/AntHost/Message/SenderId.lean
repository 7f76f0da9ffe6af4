import AntHost.Message.Basic
/-!
# Sender ids

A device can be told to report who sent a data message. Flagged data carries the sender's channel
id after the flag byte; the legacy extended layout carries it right after the channel byte.
-/

namespace AntHost

/-- The channel id of the node that sent a data message. -/
structure SenderId where
  deviceNumber : UInt16
  deviceType : UInt8
  transmissionType : UInt8
deriving DecidableEq, Repr

/-- The low and the high byte of a two byte number, in wire order. -/
def littleEndian (number : UInt16) : List UInt8 :=
  [UInt8.ofNat (number.toNat % 256), UInt8.ofNat (number.toNat / 256)]

/-- The number whose low byte comes first. -/
def ofLittleEndian (low high : UInt8) : UInt16 :=
  UInt16.ofNat (low.toNat + 256 * high.toNat)

theorem toNat_ofLittleEndian (low high : UInt8) :
    (ofLittleEndian low high).toNat = low.toNat + 256 * high.toNat := by
  have hlow := low.toNat_lt
  have hhigh := high.toNat_lt
  simp only [ofLittleEndian, UInt16.toNat_ofNat']
  omega

theorem ofLittleEndian_bytes (number : UInt16) :
    ofLittleEndian (UInt8.ofNat (number.toNat % 256)) (UInt8.ofNat (number.toNat / 256)) =
      number := by
  have hnumber := number.toNat_lt
  apply UInt16.toNat_inj.mp
  simp only [toNat_ofLittleEndian, UInt8.toNat_ofNat']
  omega

theorem littleEndian_ofLittleEndian (low high : UInt8) :
    littleEndian (ofLittleEndian low high) = [low, high] := by
  have hlow := low.toNat_lt
  have hhigh := high.toNat_lt
  simp only [littleEndian, toNat_ofLittleEndian, List.cons.injEq, and_true]
  constructor <;> apply UInt8.toNat_inj.mp <;> simp only [UInt8.toNat_ofNat'] <;> omega

namespace SenderId

/-- The four bytes of a sender id, device number in little endian order. -/
def pack (sender : SenderId) : List UInt8 :=
  littleEndian sender.deviceNumber ++ [sender.deviceType, sender.transmissionType]

/-- Reads exactly four bytes back. -/
def unpack? : List UInt8 → Option SenderId
  | [low, high, deviceType, transmissionType] =>
      some ⟨ofLittleEndian low high, deviceType, transmissionType⟩
  | _ => none

/-- The `senderIdSize` bytes from `start` on, if all of them are there. -/
def window? (start : Nat) (data : List UInt8) : Option (List UInt8) :=
  if start + senderIdSize ≤ data.length then some ((data.drop start).take senderIdSize) else none

/-- The sender of flagged data: present when the flag byte after the standard data announces it
and all four bytes follow. -/
def ofFlagged? (data : List UInt8) : Option SenderId :=
  match data[standardDataSize]? with
  | none => none
  | some flags =>
      if flags &&& senderIdFlag = 0 then none
      else (window? (standardDataSize + 1) data).bind unpack?

/-- The sender of a legacy extended message: the four bytes after the channel byte. -/
def ofExtended? (data : List UInt8) : Option SenderId :=
  (window? 1 data).bind unpack?

theorem unpack?_pack (sender : SenderId) : unpack? sender.pack = some sender := by
  simp [pack, littleEndian, unpack?, ofLittleEndian_bytes]

/-- Four bytes are read as the sender id that they are the packed form of. -/
theorem unpack?_eq_some_iff {bytes : List UInt8} {sender : SenderId} :
    unpack? bytes = some sender ↔ bytes = sender.pack := by
  constructor
  · intro hread
    unfold unpack? at hread
    split at hread
    next low high deviceType transmissionType =>
      cases hread
      rw [pack, littleEndian_ofLittleEndian]
      rfl
    next => cases hread
  · rintro rfl
    exact unpack?_pack sender

theorem isSome_unpack? {bytes : List UInt8} :
    (unpack? bytes).isSome ↔ bytes.length = senderIdSize := by
  match bytes with
  | [] | [_] | [_, _] | [_, _, _] | [_, _, _, _] => simp [unpack?, senderIdSize]
  | _ :: _ :: _ :: _ :: _ :: _ => simp [unpack?, senderIdSize]

/-! A sender id is read from a window exactly if all of its bytes are there. -/

theorem window?_bind_unpack?_eq_some_iff {start : Nat} {data : List UInt8} {sender : SenderId} :
    (window? start data).bind unpack? = some sender ↔
      (data.drop start).take senderIdSize = sender.pack := by
  unfold window?
  split
  next => exact unpack?_eq_some_iff
  next hshort =>
    constructor
    · intro hread
      cases hread
    · -- a packed form is as long as the window, so it is in no shorter one
      intro hpacked
      have hlength := congrArg List.length hpacked
      rw [List.length_take, List.length_drop] at hlength
      change min 4 (data.length - start) = 4 at hlength
      refine absurd ?_ hshort
      change start + 4 ≤ data.length
      omega

theorem isSome_window?_bind_unpack? {start : Nat} {data : List UInt8} :
    ((window? start data).bind unpack?).isSome ↔ start + senderIdSize ≤ data.length := by
  unfold window?
  split
  next hlong =>
    rw [Option.bind_some, isSome_unpack?, List.length_take, List.length_drop]
    omega
  next hshort => simpa using hshort

end SenderId

end AntHost
