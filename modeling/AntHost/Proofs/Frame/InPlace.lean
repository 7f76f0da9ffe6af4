import AntHost.Frame.Encode
import Mathlib.Data.List.Basic
/-!
# Writing frames in place

A frame is written into its output buffer byte by byte, and a write or a view that reaches outside
of the buffer it is made on has no result. For a raw message and for a command, whatever the length
of the buffer, every access stays inside, and both come to the same frame.
-/

namespace AntHost

namespace InPlace

/-! ## Accesses -/

def put (buffer : List UInt8) (index : Nat) (byte : UInt8) : Option (List UInt8) :=
  if index < buffer.length then some (buffer.set index byte) else none

/-- The bytes from `first` up to `last`. -/
def view (buffer : List UInt8) (first last : Nat) : Option (List UInt8) :=
  if first ≤ last ∧ last ≤ buffer.length then some ((buffer.drop first).take (last - first))
  else none

/-- Puts bytes in the place of as many others. -/
def copy (buffer : List UInt8) (first last : Nat) (bytes : List UInt8) : Option (List UInt8) :=
  if first ≤ last ∧ last ≤ buffer.length ∧ bytes.length = last - first then
    some (buffer.take first ++ bytes ++ buffer.drop last)
  else none

/-- The index that lies this far before the end. -/
def beforeEnd (buffer : List UInt8) (distance : Nat) : Option Nat :=
  if distance ≤ buffer.length then some (buffer.length - distance) else none

/-- Writes header and checksum around a payload of this size that is already in its place. -/
def finish (buffer : List UInt8) (id : UInt8) (size : Nat) : Option (List UInt8 × List UInt8) := do
  let buffer ← put buffer 0 syncByte
  let buffer ← put buffer 1 (UInt8.ofNat size)
  let buffer ← put buffer 2 id
  let body ← view buffer 0 (size + headerSize)
  let buffer ← put buffer (size + headerSize) (checksum body)
  let frame ← view buffer 0 (size + headerSize + checksumSize)
  return (frame, buffer)

/-- `AntHost.encodeRaw` with its accesses. -/
def encodeRaw (limit : PayloadLimit) (id : UInt8) (payload buffer : List UInt8) :
    Option Written :=
  if limit.bytes < payload.length then
    some (.error (.payloadTooLarge payload.length limit.bytes), buffer)
  else if buffer.length < frameSize payload.length then
    some (.error (.payloadTooLarge payload.length (buffer.length - (headerSize + checksumSize))),
      buffer)
  else do
    let buffer ← copy buffer headerSize (headerSize + payload.length) payload
    let (frame, buffer) ← finish buffer id payload.length
    return (.ok frame, buffer)

/-- `Command.packInto` with its accesses. -/
def packInto (command : Command) (room : List UInt8) :
    Option (Except PackingError Nat × List UInt8) :=
  let size := command.kind.packedSize
  if room.length < size then some (.error (.bufferSizeMismatch size room.length), room)
  else do
    let room ← copy room 0 size command.payload
    return (.ok size, room)

/-- `AntHost.encodeCommand` with its accesses. -/
def encodeCommand (limit : PayloadLimit) (command : Command) (buffer : List UInt8) :
    Option Written :=
  if buffer.length < headerSize + checksumSize then some (.error (.payloadTooLarge 0 0), buffer)
  else do
    let last ← beforeEnd buffer checksumSize
    let room ← view buffer headerSize last
    match ← packInto command room with
    | (.error error, _) => return (.error (.packing error), buffer)
    | (.ok size, room) =>
        let buffer ← copy buffer headerSize last room
        if limit.bytes < size then
          return (.error (.payloadTooLarge size limit.bytes), buffer)
        let (frame, buffer) ← finish buffer command.messageId.value size
        return (.ok frame, buffer)

theorem put_of_lt {buffer : List UInt8} {index : Nat} (byte : UInt8)
    (hindex : index < buffer.length) : put buffer index byte = some (buffer.set index byte) :=
  if_pos hindex

theorem view_of_le {buffer : List UInt8} {first last : Nat} (hfirst : first ≤ last)
    (hlast : last ≤ buffer.length) :
    view buffer first last = some ((buffer.drop first).take (last - first)) :=
  if_pos ⟨hfirst, hlast⟩

theorem copy_of_le {buffer bytes : List UInt8} {first last : Nat} (hfirst : first ≤ last)
    (hlast : last ≤ buffer.length) (hlength : bytes.length = last - first) :
    copy buffer first last bytes = some (buffer.take first ++ bytes ++ buffer.drop last) :=
  if_pos ⟨hfirst, hlast, hlength⟩

theorem beforeEnd_of_le {buffer : List UInt8} {distance : Nat} (hle : distance ≤ buffer.length) :
    beforeEnd buffer distance = some (buffer.length - distance) :=
  if_pos hle

/-! ## Inside the buffer -/

/-- Any three bytes before a payload give way to its header, and the one behind it to the
checksum. -/
theorem finish_eq (b0 b1 b2 id last : UInt8) (payload rest : List UInt8) :
    finish (b0 :: b1 :: b2 :: (payload ++ last :: rest)) id payload.length =
      some (frameBytes id payload, frameBytes id payload ++ rest) := by
  let body := frameBody id payload
  have hframe : frameBytes id payload = body ++ [checksum body] := rfl
  have hbody : syncByte :: UInt8.ofNat payload.length :: id :: (payload ++ last :: rest) =
      body ++ last :: rest := rfl
  have hsize : payload.length + headerSize = body.length := rfl
  have hview : view (body ++ last :: rest) 0 body.length = some body := by
    rw [view_of_le (Nat.zero_le _) (by simp), List.drop_zero, Nat.sub_zero, List.take_left]
  have hput : put (body ++ last :: rest) body.length (checksum body) =
      some (frameBytes id payload ++ rest) := by
    rw [put_of_lt _ (by simp), List.set_append_right _ _ (Nat.le_refl _), Nat.sub_self,
      List.set_cons_zero, hframe, List.append_assoc]
    rfl
  have hwhole : view (frameBytes id payload ++ rest) 0 (body.length + checksumSize) =
      some (frameBytes id payload) := by
    have hlength : body.length + checksumSize = (frameBytes id payload).length := by
      rw [hframe, List.length_append]
      rfl
    rw [hlength, view_of_le (Nat.zero_le _) (by simp), List.drop_zero, Nat.sub_zero,
      List.take_left]
  simp only [finish, put_of_lt, List.length_cons, Nat.zero_lt_succ, Nat.succ_lt_succ_iff,
    List.set_cons_zero, List.set_cons_succ, Option.bind_eq_bind, Option.bind_some, hbody, hsize,
    hview, hput, hwhole]
  rfl

/-- Header and checksum around a payload in its place make its frame. -/
theorem finish_placePayload {payload buffer : List UInt8} (id : UInt8)
    (hroom : frameSize payload.length ≤ buffer.length) :
    finish (placePayload payload buffer) id payload.length =
      some (frameBytes id payload, (placeFrame id payload buffer).2) := by
  have hbehind : 3 + payload.length < buffer.length := by
    simp only [frameSize, headerSize, checksumSize] at hroom
    omega
  have hrest : buffer.drop (3 + payload.length + 1) =
      buffer.drop (frameBytes id payload).length := by
    rw [length_frameBytes, frameSize, Nat.add_comm payload.length]
    rfl
  have hheader : (buffer.take 3).length = 3 := List.length_take_of_le (by omega)
  obtain ⟨b0, b1, b2, hbytes⟩ := List.length_eq_three.mp hheader
  rw [placePayload, headerSize, hbytes, List.drop_eq_getElem_cons hbehind, hrest,
    List.append_assoc]
  exact finish_eq ..

/-- Every access for a raw message lies in the buffer. -/
theorem encodeRaw_eq (limit : PayloadLimit) (id : UInt8) (payload buffer : List UInt8) :
    encodeRaw limit id payload buffer = some (AntHost.encodeRaw limit id payload buffer) := by
  unfold encodeRaw AntHost.encodeRaw
  split
  next => rfl
  split
  next => rfl
  next _ hshort =>
    have hroom : frameSize payload.length ≤ buffer.length := Nat.not_lt.mp hshort
    have hcopy : copy buffer headerSize (headerSize + payload.length) payload =
        some (placePayload payload buffer) := by
      refine copy_of_le (Nat.le_add_right ..) ?_ (Nat.add_sub_cancel_left ..).symm
      simp only [frameSize] at hroom
      omega
    rw [hcopy]
    dsimp only [Option.bind_eq_bind, Option.bind_some]
    rw [finish_placePayload id hroom]
    rfl

theorem packInto_eq (command : Command) (room : List UInt8) :
    packInto command room = some (command.packInto room) := by
  unfold packInto Command.packInto
  dsimp only
  split
  next => rfl
  next hshort =>
    rw [copy_of_le (Nat.zero_le _) (Nat.not_lt.mp hshort) command.length_payload]
    rfl

/-- Every access for a command lies in the buffer. -/
theorem encodeCommand_eq (limit : PayloadLimit) (command : Command) (buffer : List UInt8) :
    encodeCommand limit command buffer = some (AntHost.encodeCommand limit command buffer) := by
  rw [AntHost.encodeCommand_eq]
  unfold encodeCommand
  split
  next => rfl
  next hshort =>
    rw [Nat.not_lt] at hshort
    have hheader : headerSize ≤ buffer.length - checksumSize := by omega
    have hview : view buffer headerSize (buffer.length - checksumSize) =
        some ((buffer.drop headerSize).take (buffer.length - (headerSize + checksumSize))) := by
      rw [view_of_le hheader (Nat.sub_le ..), Nat.sub_sub, Nat.add_comm checksumSize]
    rw [beforeEnd_of_le (by omega)]
    simp only [Option.bind_eq_bind, Option.bind_some, hview, packInto_eq,
      packInto_room command hshort]
    by_cases hroom : buffer.length < frameSize command.payload.length
    · rw [if_pos hroom, if_pos hroom]
      rfl
    · rw [if_neg hroom, if_neg hroom]
      rw [Nat.not_lt] at hroom
      have hcopy : copy buffer headerSize (buffer.length - checksumSize)
          (command.payload ++ ((buffer.drop headerSize).take
            (buffer.length - (headerSize + checksumSize))).drop command.payload.length) =
              some (placePayload command.payload buffer) := by
        rw [← packed_room hroom]
        refine copy_of_le hheader (Nat.sub_le ..) ?_
        simp only [frameSize] at hroom
        rw [List.length_append, List.length_drop, length_room]
        omega
      dsimp only
      rw [hcopy]
      dsimp only [Option.bind_some]
      -- the limit counts only now, when the room is packed already
      split
      next => rfl
      next =>
        rw [finish_placePayload _ hroom]
        rfl

end InPlace

/-! ## Typed and raw -/

theorem encodeRaw_eq_ok_iff {limit : PayloadLimit} {id : UInt8}
    {payload buffer frame : List UInt8} :
    (encodeRaw limit id payload buffer).1 = .ok frame ↔
      payload.length ≤ limit.bytes ∧ frameSize payload.length ≤ buffer.length ∧
        frame = frameBytes id payload := by
  unfold encodeRaw
  split
  next hlarge => simp [Nat.not_le.mpr hlarge]
  next hsize =>
    rw [Nat.not_lt] at hsize
    split
    next hshort => simp [Nat.not_le.mpr hshort]
    next hroom =>
      rw [Nat.not_lt] at hroom
      simp [placeFrame, hsize, hroom, eq_comm]

theorem encodeCommand_eq_ok_iff {limit : PayloadLimit} {command : Command}
    {buffer frame : List UInt8} :
    (encodeCommand limit command buffer).1 = .ok frame ↔
      command.payload.length ≤ limit.bytes ∧ frameSize command.payload.length ≤ buffer.length ∧
        frame = frameBytes command.messageId.value command.payload := by
  rw [encodeCommand_eq]
  split
  next hshort =>
    have hroom : ¬ frameSize command.payload.length ≤ buffer.length := by
      simp only [frameSize]
      omega
    simp [hroom]
  split
  next hroom => simp [Nat.not_le.mpr hroom]
  next hroom =>
    rw [Nat.not_lt] at hroom
    split
    next hlarge => simp [Nat.not_le.mpr hlarge]
    next hsize =>
      rw [Nat.not_lt] at hsize
      simp [placeFrame, hsize, hroom, eq_comm]

/-- A command and its packed payload are framed alike into buffers of one length, under the same
two conditions; what lies behind the frame stays in both, and no length makes either reach outside
of its buffer. -/
theorem encoders_agree {limit : PayloadLimit} {command : Command} {buffer other : List UInt8}
    (hlength : other.length = buffer.length) :
    (∀ frame, (encodeCommand limit command buffer).1 = .ok frame ↔
        (encodeRaw limit command.messageId.value command.payload other).1 = .ok frame) ∧
      ((∃ frame, (encodeCommand limit command buffer).1 = .ok frame) ↔
        command.kind.packedSize ≤ limit.bytes ∧ command.kind.packedSize + 4 ≤ buffer.length) ∧
      (∀ frame, (encodeCommand limit command buffer).1 = .ok frame →
        frame = frameBytes command.messageId.value command.payload ∧
          (encodeCommand limit command buffer).2 = frame ++ buffer.drop frame.length ∧
          (encodeRaw limit command.messageId.value command.payload other).2 =
            frame ++ other.drop frame.length) ∧
      InPlace.encodeCommand limit command buffer = some (encodeCommand limit command buffer) ∧
      ∀ id payload,
        InPlace.encodeRaw limit id payload other = some (encodeRaw limit id payload other) := by
  refine ⟨fun frame => ?_, ⟨?_, ?_⟩, fun frame hframe => ?_,
    InPlace.encodeCommand_eq limit command buffer, fun id payload => InPlace.encodeRaw_eq ..⟩
  · rw [encodeCommand_eq_ok_iff, encodeRaw_eq_ok_iff, hlength]
  · rintro ⟨frame, hframe⟩
    obtain ⟨hsize, hroom, -⟩ := encodeCommand_eq_ok_iff.mp hframe
    rw [command.length_payload] at hsize hroom
    exact ⟨hsize, hroom⟩
  · rintro ⟨hsize, hroom⟩
    rw [← command.length_payload] at hsize hroom
    exact ⟨_, encodeCommand_eq_ok_iff.mpr ⟨hsize, hroom, rfl⟩⟩
  · obtain ⟨hsize, hroom, rfl⟩ := encodeCommand_eq_ok_iff.mp hframe
    have hother : frameSize command.payload.length ≤ other.length := hlength ▸ hroom
    refine ⟨rfl, ?_, ?_⟩
    · rw [command.length_payload] at hsize hroom
      rw [encodeCommand_of_fits hsize hroom]
      rfl
    · rw [encodeRaw_of_fits _ hsize hother]
      rfl

/-- At the limit, into buffers with room for one byte more than the frame. -/
theorem encoders_agree_at_limit :
    (encodeCommand (.ofNat 3) (.assignChannel 1 .sharedBidirectionalSlave 2)
        [0, 0, 0, 0, 0, 0, 0, 9]).2 = [0xA4, 0x03, 0x42, 0x01, 0x20, 0x02, 0xC6, 9] ∧
      (encodeRaw (.ofNat 3) 0x42 [0x01, 0x20, 0x02] [1, 2, 3, 4, 5, 6, 7, 8]).2 =
        [0xA4, 0x03, 0x42, 0x01, 0x20, 0x02, 0xC6, 8] := by
  have hagree := @encoders_agree (.ofNat 3) (.assignChannel 1 .sharedBidirectionalSlave 2)
    [0, 0, 0, 0, 0, 0, 0, 9] [1, 2, 3, 4, 5, 6, 7, 8] rfl
  obtain ⟨frame, hframe⟩ := hagree.2.1.mpr (by decide)
  obtain ⟨rfl, htyped, hraw⟩ := hagree.2.2.1 frame hframe
  exact ⟨htyped.trans (by decide), hraw.trans (by decide)⟩

end AntHost
