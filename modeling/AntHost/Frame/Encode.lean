import AntHost.Frame.Basic
/-!
# Writing frames

Frames are written at the front of an output buffer whose other bytes stay as they are. A raw
message is checked against the limit first and the room second; a typed command packs itself into
the room between header and checksum before its size is checked.
-/

namespace AntHost

/-- What writing a frame leaves: the frame or the reason there is none, and the output buffer. -/
abbrev Written := Except FramingError (List UInt8) × List UInt8

/-- A frame at the front of a buffer. -/
def placeFrame (id : UInt8) (payload buffer : List UInt8) : Written :=
  let frame := frameBytes id payload
  (.ok frame, frame ++ buffer.drop frame.length)

/-- Frames a raw identifier and payload. -/
def encodeRaw (limit : PayloadLimit) (id : UInt8) (payload buffer : List UInt8) : Written :=
  if limit.bytes < payload.length then
    (.error (.payloadTooLarge payload.length limit.bytes), buffer)
  else if buffer.length < frameSize payload.length then
    (.error (.payloadTooLarge payload.length (buffer.length - (headerSize + checksumSize))), buffer)
  else
    placeFrame id payload buffer

/-- The bytes a writer hands out, if it does. -/
def Written.bytes (written : Written) : List UInt8 :=
  match written.1 with
  | .ok frame => frame
  | .error _ => []

/-- A payload within the limit is framed wherever there is room for it. -/
theorem encodeRaw_of_fits {limit : PayloadLimit} {payload buffer : List UInt8} (id : UInt8)
    (hsize : payload.length ≤ limit.bytes) (hroom : frameSize payload.length ≤ buffer.length) :
    encodeRaw limit id payload buffer = placeFrame id payload buffer := by
  rw [encodeRaw, if_neg (Nat.not_lt.mpr hsize), if_neg (Nat.not_lt.mpr hroom)]

def encodeCommand (limit : PayloadLimit) (command : Command) (buffer : List UInt8) : Written :=
  if buffer.length < headerSize + checksumSize then
    (.error (.payloadTooLarge 0 0), buffer)
  else
    let room := (buffer.drop headerSize).take (buffer.length - (headerSize + checksumSize))
    match command.packInto room with
    | (.error error, _) => (.error (.packing error), buffer)
    | (.ok size, packed) =>
        let buffer := buffer.take headerSize ++ packed ++ buffer.drop (buffer.length - checksumSize)
        if limit.bytes < size then
          (.error (.payloadTooLarge size limit.bytes), buffer)
        else
          placeFrame command.messageId.value (packed.take size) buffer

/-- A payload over the bytes behind the header of a buffer. -/
def placePayload (payload buffer : List UInt8) : List UInt8 :=
  buffer.take headerSize ++ payload ++ buffer.drop (headerSize + payload.length)

theorem drop_placePayload {payload buffer : List UInt8} (hheader : headerSize ≤ buffer.length)
    (more : Nat) :
    (placePayload payload buffer).drop (headerSize + payload.length + more) =
      buffer.drop (headerSize + payload.length + more) := by
  have hfront : (buffer.take headerSize ++ payload).length = headerSize + payload.length := by
    rw [List.length_append, List.length_take_of_le hheader]
  rw [placePayload, ← List.drop_drop, List.drop_left' hfront, List.drop_drop]

/-- A frame covers its payload, wherever that stood before. -/
theorem placeFrame_placePayload {payload buffer : List UInt8} (id : UInt8)
    (hheader : headerSize ≤ buffer.length) :
    placeFrame id payload (placePayload payload buffer) = placeFrame id payload buffer := by
  have hlength : (frameBytes id payload).length = headerSize + payload.length + checksumSize := by
    rw [length_frameBytes, frameSize, Nat.add_comm payload.length]
  rw [placeFrame, placeFrame, hlength, drop_placePayload hheader]

theorem length_room (buffer : List UInt8) :
    ((buffer.drop headerSize).take (buffer.length - (headerSize + checksumSize))).length =
      buffer.length - (headerSize + checksumSize) := by
  rw [List.length_take, List.length_drop]
  omega

/-- The room between header and checksum holds a command exactly if the buffer holds its frame. -/
theorem packInto_room (command : Command) {buffer : List UInt8}
    (hshort : headerSize + checksumSize ≤ buffer.length) :
    command.packInto
        ((buffer.drop headerSize).take (buffer.length - (headerSize + checksumSize))) =
      if buffer.length < frameSize command.payload.length then
        (.error (.bufferSizeMismatch command.payload.length
            (buffer.length - (headerSize + checksumSize))),
          (buffer.drop headerSize).take (buffer.length - (headerSize + checksumSize)))
      else
        (.ok command.payload.length,
          command.payload ++ ((buffer.drop headerSize).take
            (buffer.length - (headerSize + checksumSize))).drop command.payload.length) := by
  have hfits : buffer.length - (headerSize + checksumSize) < command.payload.length ↔
      buffer.length < frameSize command.payload.length := by
    simp only [frameSize]
    omega
  rw [command.packInto_eq, length_room]
  simp only [hfits]

/-- Packed into the room between header and checksum, a command stands behind the header, and the
rest of the room and the last byte are the buffer's own. -/
theorem packed_room {payload buffer : List UInt8}
    (hroom : frameSize payload.length ≤ buffer.length) :
    buffer.take headerSize ++
        (payload ++ ((buffer.drop headerSize).take
          (buffer.length - (headerSize + checksumSize))).drop payload.length) ++
          buffer.drop (buffer.length - checksumSize) =
      placePayload payload buffer := by
  simp only [frameSize] at hroom
  have hlast : buffer.drop (buffer.length - checksumSize) =
      (buffer.drop (headerSize + payload.length)).drop
        (buffer.length - (headerSize + checksumSize) - payload.length) := by
    rw [List.drop_drop]
    congr 1
    omega
  rw [placePayload, List.drop_take, List.drop_drop, List.append_assoc,
    List.append_assoc payload, hlast, List.take_append_drop, List.append_assoc]

/-- A command is refused for want of a buffer for any frame, of room for its payload, and for the
limit, in this order; by the time the limit counts it is packed. -/
theorem encodeCommand_eq (limit : PayloadLimit) (command : Command) (buffer : List UInt8) :
    encodeCommand limit command buffer =
      if buffer.length < headerSize + checksumSize then (.error (.payloadTooLarge 0 0), buffer)
      else if buffer.length < frameSize command.payload.length then
        (.error (.packing (.bufferSizeMismatch command.payload.length
          (buffer.length - (headerSize + checksumSize)))), buffer)
      else if limit.bytes < command.payload.length then
        (.error (.payloadTooLarge command.payload.length limit.bytes),
          placePayload command.payload buffer)
      else placeFrame command.messageId.value command.payload buffer := by
  unfold encodeCommand
  split
  next => rfl
  next hshort =>
    rw [Nat.not_lt] at hshort
    dsimp only
    rw [packInto_room command hshort]
    by_cases hroom : buffer.length < frameSize command.payload.length
    · rw [if_pos hroom, if_pos hroom]
    · rw [if_neg hroom, if_neg hroom]
      dsimp only
      rw [packed_room (Nat.not_lt.mp hroom), List.take_left,
        placeFrame_placePayload _ (by omega)]

/-- A command that fits is framed wherever there is room for it. -/
theorem encodeCommand_of_fits {limit : PayloadLimit} {command : Command} {buffer : List UInt8}
    (hsize : command.kind.packedSize ≤ limit.bytes)
    (hroom : frameSize command.kind.packedSize ≤ buffer.length) :
    encodeCommand limit command buffer =
      placeFrame command.messageId.value command.payload buffer := by
  rw [← command.length_payload] at hsize hroom
  have hshort : ¬ buffer.length < headerSize + checksumSize := by
    simp only [frameSize] at hroom
    omega
  rw [encodeCommand_eq, if_neg hshort, if_neg (Nat.not_lt.mpr hroom), if_neg (Nat.not_lt.mpr hsize)]

/-- An output buffer that holds any frame. -/
def emptyFrameBuffer : List UInt8 := List.replicate maxFrameSize 0

/-- The frame of a raw message in a buffer of its own. -/
def rawFrame (limit : PayloadLimit) (id : UInt8) (payload : List UInt8) :
    Except FramingError (List UInt8) :=
  (encodeRaw limit id payload emptyFrameBuffer).1

/-- The frame of a command in a buffer of its own. -/
def commandFrame (limit : PayloadLimit) (command : Command) : Except FramingError (List UInt8) :=
  (encodeCommand limit command emptyFrameBuffer).1

/-- A command is framed unless its payload exceeds the limit. -/
theorem commandFrame_eq (limit : PayloadLimit) (command : Command) :
    commandFrame limit command =
      if limit.bytes < command.payload.length then
        .error (.payloadTooLarge command.payload.length limit.bytes)
      else .ok (frameBytes command.messageId.value command.payload) := by
  have hroom : ¬ emptyFrameBuffer.length < frameSize command.payload.length := by
    have hsize := command.packedSize_le
    simp only [emptyFrameBuffer, List.length_replicate, frameSize, maxFrameSize]
    omega
  rw [commandFrame, encodeCommand_eq, if_neg (by decide), if_neg hroom]
  split
  next => rfl
  next => rfl

end AntHost
