import AntHost.Command.Packed
/-!
# Frames

A frame is a sync byte, the payload length, an identifier, the payload, and the exclusive or of
all of these. A payload limit, at most the size of a message buffer, holds in both directions.
-/

namespace AntHost

/-- The largest payload accepted in either direction. -/
structure PayloadLimit where
  bytes : Nat
  bytes_le : bytes ≤ bufferSize
deriving DecidableEq, Repr

/-- The limit asked for, cut down to what a buffer holds. -/
def PayloadLimit.ofNat (bytes : Nat) : PayloadLimit :=
  ⟨min bytes bufferSize, Nat.min_le_right ..⟩

/-- The limit of standard devices. -/
def PayloadLimit.standard : PayloadLimit := .ofNat maxStandardPayload

/-- Why bytes make no frame, or a message fits none. -/
inductive FramingError where
  | badChecksum (received computed : UInt8)
  /-- A frame declares more payload than the limit. -/
  | oversize (declared limit : Nat)
  /-- A payload exceeds the limit or the room in the output buffer. -/
  | payloadTooLarge (size limit : Nat)
  | packing (error : PackingError)
deriving DecidableEq, Repr

def FramingError.name : FramingError → String
  | badChecksum .. => "BadChecksum"
  | oversize .. => "Oversize"
  | payloadTooLarge .. => "PayloadTooLarge"
  | packing _ => "PackingError"

def FramingError.message : FramingError → String
  | badChecksum received computed =>
      "message has bad checksum: " ++ toString received.toNat ++ ", expected " ++
        toString computed.toNat
  | oversize declared limit =>
      "declared length " ++ toString declared ++ " exceeds the " ++ toString limit ++
        " byte payload limit"
  | payloadTooLarge size limit =>
      "payload of " ++ toString size ++ " bytes does not fit the " ++ toString limit ++
        " byte payload limit"
  | packing error => "invalid byte pattern: " ++ error.message

def checksum (bytes : List UInt8) : UInt8 := bytes.foldl (· ^^^ ·) 0

/-- Length of a frame with a payload of this length. -/
def frameSize (payloadSize : Nat) : Nat := payloadSize + headerSize + checksumSize

/-- A frame up to its checksum. -/
def frameBody (id : UInt8) (payload : List UInt8) : List UInt8 :=
  syncByte :: UInt8.ofNat payload.length :: id :: payload

def frameBytes (id : UInt8) (payload : List UInt8) : List UInt8 :=
  frameBody id payload ++ [checksum (frameBody id payload)]

def Message.frame (message : Message) : List UInt8 := frameBytes message.id message.payload

theorem length_frameBytes (id : UInt8) (payload : List UInt8) :
    (frameBytes id payload).length = frameSize payload.length := by
  simp [frameBytes, frameBody, frameSize, headerSize, checksumSize]

end AntHost
