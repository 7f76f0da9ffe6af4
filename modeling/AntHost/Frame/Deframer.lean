import AntHost.Frame.Basic
/-!
# Incremental deframing

A deframer turns chunks of an inbound byte stream into messages. A faulty frame takes two pulls:
the first reports the error and leaves the frame in place, the second drops its sync byte, looks
for the next one and answers nothing. `readAll` pulls until no complete frame is left.
-/

namespace AntHost

/-- The bytes from the first sync byte on; nothing if there is none. -/
def fromSync (bytes : List UInt8) : List UInt8 := bytes.dropWhile (· != syncByte)

/-- Reads the frame at the front of bytes that start with a sync byte. Answers nothing while the
frame is incomplete. -/
def readFrame (limit : PayloadLimit) (bytes : List UInt8) : Except FramingError (Option Message) :=
  match bytes with
  | _ :: length :: id :: rest =>
      let size := length.toNat
      if hsize : size ≤ limit.bytes then
        if bytes.length < frameSize size then .ok none
        else
          let computed := checksum (bytes.take (size + headerSize))
          let received := rest.getD size 0
          if computed ≠ received then .error (.badChecksum received computed)
          else
            .ok (some ⟨id, rest.take size,
              Nat.le_trans (List.length_take_le ..) (Nat.le_trans hsize limit.bytes_le)⟩)
      else .error (.oversize size limit.bytes)
  | _ => .ok none

/-- The bytes of one inbound stream that are not yet a message. -/
structure Deframer where
  limit : PayloadLimit
  buffer : List UInt8 := []
  /-- A faulty frame was reported and is still at the front. -/
  rejecting : Bool := false
deriving Repr

namespace Deframer

def push (deframer : Deframer) (bytes : List UInt8) : Deframer :=
  { deframer with buffer := deframer.buffer ++ bytes }

/-- Pulls the next message. `.ok none` asks for more bytes, or completes the rejection of a faulty
frame. -/
def pull (deframer : Deframer) : Except FramingError (Option Message) × Deframer :=
  if deframer.rejecting then
    (.ok none, { deframer with buffer := fromSync (deframer.buffer.drop 1), rejecting := false })
  else
    let buffer := fromSync deframer.buffer
    match readFrame deframer.limit buffer with
    | .ok none => (.ok none, { deframer with buffer })
    | .ok (some message) =>
        (.ok (some message), { deframer with buffer := buffer.drop (frameSize message.size) })
    | .error error => (.error error, { deframer with buffer, rejecting := true })

theorem length_fromSync_le (bytes : List UInt8) : (fromSync bytes).length ≤ bytes.length :=
  (List.dropWhile_suffix _).length_le

theorem pull_of_rejecting {deframer : Deframer} (hrejecting : deframer.rejecting = true) :
    deframer.pull =
      (.ok none,
        { deframer with buffer := fromSync (deframer.buffer.drop 1), rejecting := false }) := by
  simp [pull, hrejecting]

/-- A frame is only read, or refused, where bytes are. -/
theorem readFrame_nil (limit : PayloadLimit) : readFrame limit [] = .ok none := rfl

/-- Pulling a message shortens the buffer. -/
theorem length_pull_message {deframer next : Deframer} {message : Message}
    (hpull : deframer.pull = (.ok (some message), next)) :
    next.buffer.length < deframer.buffer.length := by
  unfold pull at hpull
  split at hpull
  · cases hpull
  · have haligned := length_fromSync_le deframer.buffer
    cases hread : readFrame deframer.limit (fromSync deframer.buffer) with
    | error error => simp [hread] at hpull
    | ok answer =>
      cases answer with
      | none => simp [hread] at hpull
      | some found =>
        have hne : fromSync deframer.buffer ≠ [] := by
          intro hnil
          rw [hnil, readFrame_nil] at hread
          cases hread
        have hpos := List.length_pos_iff.mpr hne
        simp only [hread, Prod.mk.injEq] at hpull
        rw [← hpull.2]
        simp only [List.length_drop, frameSize, headerSize, checksumSize]
        omega

/-- Reporting a fault and completing its rejection shortens the buffer. -/
theorem length_pull_error {deframer next : Deframer} {error : FramingError}
    (hpull : deframer.pull = (.error error, next)) :
    next.pull.2.buffer.length < deframer.buffer.length := by
  unfold pull at hpull
  split at hpull
  · cases hpull
  · have haligned := length_fromSync_le deframer.buffer
    cases hread : readFrame deframer.limit (fromSync deframer.buffer) with
    | ok answer => cases answer <;> simp [hread] at hpull
    | error found =>
      have hne : fromSync deframer.buffer ≠ [] := by
        intro hnil
        rw [hnil, readFrame_nil] at hread
        cases hread
      have hpos := List.length_pos_iff.mpr hne
      simp only [hread, Prod.mk.injEq] at hpull
      rw [← hpull.2, pull_of_rejecting rfl]
      have hrest := length_fromSync_le ((fromSync deframer.buffer).drop 1)
      simp only [List.length_drop] at hrest ⊢
      omega

/-- Every message that can be read from the buffered bytes, faulty frames skipped. -/
def readAll (deframer : Deframer) : List Message × Deframer :=
  match _hpull : deframer.pull with
  | (.ok none, next) => ([], next)
  | (.ok (some message), next) =>
      let (messages, rest) := next.readAll
      (message :: messages, rest)
  | (.error _, next) => next.pull.2.readAll
termination_by deframer.buffer.length
decreasing_by
  · exact length_pull_message _hpull
  · exact length_pull_error _hpull

/-- Reads a chunk: appends it and takes every message that is now complete. -/
def readChunk (deframer : Deframer) (bytes : List UInt8) : List Message × Deframer :=
  (deframer.push bytes).readAll

end Deframer

end AntHost
