import AntHost.Frame.Basic
/-!
# Reading a whole stream

A stream that is there as a whole is read from left to right without any state: skip to a sync
byte, then either take a frame or report a fault and go on one byte further. The reading stops
where bytes are missing and answers what it has found and the bytes it could not use yet.
-/

namespace AntHost

/-- One thing found in a stream. -/
inductive Finding where
  | message (message : Message)
  | fault (error : FramingError)
deriving DecidableEq, Repr

namespace Stream

/-- The findings of a stream under a payload limit, in order, and the unread rest. -/
def read (limit : PayloadLimit) : List UInt8 → List Finding × List UInt8
  | [] => ([], [])
  | first :: bytes =>
      if first ≠ syncByte then read limit bytes
      else
        match bytes with
        | length :: id :: rest =>
            let size := length.toNat
            if hsize : size ≤ limit.bytes then
              match rest[size]? with
              | none => ([], syncByte :: length :: id :: rest)
              | some received =>
                  let payload := rest.take size
                  let computed := checksum (syncByte :: length :: id :: payload)
                  if computed = received then
                    let (findings, unread) := read limit (rest.drop (size + checksumSize))
                    let message : Message := ⟨id, payload,
                      Nat.le_trans (List.length_take_le ..) (Nat.le_trans hsize limit.bytes_le)⟩
                    (.message message :: findings, unread)
                  else
                    let (findings, unread) := read limit (length :: id :: rest)
                    (.fault (.badChecksum received computed) :: findings, unread)
            else
              let (findings, unread) := read limit (length :: id :: rest)
              (.fault (.oversize size limit.bytes) :: findings, unread)
        | short => ([], syncByte :: short)
termination_by bytes => bytes.length
decreasing_by
  all_goals simp only [List.length_cons, List.length_drop]
  all_goals omega

/-- The messages among findings. -/
def messages (findings : List Finding) : List Message :=
  findings.filterMap fun
    | .message message => some message
    | .fault _ => none

end Stream

end AntHost
