import AntHost.Frame.Stream
/-!
# Laws of reading a whole stream

A stream begins with noise, with a faulty frame, with a whole frame, or with a frame of which bytes
are missing. `Step` and `Incomplete` say so without running the reading, and every law of the
reading is an induction over its steps: above all, bytes that arrive later are read after the rest
that was left, wherever the stream is cut.
-/

namespace AntHost

namespace Stream

variable {limit : PayloadLimit}

/-! ## How a stream can begin -/

/-- What stands at the front of a stream, what it amounts to, and where the reading goes on. -/
inductive Step (limit : PayloadLimit) : List UInt8 → List Finding → List UInt8 → Prop where
  | noise {first : UInt8} {rest : List UInt8} (hfirst : first ≠ syncByte) :
      Step limit (first :: rest) [] rest
  | oversize {length id : UInt8} {rest : List UInt8} (hsize : limit.bytes < length.toNat) :
      Step limit (syncByte :: length :: id :: rest)
        [.fault (.oversize length.toNat limit.bytes)] (length :: id :: rest)
  | badChecksum {length id received : UInt8} {payload rest : List UInt8}
      (hlength : payload.length = length.toNat) (hsize : length.toNat ≤ limit.bytes)
      (hwrong : checksum (syncByte :: length :: id :: payload) ≠ received) :
      Step limit (syncByte :: length :: id :: (payload ++ received :: rest))
        [.fault (.badChecksum received (checksum (syncByte :: length :: id :: payload)))]
        (length :: id :: (payload ++ received :: rest))
  | frame {message : Message} {rest : List UInt8} (hsize : message.size ≤ limit.bytes) :
      Step limit (message.frame ++ rest) [.message message] rest

/-- Bytes no reading can use yet: none at all, or a frame whose header or end is missing. -/
def Incomplete (limit : PayloadLimit) (bytes : List UInt8) : Prop :=
  bytes = [] ∨
    bytes.head? = some syncByte ∧
      (bytes.length < headerSize ∨
        ∃ length, bytes[1]? = some length ∧ length.toNat ≤ limit.bytes ∧
          bytes.length < frameSize length.toNat)

/-- The length byte of a message's frame is not truncated. -/
theorem toNat_ofNat_size (message : Message) :
    (UInt8.ofNat message.payload.length).toNat = message.payload.length := by
  have hle := message.payload_le
  unfold bufferSize at hle
  rw [UInt8.toNat_ofNat']
  omega

theorem Step.length_lt {bytes rest : List UInt8} {findings : List Finding}
    (hstep : Step limit bytes findings rest) : rest.length < bytes.length := by
  cases hstep with
  | noise _ => simp
  | oversize _ => simp
  | badChecksum _ _ _ => simp
  | frame _ =>
      simp only [Message.frame, List.length_append, length_frameBytes, frameSize, headerSize]
      omega

/-- What stands at the front of a stream does not depend on what follows. -/
theorem Step.append {bytes rest : List UInt8} {findings : List Finding}
    (hstep : Step limit bytes findings rest) (more : List UInt8) :
    Step limit (bytes ++ more) findings (rest ++ more) := by
  cases hstep with
  | noise hfirst => exact .noise hfirst
  | oversize hsize => exact .oversize hsize
  | badChecksum hlength hsize hwrong =>
      simp only [List.cons_append, List.append_assoc]
      exact .badChecksum hlength hsize hwrong
  | frame hsize =>
      rw [List.append_assoc]
      exact .frame hsize

theorem Step.read_eq {bytes rest : List UInt8} {findings : List Finding}
    (hstep : Step limit bytes findings rest) :
    read limit bytes = (findings ++ (read limit rest).1, (read limit rest).2) := by
  cases hstep with
  | noise hfirst =>
      rw [read.eq_def]
      exact if_pos hfirst
  | oversize hsize =>
      rw [read]
      simp [Nat.not_le.mpr hsize]
  | badChecksum hlength hsize hwrong =>
      rw [read]
      simp [← hlength, hlength ▸ hsize, hwrong]
  | @frame message rest hsize =>
      obtain ⟨id, payload, hle⟩ := message
      have hlength := toNat_ofNat_size ⟨id, payload, hle⟩
      simp only [Message.size] at hsize hlength
      simp only [Message.frame, frameBytes, frameBody, List.cons_append, List.append_assoc,
        List.nil_append]
      rw [read]
      simp [hlength, hsize, checksumSize]

theorem Incomplete.read_eq {bytes : List UInt8} (hbytes : Incomplete limit bytes) :
    read limit bytes = ([], bytes) := by
  rw [read.eq_def]
  match bytes, hbytes with
  | [], _ => rfl
  | [first], hbytes =>
      simp only [Incomplete, reduceCtorEq, List.head?_cons, Option.some.injEq, false_or] at hbytes
      simp [hbytes.1]
  | [first, length], hbytes =>
      simp only [Incomplete, reduceCtorEq, List.head?_cons, Option.some.injEq, false_or] at hbytes
      simp [hbytes.1]
  | first :: length :: id :: rest, hbytes =>
      simp only [Incomplete, reduceCtorEq, List.head?_cons, Option.some.injEq, false_or] at hbytes
      obtain ⟨hfirst, hshort | ⟨declared, hdeclared, hsize, hmissing⟩⟩ := hbytes
      · simp [headerSize] at hshort
        omega
      · simp only [List.getElem?_cons_succ, List.getElem?_cons_zero,
          Option.some.injEq] at hdeclared
        subst hdeclared
        simp only [List.length_cons, frameSize, headerSize, checksumSize] at hmissing
        have hnone : rest[length.toNat]? = none := List.getElem?_eq_none (by omega)
        simp [hfirst, hsize, hnone]

/-- A frame that is there as a whole is read or refused. -/
theorem exists_step_of_received {length id received : UInt8} {rest : List UInt8}
    (hsize : length.toNat ≤ limit.bytes) (hreceived : rest[length.toNat]? = some received) :
    ∃ findings unread, Step limit (syncByte :: length :: id :: rest) findings unread := by
  obtain ⟨hlt, hget⟩ := List.getElem?_eq_some_iff.mp hreceived
  have hlength : (rest.take length.toNat).length = length.toNat :=
    List.length_take_of_le (Nat.le_of_lt hlt)
  have hsplit : rest = rest.take length.toNat ++ received :: rest.drop (length.toNat + 1) := by
    rw [← hget, ← List.drop_eq_getElem_cons hlt, List.take_append_drop]
  rw [hsplit]
  by_cases hwrong : checksum (syncByte :: length :: id :: rest.take length.toNat) = received
  · let message : Message := ⟨id, rest.take length.toNat, by
      rw [hlength]
      exact Nat.le_trans hsize limit.bytes_le⟩
    have hbyte : UInt8.ofNat (rest.take length.toNat).length = length := by
      rw [hlength, UInt8.ofNat_toNat]
    have hframe : syncByte :: length :: id ::
        (rest.take length.toNat ++ received :: rest.drop (length.toNat + 1)) =
          message.frame ++ rest.drop (length.toNat + 1) := by
      simp only [Message.frame, message, frameBytes, frameBody, hbyte, hwrong, List.cons_append,
        List.append_assoc, List.nil_append]
    refine ⟨[.message message], rest.drop (length.toNat + 1), ?_⟩
    rw [hframe]
    exact .frame (Nat.le_trans (Nat.le_of_eq hlength) hsize)
  · exact ⟨_, _, .badChecksum hlength hsize hwrong⟩

/-- A reading goes on unless it waits for bytes. -/
theorem incomplete_or_step (limit : PayloadLimit) (bytes : List UInt8) :
    Incomplete limit bytes ∨ ∃ findings rest, Step limit bytes findings rest := by
  match bytes with
  | [] => exact .inl (.inl rfl)
  | first :: rest =>
      by_cases hfirst : first = syncByte
      · subst hfirst
        match rest with
        | [] => exact .inl (.inr ⟨rfl, .inl (by simp [headerSize])⟩)
        | [_] => exact .inl (.inr ⟨rfl, .inl (by simp [headerSize])⟩)
        | length :: id :: rest =>
            by_cases hsize : length.toNat ≤ limit.bytes
            · cases hreceived : rest[length.toNat]? with
              | none =>
                  have hmissing := List.getElem?_eq_none_iff.mp hreceived
                  refine .inl (.inr ⟨rfl, .inr ⟨length, rfl, hsize, ?_⟩⟩)
                  simp only [List.length_cons, frameSize, headerSize, checksumSize]
                  omega
              | some received => exact .inr (exists_step_of_received hsize hreceived)
            · exact .inr ⟨_, _, .oversize (Nat.not_le.mp hsize)⟩
      · exact .inr ⟨_, _, .noise hfirst⟩

/-- A property of streams holds of all if it holds of those that wait for bytes and passes from
where a reading goes on back to where it stands. -/
theorem step_induction (limit : PayloadLimit) {motive : List UInt8 → Prop}
    (hincomplete : ∀ bytes, Incomplete limit bytes → motive bytes)
    (hstep : ∀ bytes findings rest,
      Step limit bytes findings rest → motive rest → motive bytes)
    (bytes : List UInt8) : motive bytes := by
  induction hsize : bytes.length using Nat.strongRecOn generalizing bytes with
  | ind size ih =>
      rcases incomplete_or_step limit bytes with hbytes | ⟨findings, rest, hbytes⟩
      · exact hincomplete bytes hbytes
      · have hshorter := hbytes.length_lt
        exact hstep bytes findings rest hbytes (ih rest.length (by omega) rest rfl)

/-! ## Laws -/

/-- A reading leaves nothing that could be read. -/
theorem incomplete_unread (limit : PayloadLimit) (bytes : List UInt8) :
    Incomplete limit (read limit bytes).2 := by
  induction bytes using step_induction limit with
  | hincomplete bytes hbytes =>
      rw [hbytes.read_eq]
      exact hbytes
  | hstep bytes findings rest hstep ih =>
      rw [hstep.read_eq]
      exact ih

/-- Bytes that arrive later are read after the rest that was left. -/
theorem read_append (limit : PayloadLimit) (first second : List UInt8) :
    read limit (first ++ second) =
      ((read limit first).1 ++ (read limit ((read limit first).2 ++ second)).1,
        (read limit ((read limit first).2 ++ second)).2) := by
  induction first using step_induction limit with
  | hincomplete bytes hbytes =>
      rw [hbytes.read_eq]
      rfl
  | hstep bytes findings rest hstep ih =>
      rw [(hstep.append second).read_eq, hstep.read_eq, ih, List.append_assoc]

theorem Incomplete.length_le {bytes : List UInt8} (hbytes : Incomplete limit bytes) :
    bytes.length ≤ limit.bytes + headerSize := by
  rcases hbytes with rfl | ⟨_, hshort | ⟨_, _, hsize, hmissing⟩⟩
  · exact Nat.zero_le _
  · omega
  · simp only [frameSize, checksumSize] at hmissing
    omega

/-- Frames that follow one another are read as their messages. -/
theorem read_frames {messages : List Message}
    (hfits : ∀ message ∈ messages, message.size ≤ limit.bytes) :
    read limit (messages.map Message.frame).flatten =
      (messages.map Finding.message, []) := by
  induction messages with
  | nil => simp [read]
  | cons message rest ih =>
      rw [List.forall_mem_cons] at hfits
      rw [List.map_cons, List.flatten_cons, (Step.frame hfits.1).read_eq, ih hfits.2]
      rfl

theorem messages_append (first second : List Finding) :
    messages (first ++ second) = messages first ++ messages second :=
  List.filterMap_append

end Stream

end AntHost
