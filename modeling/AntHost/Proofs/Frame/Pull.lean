import AntHost.Frame.Deframer
import AntHost.Proofs.Frame.Stream
/-!
# Pulling messages

`Pulled` says what one pull can answer and leave. From it follows what a deframer still owes after
any run of pushes and pulls: the reading of its unread bytes continues what it has answered so far
to the reading of everything it was given.
-/

namespace AntHost

namespace Deframer

open AntHost.Stream (Step Incomplete)

abbrev Answer := Except FramingError (Option Message)

/-! ## One pull -/

/-- What a pull can answer, and what it leaves. -/
inductive Pulled (deframer : Deframer) : Answer → Deframer → Prop where
  | absorbed (hrejecting : deframer.rejecting = true) :
      Pulled deframer (.ok none)
        { deframer with buffer := fromSync (deframer.buffer.drop 1), rejecting := false }
  | waiting (hidle : deframer.rejecting = false)
      (hbytes : Incomplete deframer.limit (fromSync deframer.buffer)) :
      Pulled deframer (.ok none)
        { deframer with buffer := fromSync deframer.buffer, rejecting := false }
  | message {message : Message} {rest : List UInt8} (hidle : deframer.rejecting = false)
      (hstep : Step deframer.limit (fromSync deframer.buffer) [.message message] rest) :
      Pulled deframer (.ok (some message)) { deframer with buffer := rest, rejecting := false }
  | fault {error : FramingError} {rest : List UInt8} (hidle : deframer.rejecting = false)
      (hbuffer : fromSync deframer.buffer = syncByte :: rest)
      (hstep : Step deframer.limit (syncByte :: rest) [.fault error] rest) :
      Pulled deframer (.error error)
        { deframer with buffer := syncByte :: rest, rejecting := true }

theorem fromSync_cons (first : UInt8) (rest : List UInt8) :
    fromSync (first :: rest) = if first = syncByte then first :: rest else fromSync rest := by
  by_cases hfirst : first = syncByte <;> simp [fromSync, hfirst]

theorem fromSync_eq_nil_or (bytes : List UInt8) :
    fromSync bytes = [] ∨ ∃ rest, fromSync bytes = syncByte :: rest := by
  induction bytes with
  | nil => exact .inl rfl
  | cons first rest ih =>
      rw [fromSync_cons]
      split
      next hfirst => exact .inr ⟨rest, by rw [hfirst]⟩
      next => exact ih

/-- Skipping to the next sync byte finds nothing. -/
theorem read_fromSync (limit : PayloadLimit) (bytes : List UInt8) :
    Stream.read limit (fromSync bytes) = Stream.read limit bytes := by
  induction bytes with
  | nil => rfl
  | cons first rest ih =>
      rw [fromSync_cons]
      split
      next => rfl
      next hfirst =>
        rw [ih, (Step.noise hfirst).read_eq]
        rfl

theorem readFrame_of_incomplete {limit : PayloadLimit} {bytes : List UInt8}
    (hbytes : Incomplete limit bytes) : readFrame limit bytes = .ok none := by
  unfold readFrame
  split
  next first length id rest =>
    simp only [Incomplete, reduceCtorEq, List.length_cons, headerSize, List.getElem?_cons_succ,
      List.getElem?_cons_zero, Option.some.injEq, false_or] at hbytes
    obtain ⟨_, hshort | ⟨declared, rfl, hsize, hmissing⟩⟩ := hbytes
    · omega
    · simp [hsize, hmissing]
  next => rfl

theorem readFrame_message {limit : PayloadLimit} {bytes rest : List UInt8} {message : Message}
    (hstep : Step limit bytes [.message message] rest) :
    readFrame limit bytes = .ok (some message) ∧ bytes.drop (frameSize message.size) = rest := by
  cases hstep with
  | frame hsize =>
      have hdrop : (message.frame ++ rest).drop (frameSize message.size) = rest := by
        rw [Message.size, ← length_frameBytes message.id, ← Message.frame, List.drop_left]
      refine ⟨?_, hdrop⟩
      obtain ⟨id, payload, hle⟩ := message
      have hlength := Stream.toNat_ofNat_size ⟨id, payload, hle⟩
      simp only [Message.size] at hsize hlength
      simp only [Message.frame, frameBytes, frameBody, List.cons_append, List.append_assoc,
        List.nil_append]
      unfold readFrame
      simp [hlength, hsize, frameSize, headerSize, checksumSize]

theorem readFrame_fault {limit : PayloadLimit} {bytes rest : List UInt8} {error : FramingError}
    (hstep : Step limit bytes [.fault error] rest) :
    readFrame limit bytes = .error error ∧ bytes = syncByte :: rest := by
  cases hstep with
  | oversize hsize =>
      refine ⟨?_, rfl⟩
      unfold readFrame
      simp [Nat.not_le.mpr hsize]
  | badChecksum hlength hsize hwrong =>
      refine ⟨?_, rfl⟩
      unfold readFrame
      simp [← hlength, hlength ▸ hsize, hwrong, frameSize, headerSize, checksumSize]

/-- Bytes that start with a sync byte begin with no noise. -/
theorem step_of_sync {limit : PayloadLimit} {bytes rest : List UInt8} {findings : List Finding}
    (hstep : Step limit (syncByte :: bytes) findings rest) :
    (∃ message, findings = [.message message]) ∨ ∃ error, findings = [.fault error] := by
  generalize hbytes : syncByte :: bytes = stream at hstep
  cases hstep with
  | noise hfirst => exact absurd (List.cons.inj hbytes).1.symm hfirst
  | oversize _ => exact .inr ⟨_, rfl⟩
  | badChecksum _ _ _ => exact .inr ⟨_, rfl⟩
  | frame _ => exact .inl ⟨_, rfl⟩

/-- Everything a pull can do. -/
theorem pulled (deframer : Deframer) : Pulled deframer deframer.pull.1 deframer.pull.2 := by
  cases hrejecting : deframer.rejecting with
  | true =>
      rw [pull_of_rejecting hrejecting]
      exact .absorbed hrejecting
  | false =>
      unfold pull
      simp only [hrejecting, Bool.false_eq_true, if_false]
      rcases Stream.incomplete_or_step deframer.limit (fromSync deframer.buffer) with
        hbytes | ⟨findings, rest, hstep⟩
      · simp only [readFrame_of_incomplete hbytes]
        exact .waiting hrejecting hbytes
      -- behind the noise there is a sync byte, so the step is a message or a fault
      · obtain hnil | ⟨tail, hsync⟩ := fromSync_eq_nil_or deframer.buffer
        · rw [hnil] at hstep
          exact absurd hstep.length_lt (Nat.not_lt_zero _)
        · obtain ⟨message, rfl⟩ | ⟨error, rfl⟩ := step_of_sync (hsync ▸ hstep)
          · obtain ⟨hread, hdrop⟩ := readFrame_message hstep
            simp only [hread, hdrop]
            exact .message hrejecting hstep
          · obtain ⟨hread, hbuffer⟩ := readFrame_fault hstep
            rw [hbuffer] at hread hstep
            simp only [hbuffer, hread]
            exact .fault hrejecting hbuffer hstep

theorem pull_limit (deframer : Deframer) : deframer.pull.2.limit = deframer.limit := by
  have hpulled := deframer.pulled
  generalize deframer.pull.1 = answer, deframer.pull.2 = next at hpulled
  cases hpulled <;> rfl

/-! ## What a deframer still owes -/

/-- What an answer found in the stream. -/
def finding? : Answer → Option Finding
  | .ok none => none
  | .ok (some message) => some (.message message)
  | .error error => some (.fault error)

def found (answers : List Answer) : List Finding := answers.filterMap finding?

/-- The bytes whose findings were not answered yet. The sync byte of a frame that was reported is
still there, but has nothing more to answer. -/
def unread (deframer : Deframer) : List UInt8 :=
  if deframer.rejecting then deframer.buffer.drop 1 else deframer.buffer

/-- A pull answers what the reading of the unread bytes finds first. -/
theorem read_unread_pull (deframer : Deframer) :
    Stream.read deframer.limit deframer.unread =
      ((finding? deframer.pull.1).toList ++
          (Stream.read deframer.limit deframer.pull.2.unread).1,
        (Stream.read deframer.limit deframer.pull.2.unread).2) := by
  have hpulled := deframer.pulled
  generalize deframer.pull.1 = answer, deframer.pull.2 = next at hpulled
  cases hpulled with
  | absorbed hrejecting =>
      simp only [unread, hrejecting, if_true, Bool.false_eq_true, if_false, finding?,
        read_fromSync, Option.toList_none, List.nil_append]
  | waiting hidle _ =>
      simp only [unread, hidle, Bool.false_eq_true, if_false, finding?, read_fromSync,
        Option.toList_none, List.nil_append]
  | message hidle hstep =>
      simp only [unread, hidle, Bool.false_eq_true, if_false, finding?, Option.toList_some]
      rw [← read_fromSync, hstep.read_eq]
  | fault hidle hbuffer hstep =>
      simp only [unread, hidle, Bool.false_eq_true, if_false, if_true, finding?,
        Option.toList_some, List.drop_succ_cons, List.drop_zero]
      rw [← read_fromSync, hbuffer, hstep.read_eq]

end Deframer

end AntHost
