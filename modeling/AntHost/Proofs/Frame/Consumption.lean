import Mathlib.Data.List.TakeWhile
import AntHost.Frame.Encode
import AntHost.Proofs.Frame.Run
/-!
# What becomes of every byte

A deframer takes bytes from the front of its buffer when it skips noise, when it completes the
rejection of a frame, and when it answers a message. What it has taken so far and what it still
holds are together what was pushed, byte for byte; and a sync byte is taken as the start of a
message, or alone after its frame was refused, and in no other way.
-/

namespace AntHost

namespace Deframer

open AntHost.Stream (Step)

variable {limit : PayloadLimit}

/-- Bytes that leave the buffer together. -/
inductive Piece (limit : PayloadLimit) where
  | noise (bytes : List UInt8) (hquiet : syncByte ∉ bytes)
  /-- The sync byte of a frame that was refused. -/
  | refused (error : FramingError)
  | frame (message : Message) (hsize : message.size ≤ limit.bytes)

namespace Piece

def bytes : Piece limit → List UInt8
  | noise bytes _ => bytes
  | refused _ => [syncByte]
  | frame message _ => message.frame

/-- What the piece was answered as. -/
def finding? : Piece limit → Option Finding
  | noise _ _ => none
  | refused error => some (.fault error)
  | frame message _ => some (.message message)

/-- The noise in front of the first sync byte. -/
def skipped (bytes : List UInt8) : Piece limit :=
  .noise (bytes.takeWhile (· != syncByte)) fun hmem =>
    absurd (List.mem_takeWhile_imp hmem) (by simp)

theorem bytes_skipped_append (bytes : List UInt8) :
    (skipped bytes : Piece limit).bytes ++ fromSync bytes = bytes :=
  List.takeWhile_append_dropWhile

end Piece

/-- The findings whose bytes are gone: all that were answered, but for a fault that no pull has
followed yet. -/
def completed (answers : List Answer) : List Finding :=
  match answers.getLast? with
  | some (.error _) => found answers.dropLast
  | _ => found answers

theorem completed_concat_ok (answers : List Answer) (answer : Option Message) :
    completed (answers ++ [.ok answer]) = found (answers ++ [.ok answer]) := by
  rw [completed, List.getLast?_concat]

theorem completed_concat_error (answers : List Answer) (error : FramingError) :
    completed (answers ++ [.error error]) = found answers := by
  rw [completed, List.getLast?_concat, List.dropLast_concat]

/-- A message leaves the buffer with its answer. -/
theorem mem_completed_of_message {answers : List Answer} {message : Message}
    (hanswer : .ok (some message) ∈ answers) : .message message ∈ completed answers := by
  rcases List.eq_nil_or_concat answers with rfl | ⟨earlier, last, rfl⟩
  · cases hanswer
  · rw [List.concat_eq_append] at hanswer ⊢
    cases last with
    | ok answer =>
        rw [completed_concat_ok]
        exact List.mem_filterMap.mpr ⟨_, hanswer, rfl⟩
    | error error =>
        rw [completed_concat_error]
        rcases List.mem_append.mp hanswer with hearlier | hlast
        · exact List.mem_filterMap.mpr ⟨_, hearlier, rfl⟩
        · cases List.mem_singleton.mp hlast

/-- A message that is read stands in the stream as its frame, and fits the limit. -/
theorem frame_of_step {bytes rest : List UInt8} {message : Message}
    (hstep : Step limit bytes [.message message] rest) :
    message.size ≤ limit.bytes ∧ bytes = message.frame ++ rest := by
  cases hstep with
  | frame hsize => exact ⟨hsize, rfl⟩

/-! ## The balance -/

/-- The bytes given to a deframer, the pieces it has taken of them and the buffer it holds, next to
what it has answered. -/
structure Balances (stream : List UInt8) (answers : List Answer) (pieces : List (Piece limit))
    (deframer : Deframer) : Prop where
  limit_eq : deframer.limit = limit
  stream_eq : stream = pieces.flatMap Piece.bytes ++ deframer.buffer
  findings_eq : pieces.filterMap Piece.finding? = completed answers
  /-- The last answer was a fault, and the sync byte of its frame is still there. -/
  reported : deframer.rejecting = true →
    ∃ earlier error rest, answers = earlier ++ [.error error] ∧
      deframer.buffer = syncByte :: rest
  completed_eq : deframer.rejecting = false → completed answers = found answers

namespace Balances

variable {stream : List UInt8} {answers : List Answer} {pieces : List (Piece limit)}
  {deframer : Deframer}

theorem fresh (limit : PayloadLimit) : Balances [] [] ([] : List (Piece limit)) { limit } :=
  ⟨rfl, rfl, rfl, fun hrejecting => absurd hrejecting Bool.false_ne_true, fun _ => rfl⟩

theorem push (hbalances : Balances stream answers pieces deframer) (bytes : List UInt8) :
    Balances (stream ++ bytes) answers pieces (deframer.push bytes) where
  limit_eq := hbalances.limit_eq
  stream_eq := by rw [hbalances.stream_eq, List.append_assoc]; rfl
  findings_eq := hbalances.findings_eq
  reported hrejecting := by
    obtain ⟨earlier, error, rest, hanswers, hbuffer⟩ := hbalances.reported hrejecting
    refine ⟨earlier, error, rest ++ bytes, hanswers, ?_⟩
    rw [Deframer.push, hbuffer, List.cons_append]
  completed_eq := hbalances.completed_eq

/-- What an idle deframer has taken is what it has answered. -/
theorem findings_of_idle (hbalances : Balances stream answers pieces deframer)
    (hidle : deframer.rejecting = false) : pieces.filterMap Piece.finding? = found answers :=
  hbalances.findings_eq.trans (hbalances.completed_eq hidle)

/-- Skipping to the next sync byte takes noise. -/
theorem stream_eq_skipped (hbalances : Balances stream answers pieces deframer) :
    stream = (pieces ++ [Piece.skipped deframer.buffer]).flatMap Piece.bytes ++
      fromSync deframer.buffer := by
  rw [List.flatMap_append, List.flatMap_singleton, List.append_assoc,
    Piece.bytes_skipped_append, hbalances.stream_eq]

/-- Every pull takes the noise in front of its frame; what else it takes depends on its answer. -/
theorem pull (hbalances : Balances stream answers pieces deframer) :
    ∃ taken, Balances stream (answers ++ [deframer.pull.1]) (pieces ++ taken) deframer.pull.2 := by
  have hpulled := deframer.pulled
  generalize deframer.pull.1 = answer, deframer.pull.2 = next at hpulled
  cases hpulled with
  | absorbed hrejecting =>
      obtain ⟨earlier, error, rest, hanswers, hbuffer⟩ := hbalances.reported hrejecting
      have hearlier : pieces.filterMap Piece.finding? = found earlier := by
        rw [hbalances.findings_eq, hanswers, completed_concat_error]
      refine ⟨[.refused error, .skipped rest], hbalances.limit_eq, ?_, ?_, nofun,
        fun _ => completed_concat_ok _ _⟩
      · rw [hbuffer, List.drop_one, List.tail_cons, hbalances.stream_eq, hbuffer,
          List.flatMap_append, List.append_assoc]
        change _ = _ ++ (syncByte :: ((Piece.skipped rest : Piece limit).bytes ++ []) ++ _)
        rw [List.append_nil, List.cons_append, Piece.bytes_skipped_append]
      · rw [completed_concat_ok, hanswers, found_append, found_append, List.filterMap_append,
          hearlier, List.append_assoc]
        rfl
  | waiting hidle _ =>
      refine ⟨[.skipped deframer.buffer], hbalances.limit_eq, hbalances.stream_eq_skipped, ?_,
        nofun, fun _ => completed_concat_ok _ _⟩
      rw [completed_concat_ok, found_append, List.filterMap_append,
        hbalances.findings_of_idle hidle]
      rfl
  | @message message rest hidle hstep =>
      rw [hbalances.limit_eq] at hstep
      obtain ⟨hsize, hframe⟩ := frame_of_step hstep
      refine ⟨[.skipped deframer.buffer, .frame message hsize], hbalances.limit_eq, ?_, ?_, nofun,
        fun _ => completed_concat_ok _ _⟩
      · have hskipped := hbalances.stream_eq_skipped
        rw [hframe, ← List.append_assoc] at hskipped
        rw [hskipped]
        simp [Piece.bytes]
      · rw [completed_concat_ok, found_append, List.filterMap_append,
          hbalances.findings_of_idle hidle]
        rfl
  | @fault error rest hidle hbuffer _ =>
      refine ⟨[.skipped deframer.buffer], hbalances.limit_eq, ?_, ?_,
        fun _ => ⟨answers, error, rest, rfl, rfl⟩, nofun⟩
      · rw [← hbuffer]
        exact hbalances.stream_eq_skipped
      · rw [completed_concat_error, List.filterMap_append, hbalances.findings_of_idle hidle]
        exact List.append_nil _

/-- What was taken stays taken, and a run takes more behind it. -/
theorem run (hbalances : Balances stream answers pieces deframer) (actions : List Action) :
    ∃ taken, Balances (stream ++ pushed actions) (answers ++ (deframer.run actions).1)
      (pieces ++ taken) (deframer.run actions).2 := by
  induction actions generalizing stream answers pieces deframer with
  | nil =>
      refine ⟨[], ?_⟩
      simpa [pushed, Deframer.run] using hbalances
  | cons action rest ih =>
      cases action with
      | push bytes =>
          obtain ⟨taken, hlast⟩ := ih (hbalances.push bytes)
          rw [List.append_assoc] at hlast
          exact ⟨taken, hlast⟩
      | pull =>
          obtain ⟨first, hnext⟩ := hbalances.pull
          obtain ⟨later, hlast⟩ := ih hnext
          rw [List.append_assoc, List.append_assoc] at hlast
          exact ⟨first ++ later, hlast⟩

end Balances

/-- These are the pieces that a fresh deframer has taken, in order, when the actions are done. -/
structure Consumes (limit : PayloadLimit) (actions : List Action) (pieces : List (Piece limit)) :
    Prop where
  pushed_eq : pushed actions = pieces.flatMap Piece.bytes ++ (run { limit } actions).2.buffer
  findings_eq : pieces.filterMap Piece.finding? = completed (run { limit } actions).1

theorem Balances.consumes {actions : List Action} {pieces : List (Piece limit)}
    (hbalances : Balances (pushed actions) (Deframer.run { limit } actions).1 pieces
      (Deframer.run { limit } actions).2) : Consumes limit actions pieces :=
  ⟨hbalances.stream_eq, hbalances.findings_eq⟩

/-- At every moment of a run the bytes pushed are the pieces taken and the buffer, one behind the
other, and what is taken stays taken. The pieces are noise without a sync byte, the sync byte of
every fault that a pull has followed, and for every message the bytes that framing it under the same
limit gives. -/
theorem run_conserves_bytes (limit : PayloadLimit) (actions : List Action) :
    (∃ pieces, Consumes limit actions pieces ∧
        ∀ later, ∃ more, Consumes limit (actions ++ later) (pieces ++ more)) ∧
      ∀ message, .ok (some message) ∈ (run { limit } actions).1 →
        message.size ≤ limit.bytes ∧
          ∀ output, frameSize message.size ≤ output.length →
            (encodeRaw limit message.id message.payload output).1 = .ok message.frame := by
  obtain ⟨pieces, hbalances⟩ := (Balances.fresh limit).run actions
  refine ⟨⟨pieces, hbalances.consumes, fun later => ?_⟩, fun message hanswer => ?_⟩
  · obtain ⟨more, hlater⟩ := hbalances.run later
    rw [List.append_assoc, ← pushed_append] at hlater
    have hrun := run_append { limit } actions later
    refine ⟨more, Balances.consumes ?_⟩
    rw [hrun]
    exact hlater
  · have hcompleted := mem_completed_of_message hanswer
    rw [← hbalances.consumes.findings_eq] at hcompleted
    obtain ⟨piece, _, hpiece⟩ := List.mem_filterMap.mp hcompleted
    cases piece with
    | noise _ _ => cases hpiece
    | refused _ => cases hpiece
    | frame found hsize =>
        cases hpiece
        refine ⟨hsize, fun output hroom => ?_⟩
        rw [encodeRaw_of_fits message.id hsize hroom]
        rfl

/-- A refused frame holds the start of a whole one, and behind that an excessive length is refused
but not dropped yet. -/
theorem run_conserves_bytes_of_nested :
    (∃ pieces, Consumes (.ofNat 9)
        [.push [0x13, 0xA4, 0x02, 0x4E, 0xA4], .pull, .push [0x01, 0x6F], .pull, .pull,
          .push [0x20, 0xEA, 0xA4, 0x0A, 0x40], .pull, .pull] pieces ∧
      pieces.flatMap Piece.bytes = [0x13, 0xA4, 0x02, 0x4E, 0xA4, 0x01, 0x6F, 0x20, 0xEA] ∧
      pieces.filterMap Piece.finding? =
        [.fault (.badChecksum 0x6F 0x4D), .message ⟨0x6F, [0x20], by decide⟩]) ∧
      (encodeRaw (.ofNat 9) 0x6F [0x20] (List.replicate 5 0)).1 =
        .ok [0xA4, 0x01, 0x6F, 0x20, 0xEA] := by
  obtain ⟨⟨pieces, hpieces, _⟩, hmessages⟩ := run_conserves_bytes (.ofNat 9)
    [.push [0x13, 0xA4, 0x02, 0x4E, 0xA4], .pull, .push [0x01, 0x6F], .pull, .pull,
      .push [0x20, 0xEA, 0xA4, 0x0A, 0x40], .pull, .pull]
  refine ⟨⟨pieces, hpieces, ?_, hpieces.findings_eq⟩, ?_⟩
  · have hpushed : [0x13, 0xA4, 0x02, 0x4E, 0xA4, 0x01, 0x6F, 0x20, 0xEA] ++ [0xA4, 0x0A, 0x40] =
        pieces.flatMap Piece.bytes ++ [0xA4, 0x0A, 0x40] := hpieces.pushed_eq
    exact (List.append_cancel_right hpushed).symm
  · exact (hmessages ⟨0x6F, [0x20], by decide⟩ (by decide)).2 (List.replicate 5 0) (by decide)

end Deframer

end AntHost
