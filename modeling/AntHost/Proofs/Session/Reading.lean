import AntHost.Proofs.Frame.Pull
import AntHost.Proofs.Session.Routing
/-!
# The reading loop

The router pulls until nothing more is there and pulls once more after every fault. Each turn of
this loop takes bytes out of the buffer, so it ends on any input; it ends with a buffer that holds
less than one frame, and what it hands on does not depend on how the link cut the stream.
-/

namespace AntHost

namespace Deframer

open AntHost.Stream (Step Incomplete)

/-- One turn of the loop: nothing when it breaks off, else the message it hands on, if there is
one, and the deframer for the next turn. -/
def turn (deframer : Deframer) : Option (Option Message × Deframer) :=
  match deframer.pull with
  | (.ok none, _) => none
  | (.ok (some message), next) => some (some message, next)
  | (.error _, next) => some (none, next.pull.2)

/-- What the loop hands on and leaves if it ends within some turns. -/
def readTurns : Nat → Deframer → Option (List Message × Deframer)
  | 0, _ => none
  | turns + 1, deframer =>
      match deframer.turn with
      | none => some ([], deframer.pull.2)
      | some (message?, next) =>
          (readTurns turns next).map fun (messages, last) => (message?.toList ++ messages, last)

theorem pull_after_fault {deframer next : Deframer} {error : FramingError}
    (hpull : deframer.pull = (.error error, next)) : next.pull.1 = .ok none := by
  have hpulled := deframer.pulled
  rw [hpull] at hpulled
  cases hpulled with
  | fault _ _ _ => rw [pull_of_rejecting rfl]

theorem turn_shrinks {deframer next : Deframer} {message? : Option Message}
    (hturn : deframer.turn = some (message?, next)) :
    next.buffer.length < deframer.buffer.length := by
  unfold turn at hturn
  split at hturn
  next => cases hturn
  next message middle hpull =>
    cases hturn
    exact length_pull_message hpull
  next error middle hpull =>
    cases hturn
    exact length_pull_error hpull

theorem readAll_of_turn (deframer : Deframer) :
    deframer.readAll =
      match deframer.turn with
      | none => ([], deframer.pull.2)
      | some (message?, next) => (message?.toList ++ next.readAll.1, next.readAll.2) := by
  rw [readAll, turn]
  split <;> simp [*]

/-- The loop ends after at most one turn more than there are bytes. -/
theorem readTurns_eq (turns : Nat) (deframer : Deframer) (hturns : deframer.buffer.length < turns) :
    readTurns turns deframer = some deframer.readAll := by
  induction turns generalizing deframer with
  | zero => omega
  | succ turns ih =>
      rw [readTurns, readAll_of_turn]
      cases hturn : deframer.turn with
      | none => rfl
      | some result =>
          -- every turn takes a byte, so the turns never run out before the bytes
          obtain ⟨message?, next⟩ := result
          have hshrinks := turn_shrinks hturn
          simp only [ih next (by omega), Option.map_some]

/-- The loop hands on the messages of the reading of its buffer and leaves the unread rest. -/
theorem readAll_eq (deframer : Deframer) (hidle : deframer.rejecting = false) :
    deframer.readAll =
      (Stream.messages (Stream.read deframer.limit deframer.buffer).1,
        ⟨deframer.limit, (Stream.read deframer.limit deframer.buffer).2, false⟩) := by
  induction hsize : deframer.buffer.length using Nat.strongRecOn generalizing deframer with
  | ind size ih =>
      have haligned := length_fromSync_le deframer.buffer
      have hpulled := deframer.pulled
      rw [readAll_of_turn, ← read_fromSync]
      cases hpull : deframer.pull with
      | mk answer next =>
          rw [hpull] at hpulled
          cases hpulled with
          | absorbed hrejecting => exact absurd (hidle.symm.trans hrejecting) Bool.false_ne_true
          | waiting _ hbytes =>
              simp only [turn, hpull]
              rw [hbytes.read_eq]
              rfl
          | @message message rest _ hstep =>
              have hshorter := hstep.length_lt
              have hnext := ih rest.length (by omega) ⟨deframer.limit, rest, false⟩ rfl rfl
              simp only [turn, hpull, hnext]
              rw [hstep.read_eq, Stream.messages_append]
              rfl
          | @fault error rest _ hbuffer hstep =>
              have hrest := length_fromSync_le rest
              rw [hbuffer, List.length_cons] at haligned
              have hnext := ih (fromSync rest).length (by omega)
                ⟨deframer.limit, fromSync rest, false⟩ rfl rfl
              simp only [read_fromSync] at hnext
              simp only [turn, hpull, pull_of_rejecting, List.drop_succ_cons, List.drop_zero, hnext]
              rw [hbuffer, hstep.read_eq, Stream.messages_append]
              rfl

end Deframer

namespace Session

open AntHost.Stream (Incomplete)

variable {H β : Type}

/-- The sessions whose router has read a stream in chunks and has handed on these messages. In
between anything may happen to a session but for its deframer. -/
inductive HasRead (config : Config) : List UInt8 → List Message → Session H β → Prop where
  | start : HasRead config [] [] (.start config)
  | chunk {stream : List UInt8} {messages : List Message} {session : Session H β}
      (bytes : List UInt8) (hread : HasRead config stream messages session) :
      HasRead config (stream ++ bytes) (messages ++ (session.takeChunk bytes).1)
        (session.takeChunk bytes).2
  | aside {stream : List UInt8} {messages : List Message} {session other : Session H β}
      (hread : HasRead config stream messages session)
      (hdeframer : other.deframer = session.deframer) : HasRead config stream messages other

namespace HasRead

variable {config : Config} {stream : List UInt8} {messages : List Message} {session : Session H β}

/-- What the router has is what the reading of the whole stream found and left. -/
theorem read_eq (hread : HasRead config stream messages session) :
    messages = Stream.messages (Stream.read config.limit stream).1 ∧
      session.deframer = ⟨config.limit, (Stream.read config.limit stream).2, false⟩ := by
  induction hread with
  | start =>
      rw [(Incomplete.read_eq (.inl rfl) : Stream.read config.limit [] = ([], []))]
      exact ⟨rfl, rfl⟩
  | @chunk stream messages session bytes _ ih =>
      obtain ⟨rfl, hdeframer⟩ := ih
      have hchunk : session.deframer.readChunk bytes =
          (Stream.messages (Stream.read config.limit
              ((Stream.read config.limit stream).2 ++ bytes)).1,
            ⟨config.limit, (Stream.read config.limit
              ((Stream.read config.limit stream).2 ++ bytes)).2, false⟩) := by
        rw [hdeframer]
        exact Deframer.readAll_eq _ rfl
      rw [Stream.read_append, Stream.messages_append]
      simp only [takeChunk, hchunk, and_self]
  | aside _ hother ih => exact ⟨ih.1, hother.trans ih.2⟩

/-- Routing happens aside of the reading. -/
theorem route [DecidableEq β] (hread : HasRead config stream messages session)
    (message : Message) : HasRead config stream messages (session.route message).2 := by
  apply hread.aside
  rw [session.route_frame message]

end HasRead

/-- On every chunk the reading loop ends, since a pull after a fault answers nothing and every turn
shortens the buffer. It leaves less than one frame, and the messages handed on so far are those of a
single chunk with everything in it. -/
theorem takeChunk_ends_bounded {config : Config} {stream : List UInt8} {messages : List Message}
    {session : Session H β} (hread : HasRead config stream messages session)
    (bytes : List UInt8) :
    Deframer.readTurns (session.deframer.buffer.length + bytes.length + 1)
          (session.deframer.push bytes) =
        some ((session.takeChunk bytes).1, (session.takeChunk bytes).2.deframer) ∧
      (∀ deframer : Deframer,
        (∀ error next, deframer.pull = (.error error, next) → next.pull.1 = .ok none) ∧
          ∀ message? next, deframer.turn = some (message?, next) →
            next.buffer.length < deframer.buffer.length) ∧
      (session.takeChunk bytes).2.deframer.rejecting = false ∧
      Incomplete config.limit (session.takeChunk bytes).2.deframer.buffer ∧
      (session.takeChunk bytes).2.deframer.buffer.length ≤ config.limit.bytes + headerSize ∧
      messages ++ (session.takeChunk bytes).1 =
        ((start config : Session H β).takeChunk (stream ++ bytes)).1 := by
  obtain ⟨hmessages, hdeframer⟩ := (hread.chunk bytes).read_eq
  have hfresh : HasRead config [] [] (start config : Session H β) := .start
  have hwhole := hfresh.chunk (stream ++ bytes)
  have hincomplete : Incomplete config.limit (session.takeChunk bytes).2.deframer.buffer := by
    rw [hdeframer]
    exact Stream.incomplete_unread config.limit (stream ++ bytes)
  refine ⟨?_, ?_, ?_, hincomplete, hincomplete.length_le, ?_⟩
  · apply Deframer.readTurns_eq
    simp only [Deframer.push, List.length_append]
    omega
  · intro deframer
    exact ⟨fun error next => Deframer.pull_after_fault,
      fun message? next => Deframer.turn_shrinks⟩
  · rw [hdeframer]
  · rw [hmessages]
    exact hwhole.read_eq.1.symm

/-- An excessive length and a frame that the link cuts, with a message routed in between. -/
theorem takeChunk_ends_bounded_of_cut :
    ∃ (messages : List Message) (session : Session Nat Nat),
      HasRead { maxPayload := 9 } [0xA4, 0x0A, 0x4E, 0xA4] messages session ∧
        (session.takeChunk [0x01, 0x6F, 0x20, 0xEA, 0xA4]).2.deframer.buffer.length ≤ 12 ∧
        messages ++ (session.takeChunk [0x01, 0x6F, 0x20, 0xEA, 0xA4]).1 =
          ((start { maxPayload := 9 } : Session Nat Nat).takeChunk
            [0xA4, 0x0A, 0x4E, 0xA4, 0x01, 0x6F, 0x20, 0xEA, 0xA4]).1 := by
  have hfresh : HasRead { maxPayload := 9 } [] [] (start { maxPayload := 9 } : Session Nat Nat) :=
    .start
  have hread := (hfresh.chunk [0xA4, 0x0A, 0x4E, 0xA4]).route ⟨0x6F, [0x20], by decide⟩
  have hsound := takeChunk_ends_bounded hread [0x01, 0x6F, 0x20, 0xEA, 0xA4]
  exact ⟨_, _, hread, hsound.2.2.2.2.1, hsound.2.2.2.2.2⟩

end Session

end AntHost
