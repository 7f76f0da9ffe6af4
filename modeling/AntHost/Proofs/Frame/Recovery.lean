import AntHost.Frame.Encode
import AntHost.Proofs.Frame.Run
/-!
# Recovery from damage

A line carries frames as they were written, noise, and damaged frames. As long as a damaged frame
holds no sync byte but its own, it costs one error and nothing else: every frame around it is
delivered. Payloads may hold sync bytes anywhere.
-/

namespace AntHost

namespace Deframer

open AntHost.Stream (Step)

variable {limit : PayloadLimit}

/-- A piece of what a line can carry. -/
inductive Block (limit : PayloadLimit) where
  /-- A message as it is framed into an output buffer with room for it. -/
  | frame (message : Message) (output : List UInt8) (hsize : message.size ≤ limit.bytes)
      (hroom : frameSize message.size ≤ output.length)
  | noise (bytes : List UInt8) (hquiet : syncByte ∉ bytes)
  /-- A frame of the declared length with a wrong checksum. -/
  | corrupt (length id : UInt8) (payload : List UInt8) (received : UInt8)
      (hlength : payload.length = length.toNat) (hsize : length.toNat ≤ limit.bytes)
      (hwrong : checksum (syncByte :: length :: id :: payload) ≠ received)
      (hquiet : syncByte ∉ length :: id :: (payload ++ [received]))
  /-- A header that declares more than the limit, and any bytes after it. -/
  | oversize (length id : UInt8) (rest : List UInt8) (hsize : limit.bytes < length.toNat)
      (hquiet : syncByte ∉ length :: id :: rest)

namespace Block

def bytes : Block limit → List UInt8
  | frame message output _ _ => (encodeRaw limit message.id message.payload output).bytes
  | noise bytes _ => bytes
  | corrupt length id payload received _ _ _ _ =>
      syncByte :: length :: id :: (payload ++ [received])
  | oversize length id rest _ _ => syncByte :: length :: id :: rest

/-- What the block amounts to. -/
def finding? : Block limit → Option Finding
  | frame message _ _ _ => some (.message message)
  | noise _ _ => none
  | corrupt length id payload received _ _ _ _ =>
      some (.fault (.badChecksum received (checksum (syncByte :: length :: id :: payload))))
  | oversize length _ _ _ _ => some (.fault (.oversize length.toNat limit.bytes))

end Block

theorem read_of_noise {bytes : List UInt8} (hquiet : syncByte ∉ bytes) :
    Stream.read limit bytes = ([], []) := by
  induction bytes with
  | nil => rw [Stream.read]
  | cons first rest ih =>
      rw [List.mem_cons, not_or] at hquiet
      obtain ⟨hfirst, hrest⟩ := hquiet
      rw [(Step.noise (Ne.symm hfirst)).read_eq, ih hrest]
      rfl

/-- A block on its own is read completely. -/
theorem read_block (block : Block limit) :
    Stream.read limit block.bytes = (block.finding?.toList, []) := by
  cases block with
  | frame message output hsize hroom =>
      have hbytes : (encodeRaw limit message.id message.payload output).bytes =
          message.frame ++ [] := by
        rw [encodeRaw_of_fits message.id hsize hroom, List.append_nil]
        rfl
      rw [Block.bytes, hbytes, (Step.frame hsize).read_eq, Stream.read]
      rfl
  | noise bytes hquiet => exact read_of_noise hquiet
  | corrupt length id payload received hlength hsize hwrong hquiet =>
      rw [Block.bytes, (Step.badChecksum hlength hsize hwrong).read_eq, read_of_noise hquiet]
      rfl
  | oversize length id rest hsize hquiet =>
      rw [Block.bytes, (Step.oversize hsize).read_eq, read_of_noise hquiet]
      rfl

/-- No block is cut by the damage in front of it. -/
theorem read_blocks (blocks : List (Block limit)) :
    Stream.read limit (blocks.flatMap Block.bytes) = (blocks.filterMap Block.finding?, []) := by
  induction blocks with
  | nil => rw [List.flatMap_nil, Stream.read, List.filterMap_nil]
  | cons block rest ih =>
      rw [List.flatMap_cons, Stream.read_append, read_block, List.nil_append, ih]
      cases hfinding : block.finding? <;> simp [hfinding]

/-- However a line's blocks are cut into chunks and whenever they are pulled, pulling on comes to
two answers in a row that are nothing. By then every frame was answered unchanged and every damaged
block by one error, in the order of the line, and no byte is kept. -/
theorem run_recovers_blocks (limit : PayloadLimit) (blocks : List (Block limit))
    (actions : List Action) (hpushed : pushed actions = blocks.flatMap Block.bytes) :
    (∃ pulls, Settles { limit } (actions ++ List.replicate pulls .pull)) ∧
      ∀ pulls, Settles { limit } (actions ++ List.replicate pulls .pull) →
        found (run { limit } (actions ++ List.replicate pulls .pull)).1 =
            blocks.filterMap Block.finding? ∧
          (run { limit } (actions ++ List.replicate pulls .pull)).2.buffer = [] := by
  refine ⟨exists_settles _ actions, ?_⟩
  intro pulls hsettles
  have hread := hsettles.read_eq
  rw [pushed_append, pushed_replicate_pull, List.append_nil, hpushed, read_blocks] at hread
  exact ⟨(congrArg Prod.fst hread).symm, (congrArg Prod.snd hread).symm⟩

/-- Sync bytes in a payload, noise, a wrong checksum and an excessive length, cut in the middle. -/
theorem run_recovers_blocks_of_mixture :
    ∃ pulls,
      Settles { limit := .ofNat 9 }
          ([.push [0x13, 0xA4, 0x02, 0x4E], .pull,
            .push [0xA4, 0xA4, 0xE8, 0xA4, 0x01, 0x6F], .pull,
            .push [0x20, 0xEB, 0xA4, 0x0A, 0x4E, 0xA4, 0x00, 0x40, 0xE4]] ++
              List.replicate pulls .pull) ∧
        found (run { limit := .ofNat 9 }
          ([.push [0x13, 0xA4, 0x02, 0x4E], .pull,
            .push [0xA4, 0xA4, 0xE8, 0xA4, 0x01, 0x6F], .pull,
            .push [0x20, 0xEB, 0xA4, 0x0A, 0x4E, 0xA4, 0x00, 0x40, 0xE4]] ++
              List.replicate pulls .pull)).1 =
          [.message ⟨0x4E, [0xA4, 0xA4], by decide⟩, .fault (.badChecksum 0xEB 0xEA),
            .fault (.oversize 10 9), .message ⟨0x40, [], by decide⟩] := by
  have hrecovers := run_recovers_blocks (.ofNat 9)
    [.noise [0x13] (by decide),
      .frame ⟨0x4E, [0xA4, 0xA4], by decide⟩ emptyFrameBuffer (by decide) (by decide),
      .corrupt 1 0x6F [0x20] 0xEB rfl (by decide) (by decide) (by decide),
      .oversize 10 0x4E [] (by decide) (by decide),
      .frame ⟨0x40, [], by decide⟩ emptyFrameBuffer (by decide) (by decide)]
    [.push [0x13, 0xA4, 0x02, 0x4E], .pull,
      .push [0xA4, 0xA4, 0xE8, 0xA4, 0x01, 0x6F], .pull,
      .push [0x20, 0xEB, 0xA4, 0x0A, 0x4E, 0xA4, 0x00, 0x40, 0xE4]] rfl
  obtain ⟨pulls, hpulls⟩ := hrecovers.1
  exact ⟨pulls, hpulls, (hrecovers.2 pulls hpulls).1⟩

end Deframer

end AntHost
