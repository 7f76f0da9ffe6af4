import AntHost.Proofs.Command.Layout
import AntHost.Proofs.Frame.Consumption
/-!
# Damaged frames

A line flips bits of a frame behind its length: in the identifier, the payload and the checksum. The
frame still has its length, so it is read as a whole, and the exclusive or of its bytes changes by
the exclusive or of all flips. The damage is noticed unless the flips cancel out, which those within
one byte and those of odd number never do.
-/

namespace AntHost

/-! ## Checksums of flips -/

theorem checksum_cons (first : UInt8) (rest : List UInt8) :
    checksum (first :: rest) = first ^^^ checksum rest := by
  rw [checksum, List.foldl_cons, UInt8.xor_comm, List.foldl_assoc]
  rfl

theorem checksum_append (first second : List UInt8) :
    checksum (first ++ second) = checksum first ^^^ checksum second := by
  induction first with
  | nil => exact (UInt8.zero_xor ..).symm
  | cons byte rest ih => rw [List.cons_append, checksum_cons, ih, checksum_cons, UInt8.xor_assoc]

/-- Bytes with those bits flipped that the masks mark. -/
def flipped (bytes masks : List UInt8) : List UInt8 := List.zipWith (· ^^^ ·) bytes masks

theorem length_flipped {bytes masks : List UInt8} (hlength : masks.length = bytes.length) :
    (flipped bytes masks).length = bytes.length := by
  rw [flipped, List.length_zipWith, hlength, Nat.min_self]

/-- The checksum changes by the checksum of the flips. -/
theorem checksum_flipped {bytes masks : List UInt8} (hlength : masks.length = bytes.length) :
    checksum (flipped bytes masks) = checksum bytes ^^^ checksum masks := by
  induction bytes generalizing masks with
  | nil =>
      rw [List.length_eq_zero_iff.mp hlength]
      rfl
  | cons byte rest ih =>
      cases masks with
      | nil => cases hlength
      | cons mask others =>
          have hrest := ih (Nat.succ.inj hlength)
          rw [flipped] at hrest
          rw [flipped, List.zipWith_cons_cons, checksum_cons, hrest, checksum_cons, checksum_cons]
          ac_rfl

/-! ### Flips that do not cancel out -/

theorem checksum_eq_zero {masks : List UInt8} (hzero : ∀ mask ∈ masks, mask = 0) :
    checksum masks = 0 := by
  induction masks with
  | nil => rfl
  | cons mask others ih =>
      rw [List.forall_mem_cons] at hzero
      rw [checksum_cons, hzero.1, ih hzero.2]
      rfl

/-- Flips within one byte do not cancel out. -/
theorem checksum_ne_zero_of_one {masks : List UInt8} (hone : masks.countP (· != 0) = 1) :
    checksum masks ≠ 0 := by
  induction masks with
  | nil => cases hone
  | cons mask others ih =>
      rw [checksum_cons]
      by_cases hmask : mask = 0
      · rw [hmask, UInt8.zero_xor]
        refine ih ?_
        rwa [List.countP_cons_of_neg (by simp [hmask])] at hone
      · rw [List.countP_cons_of_pos (by simp [hmask])] at hone
        have hzero : ∀ other ∈ others, other = 0 := by
          simpa using List.countP_eq_zero.mp (Nat.succ.inj hone)
        rw [checksum_eq_zero hzero, UInt8.xor_zero]
        exact hmask

theorem byteBits_xor (first second : UInt8) :
    byteBits (first ^^^ second) = List.zipWith (· ^^ ·) (byteBits first) (byteBits second) := by
  simp only [byteBits, List.map_cons, List.map_nil, List.zipWith_cons_cons, List.zipWith_nil_left,
    UInt8.toNat_xor, Nat.testBit_xor]

/-- Bits that cancel out do so in pairs. -/
theorem count_zipWith_xor {first second : List Bool} (hlength : first.length = second.length) :
    (List.zipWith (· ^^ ·) first second).count true % 2 =
      (first.count true + second.count true) % 2 := by
  induction first generalizing second with
  | nil =>
      rw [List.length_eq_zero_iff.mp hlength.symm]
      rfl
  | cons bit rest ih =>
      cases second with
      | nil => cases hlength
      | cons other others =>
          have hrest := ih (Nat.succ.inj hlength)
          rw [List.zipWith_cons_cons]
          cases bit <;> cases other <;> simp <;> omega

theorem count_bitsOf_checksum (masks : List UInt8) :
    (byteBits (checksum masks)).count true % 2 = (bitsOf masks).count true % 2 := by
  induction masks with
  | nil => rfl
  | cons mask others ih =>
      -- of the bits of both, those that are flipped twice are lost
      have hlength : (byteBits mask).length = (byteBits (checksum others)).length := rfl
      have hbits : bitsOf (mask :: others) = byteBits mask ++ bitsOf others := List.flatMap_cons
      rw [checksum_cons, byteBits_xor, count_zipWith_xor hlength, hbits, List.count_append,
        Nat.add_mod, ih, ← Nat.add_mod]

/-- Flips of odd number do not cancel out. -/
theorem checksum_ne_zero_of_odd {masks : List UInt8}
    (hodd : (bitsOf masks).count true % 2 = 1) : checksum masks ≠ 0 := by
  intro hzero
  rw [← count_bitsOf_checksum, hzero] at hodd
  exact absurd hodd (by decide)

/-! ## Damage to a frame -/

/-- The bits that are flipped in the frame of a message behind its length. A byte that is left alone
has the mask 0. -/
structure Damage (message : Message) where
  id : UInt8
  payload : List UInt8
  checksum : UInt8
  length_payload : payload.length = message.size

namespace Damage

variable {message : Message}

/-- One mask for each byte from the identifier on. -/
def masks (damage : Damage message) : List UInt8 :=
  damage.id :: damage.payload ++ [damage.checksum]

/-- The frame as it arrives. -/
def bytes (damage : Damage message) : List UInt8 :=
  message.frame.take 2 ++ flipped (message.frame.drop 2) damage.masks

/-- The message that the damaged bytes stand for. -/
def altered (damage : Damage message) : Message :=
  ⟨message.id ^^^ damage.id, flipped message.payload damage.payload, by
    rw [length_flipped damage.length_payload]
    exact message.payload_le⟩

/-- The checksum that arrives. -/
def received (damage : Damage message) : UInt8 :=
  AntHost.checksum (frameBody message.id message.payload) ^^^ damage.checksum

theorem size_altered (damage : Damage message) : damage.altered.size = message.size :=
  length_flipped damage.length_payload

/-- Damaged bytes are the altered message up to their last, which is the damaged checksum. -/
theorem bytes_eq (damage : Damage message) :
    damage.bytes = frameBody damage.altered.id damage.altered.payload ++ [damage.received] := by
  have hsize : damage.altered.payload.length = message.payload.length := damage.size_altered
  have hlast : flipped
      (message.payload ++ [AntHost.checksum (frameBody message.id message.payload)])
      (damage.payload ++ [damage.checksum]) = damage.altered.payload ++ [damage.received] :=
    List.zipWith_append damage.length_payload.symm
  rw [frameBody, hsize, List.cons_append, List.cons_append, List.cons_append, ← hlast]
  rfl

/-- The checksum that arrives is right exactly if the flips cancel out. -/
theorem checksum_altered_eq_iff (damage : Damage message) :
    AntHost.checksum (frameBody damage.altered.id damage.altered.payload) = damage.received ↔
      AntHost.checksum damage.masks = 0 := by
  have hsize : damage.altered.payload.length = message.payload.length := damage.size_altered
  have hflipped : AntHost.checksum (damage.altered.id :: damage.altered.payload) =
      AntHost.checksum (message.id :: message.payload) ^^^
        AntHost.checksum (damage.id :: damage.payload) :=
    @checksum_flipped (message.id :: message.payload) (damage.id :: damage.payload)
      (congrArg Nat.succ damage.length_payload)
  have hcomputed : AntHost.checksum (frameBody damage.altered.id damage.altered.payload) =
      AntHost.checksum (frameBody message.id message.payload) ^^^
        AntHost.checksum (damage.id :: damage.payload) := by
    simp only [frameBody, hsize, checksum_cons syncByte, checksum_cons (UInt8.ofNat _), hflipped,
      UInt8.xor_assoc]
  have hmasks : AntHost.checksum damage.masks =
      AntHost.checksum (damage.id :: damage.payload) ^^^ damage.checksum := by
    rw [masks, checksum_append, checksum_cons damage.checksum]
    exact congrArg _ (UInt8.xor_zero ..)
  rw [hcomputed, received, UInt8.xor_right_inj, hmasks, UInt8.xor_eq_zero_iff]

end Damage

namespace Deframer

open AntHost.Stream (Step)

variable {limit : PayloadLimit}

/-- Once a stream has something to find, a pull has found something. -/
theorem found_ne_nil {actions : List Action} (hread : (Stream.read limit (pushed actions)).1 ≠ []) :
    found (run { limit } (actions ++ [.pull])).1 ≠ [] := by
  intro hnil
  rw [run_append, found_append, List.append_eq_nil_iff] at hnil
  obtain ⟨hbefore, hpull⟩ := hnil
  have htracks := (Tracks.fresh limit).run actions
  obtain ⟨pieces, hbalances⟩ := (Balances.fresh limit).run actions
  rw [hbefore] at htracks
  generalize run { limit } actions = before at htracks hbalances hbefore hpull
  have hunread : (Stream.read limit before.2.unread).1 ≠ [] := by
    have hstream := congrArg Prod.fst htracks.read_eq
    rw [hbalances.limit_eq] at hstream
    exact fun hnone => hread (hstream.trans hnone)
  have hpulled := before.2.pulled
  generalize hanswer : before.2.pull.1 = answer, before.2.pull.2 = next at hpulled
  change found [before.2.pull.1] = [] at hpull
  rw [hanswer] at hpull
  cases hpulled with
  | absorbed hrejecting =>
      -- a rejection follows an error, which was found
      obtain ⟨earlier, error, _, hanswers, _⟩ := hbalances.reported hrejecting
      rw [List.nil_append] at hanswers
      rw [hanswers, found_append, List.append_eq_nil_iff] at hbefore
      cases hbefore.2
  | waiting hidle hbytes =>
      rw [hbalances.limit_eq] at hbytes
      rw [unread, if_neg (by simp [hidle]), ← read_fromSync, hbytes.read_eq] at hunread
      exact hunread rfl
  | message _ _ => cases hpull
  | fault _ _ _ => cases hpull

/-- What stands first in a stream is found by the first pull behind it at the latest. -/
theorem head?_found {actions : List Action} {finding : Finding}
    (hread : (Stream.read limit (pushed actions)).1.head? = some finding) :
    (found (run { limit } (actions ++ [.pull])).1).head? = some finding := by
  have hpushed : pushed (actions ++ [.pull]) = pushed actions := by
    rw [pushed_append]
    exact List.append_nil _
  have hfollows := congrArg Prod.fst ((Tracks.fresh limit).run (actions ++ [.pull])).read_eq
  rw [run_limit, List.nil_append, List.nil_append, hpushed] at hfollows
  dsimp only at hfollows
  cases hfound : found (run { limit } (actions ++ [.pull])).1 with
  | nil =>
      refine absurd hfound (found_ne_nil fun hnone => ?_)
      rw [hnone] at hread
      cases hread
  | cons first rest =>
      rw [hfollows, hfound] at hread
      exact hread

/-- A damaged frame is still read as a whole: it is the altered message or a wrong checksum. -/
theorem head?_read_damaged {message : Message} (hsize : message.size ≤ limit.bytes)
    (damage : Damage message) :
    (Stream.read limit damage.bytes).1.head? =
      some (if checksum damage.masks = 0 then .message damage.altered
        else .fault (.badChecksum damage.received
          (checksum (frameBody damage.altered.id damage.altered.payload)))) := by
  rw [← damage.size_altered] at hsize
  rw [damage.bytes_eq]
  split
  next hcancel =>
    have hstep := @Step.frame limit damage.altered [] hsize
    rw [List.append_nil] at hstep
    rw [← damage.checksum_altered_eq_iff.mpr hcancel]
    exact congrArg (fun reading => reading.1.head?) hstep.read_eq
  next hflips =>
    have hbyte := Stream.toNat_ofNat_size damage.altered
    have hwrong := mt damage.checksum_altered_eq_iff.mp hflips
    have hstep := @Step.badChecksum limit (UInt8.ofNat damage.altered.payload.length)
      damage.altered.id damage.received damage.altered.payload [] hbyte.symm
      (Nat.le_trans (Nat.le_of_eq hbyte) hsize) hwrong
    exact congrArg (fun reading => reading.1.head?) hstep.read_eq

/-- Bits of a frame are flipped anywhere behind its length, and it reaches a fresh deframer in any
chunks. What is found first is a wrong checksum if the flips do not cancel out, and the altered
message if they do; they never cancel out within one byte or if they are odd in number. -/
theorem first_finding_of_damage {message : Message} (hsize : message.size ≤ limit.bytes)
    (damage : Damage message) {actions : List Action} (hpushed : pushed actions = damage.bytes) :
    let first := (found (run { limit } (actions ++ [.pull])).1).head?
    ∃ before received, damage.bytes = before ++ [received] ∧
      (first = some (.fault (.badChecksum received (checksum before))) ↔
        checksum damage.masks ≠ 0) ∧
      (first = some (.message damage.altered) ↔ checksum damage.masks = 0) ∧
      (damage.masks.countP (· != 0) = 1 ∨ (bitsOf damage.masks).count true % 2 = 1 →
        first = some (.fault (.badChecksum received (checksum before)))) := by
  intro first
  have hfirst : first = _ := head?_found (hpushed ▸ head?_read_damaged hsize damage)
  refine ⟨_, _, damage.bytes_eq, ?_, ?_, fun hfew => ?_⟩
  · rw [hfirst]
    split
    next hcancel => simp [hcancel]
    next hflips => simp [hflips]
  · rw [hfirst]
    split
    next hcancel => simp [hcancel]
    next hflips => simp [hflips]
  · rw [hfirst, if_neg (hfew.elim checksum_ne_zero_of_one checksum_ne_zero_of_odd)]

/-- A flipped byte becomes a sync byte, and the same flips in the byte behind it hide that. -/
theorem first_finding_of_damage_of_sync :
    (found (run { limit := .ofNat 9 }
        ([.push [0xA4, 0x02, 0x4E, 0xA4], .pull, .push [0x02, 0xEB]] ++ [.pull])).1).head? =
      some (.fault (.badChecksum 0xEB 0x4E)) ∧
    (found (run { limit := .ofNat 9 }
        ([.push [0xA4, 0x02, 0x4E, 0xA4], .pull, .push [0xA7, 0xEB]] ++ [.pull])).1).head? =
      some (.message ⟨0x4E, [0xA4, 0xA7], by decide⟩) := by
  obtain ⟨before, received, hbytes, -, -, hfew⟩ :=
    @first_finding_of_damage (.ofNat 9) ⟨0x4E, [0x01, 0x02], by decide⟩ (by decide)
      ⟨0x00, [0xA5, 0x00], 0x00, rfl⟩ [.push [0xA4, 0x02, 0x4E, 0xA4], .pull, .push [0x02, 0xEB]]
      rfl
  obtain ⟨_, _, -, -, haccepted, -⟩ :=
    @first_finding_of_damage (.ofNat 9) ⟨0x4E, [0x01, 0x02], by decide⟩ (by decide)
      ⟨0x00, [0xA5, 0xA5], 0x00, rfl⟩ [.push [0xA4, 0x02, 0x4E, 0xA4], .pull, .push [0xA7, 0xEB]]
      rfl
  refine ⟨?_, haccepted.mpr (by decide)⟩
  have hsplit : [0xA4, 0x02, 0x4E, 0xA4, 0x02] ++ [0xEB] = before ++ [received] := hbytes
  obtain ⟨rfl, hreceived⟩ := List.append_inj' hsplit rfl
  cases hreceived
  exact hfew (.inl (by decide))

end Deframer

end AntHost
