import Mathlib.Data.Set.Finite.Lattice
import AntHost.Transport.Usb.Link
import AntHost.Proofs.Transport.Traffic
/-!
# Writes to a USB device

A write offers chunk after chunk of what the device has not accepted yet. Whatever it accepts of a
chunk, the next chunk starts right behind, so the accepted bytes are always the beginning of the
bytes. A write ends as soon as the device, for good, accepts something of every chunk or fails.
-/

namespace AntHost

theorem eq_of_transferResult {fault : Option UsbFault} {transferred count : Nat}
    (hresult : transferResult fault transferred = .ok count) : count = transferred := by
  unfold transferResult at hresult
  cases fault with
  | none =>
      cases hresult
      rfl
  | some fault =>
      dsimp only at hresult
      split at hresult
      · cases hresult
        rfl
      · cases hresult

/-- The transfer takes nothing of any chunk and does not fail. -/
def BulkOut.Idle (transfer : BulkOut) : Prop :=
  transfer.accepts = 0 ∧ (transfer.fault = none ∨ transfer.fault = some .timeout)

theorem BulkOut.idle_iff (transfer : BulkOut) {offered : Nat} (hoffered : 0 < offered) :
    transfer.Idle ↔
      (transfer.run offered).1 = .ok 0 ∨ (transfer.run offered).1 = .error .timeout := by
  unfold Idle run transferResult UsbFault.isPartial
  constructor
  · rintro ⟨haccepts, hfault | hfault⟩
    · simp [haccepts, hfault]
    · simp [haccepts, hfault]
  · intro hidle
    cases hfault : transfer.fault with
    | none =>
        simp only [hfault, Except.ok.injEq, reduceCtorEq, or_false] at hidle
        exact ⟨by omega, .inl rfl⟩
    | some fault =>
        simp only [hfault] at hidle
        split at hidle
        next hpartial =>
          -- a transfer that counts as done in spite of its fault has taken something
          simp only [Bool.and_eq_true, decide_eq_true_eq, Except.ok.injEq, reduceCtorEq,
            or_false] at hpartial hidle
          exact absurd hidle (Nat.ne_of_gt hpartial.1)
        next hpartial =>
          simp only [reduceCtorEq, Except.error.injEq, false_or] at hidle
          subst hidle
          simp at hpartial
          exact ⟨by omega, .inr rfl⟩

/-- A chunk offered to a device, and the transfer that it met. -/
structure BulkOffer where
  chunk : List UInt8
  met : BulkOut
deriving DecidableEq, Repr

namespace BulkOffer

def outcome (offer : BulkOffer) : Except UsbFault Nat := (offer.met.run offer.chunk.length).1

def call (pipe : UsbPipe) (offer : BulkOffer) : UsbCall :=
  pipe.outCall offer.chunk (offer.met.run offer.chunk.length).2

/-- The part of the chunk that the device has accepted. -/
def taken (offer : BulkOffer) : List UInt8 :=
  match offer.outcome with
  | .ok count => offer.chunk.take count
  | .error _ => []

/-- The bytes that the device has accepted. -/
def accepted (offers : List BulkOffer) : List UInt8 := offers.flatMap taken

theorem accepted_cons (offer : BulkOffer) (offers : List BulkOffer) :
    accepted (offer :: offers) = offer.taken ++ accepted offers :=
  List.flatMap_cons

theorem outcome_le {offer : BulkOffer} {count : Nat} (hoffer : offer.outcome = .ok count) :
    count ≤ offer.chunk.length :=
  eq_of_transferResult hoffer ▸ Nat.min_le_right _ _

/-- What is left to be written follows what was taken of the chunk. -/
theorem taken_append {offer : BulkOffer} {size : Nat} {rest left : List UInt8}
    (hchunk : offer.chunk = rest.take size)
    (hmore : WriteProgress.after rest offer.outcome = .more left) : offer.taken ++ left = rest := by
  unfold taken
  cases houtcome : offer.outcome with
  | ok count =>
      rw [houtcome] at hmore
      cases hmore
      have hle : count ≤ size :=
        (outcome_le houtcome).trans (hchunk ▸ List.length_take_le size rest)
      simp [hchunk, List.take_take, Nat.min_eq_left hle]
  | error fault =>
      rw [houtcome] at hmore
      cases fault <;> cases hmore
      rfl

theorem after_error {fault : UsbFault} (hfault : fault ≠ .timeout) (rest : List UInt8) :
    WriteProgress.after rest (.error fault) = .failed (.usb fault) := by
  cases fault with
  | timeout => exact absurd rfl hfault
  | _ => rfl

/-- Only a fault other than a timeout ends a write. -/
theorem exists_fault {rest : List UInt8} {outcome : Except UsbFault Nat} {error : TransportError}
    (hfailed : WriteProgress.after rest outcome = .failed error) :
    ∃ fault, outcome = .error fault ∧ fault ≠ .timeout ∧ error = .usb fault := by
  cases outcome with
  | ok count => cases hfailed
  | error fault =>
      by_cases hfault : fault = .timeout
      · subst hfault
        cases hfailed
      · rw [after_error hfault] at hfailed
        cases hfailed
        exact ⟨fault, rfl, hfault, rfl⟩

/-- Chunks of bytes that are offered one after the other, each of what is left after the chunks
before it, up to the first failure. -/
inductive InChunks (size : Nat) :
    List UInt8 → List BulkOffer → Except TransportError Unit → Prop
  | done : InChunks size [] [] (.ok ())
  | goesOn {rest left : List UInt8} {offer : BulkOffer} {offers : List BulkOffer}
      {result : Except TransportError Unit} (hrest : rest ≠ [])
      (hchunk : offer.chunk = rest.take size)
      (hmore : WriteProgress.after rest offer.outcome = .more left)
      (hlater : InChunks size left offers result) : InChunks size rest (offer :: offers) result
  | failed {rest : List UInt8} {offer : BulkOffer} {error : TransportError} (hrest : rest ≠ [])
      (hchunk : offer.chunk = rest.take size)
      (hfailed : WriteProgress.after rest offer.outcome = .failed error) :
      InChunks size rest [offer] (.error error)

/-- The chunks go through bytes in their order. -/
structure Chunked (size : Nat) (bytes : List UInt8) (offers : List BulkOffer)
    (result : Except TransportError Unit) : Prop where
  /-- Every chunk starts behind the bytes that are accepted already. -/
  chunk_eq : ∀ {before offer after}, offers = before ++ offer :: after →
    offer.chunk = (bytes.drop (accepted before).length).take size
  chunk_ne_nil : ∀ offer ∈ offers, offer.chunk ≠ []
  accepted_prefix : accepted offers <+: bytes
  ok_iff : result = .ok () ↔ accepted offers = bytes
  /-- The first fault other than a timeout ends the write. -/
  fault_last : ∀ {before offer after fault}, offers = before ++ offer :: after →
    offer.outcome = .error fault → fault ≠ .timeout → after = [] ∧ result = .error (.usb fault)
  /-- A write fails with nothing but the fault it met. -/
  error_met : ∀ {error}, result = .error error → ∃ offer ∈ offers, ∃ fault,
    offer.outcome = .error fault ∧ fault ≠ .timeout ∧ error = .usb fault

namespace InChunks

variable {size : Nat} {bytes : List UInt8} {offer : BulkOffer} {offers : List BulkOffer}
  {result : Except TransportError Unit}

theorem rest {before after : List BulkOffer} {offer : BulkOffer}
    (hchunks : InChunks size bytes (before ++ offer :: after) result) :
    InChunks size (bytes.drop (accepted before).length) (offer :: after) result := by
  induction before generalizing bytes with
  | nil => exact hchunks
  | cons first before ih =>
      generalize hoffers : first :: before ++ offer :: after = offers at hchunks
      cases hchunks with
      | done => cases hoffers
      | goesOn hrest hchunk hmore hlater =>
          cases hoffers
          have hlen := ih hlater
          rw [← taken_append hchunk hmore, accepted_cons]
          simpa using hlen
      | failed => simp at hoffers

/-- What is not accepted is left over, and nothing is exactly if the write succeeds. -/
theorem exists_left (hchunks : InChunks size bytes offers result) :
    ∃ left, accepted offers ++ left = bytes ∧ (result = .ok () ↔ left = []) := by
  induction hchunks with
  | done => exact ⟨[], rfl, by simp⟩
  | goesOn hrest hchunk hmore hlater ih =>
      obtain ⟨left, hleft, hok⟩ := ih
      refine ⟨left, ?_, hok⟩
      rw [accepted_cons, List.append_assoc, hleft, taken_append hchunk hmore]
  | @failed rest offer error hrest hchunk hfailed =>
      obtain ⟨fault, hfault, -⟩ := exists_fault hfailed
      refine ⟨rest, ?_, by simpa using hrest⟩
      simp [accepted, taken, hfault]

theorem chunk_eq (hchunks : InChunks size bytes (offer :: offers) result) :
    offer.chunk = bytes.take size ∧ bytes ≠ [] := by
  cases hchunks with
  | goesOn hrest hchunk => exact ⟨hchunk, hrest⟩
  | failed hrest hchunk => exact ⟨hchunk, hrest⟩

theorem fault_last {fault : UsbFault} (hchunks : InChunks size bytes (offer :: offers) result)
    (hoffer : offer.outcome = .error fault) (hfault : fault ≠ .timeout) :
    offers = [] ∧ result = .error (.usb fault) := by
  cases hchunks with
  | goesOn _ _ hmore =>
      rw [hoffer, after_error hfault] at hmore
      cases hmore
  | failed _ _ hfailed =>
      rw [hoffer, after_error hfault] at hfailed
      cases hfailed
      exact ⟨rfl, rfl⟩

theorem error_met (hchunks : InChunks size bytes offers result) {error : TransportError}
    (hresult : result = .error error) : ∃ offer ∈ offers, ∃ fault,
      offer.outcome = .error fault ∧ fault ≠ .timeout ∧ error = .usb fault := by
  induction hchunks with
  | done => cases hresult
  | goesOn _ _ _ _ ih =>
      obtain ⟨offer, hmem, hoffer⟩ := ih hresult
      exact ⟨offer, List.mem_cons_of_mem _ hmem, hoffer⟩
  | failed _ _ hfailed =>
      cases hresult
      exact ⟨_, List.mem_singleton_self _, exists_fault hfailed⟩

theorem chunked (hsize : 0 < size) (hchunks : InChunks size bytes offers result) :
    Chunked size bytes offers result := by
  obtain ⟨left, hleft, hok⟩ := hchunks.exists_left
  constructor
  case chunk_eq =>
    rintro before offer after rfl
    exact hchunks.rest.chunk_eq.1
  case chunk_ne_nil =>
    intro offer hmem
    obtain ⟨before, after, rfl⟩ := List.append_of_mem hmem
    obtain ⟨hchunk, hrest⟩ := hchunks.rest.chunk_eq
    simpa [hchunk, hsize.ne'] using hrest
  case accepted_prefix => exact ⟨left, hleft⟩
  case ok_iff => rw [hok, ← hleft, List.self_eq_append_right]
  case fault_last =>
    rintro before offer after fault rfl hoffer hfault
    exact hchunks.rest.fault_last hoffer hfault
  case error_met => exact hchunks.error_met

end InChunks

end BulkOffer

open BulkOffer

/-! ## The transfers of a write -/

/-- A pipe that takes everything takes each chunk whole. -/
theorem exists_inChunks_of_freely {pipe : UsbPipe} (hsize : 0 < pipe.packetSize)
    (rest : List UInt8) :
    ∃ offers, InChunks pipe.packetSize rest offers (.ok ()) ∧
      ComesNext ⟨pipe.packetSize, none⟩ [] (offers.map BulkOffer.met) ∧
        sendFreely pipe rest = (.ok (), offers.map (BulkOffer.call pipe)) := by
  fun_induction sendFreely pipe rest with
  | case1 => exact ⟨[], .done, trivial, rfl⟩
  | case2 rest hrest hnone => exact absurd hnone hsize.ne'
  | case3 rest hrest _ offered result calls hlater ih =>
      obtain ⟨offers, hchunks, hnext, hsend⟩ := ih
      have hlen : min pipe.packetSize offered.length = offered.length :=
        Nat.min_eq_right (List.length_take_le _ _)
      have hleft : rest.drop offered.length = rest.drop pipe.packetSize := by
        rw [List.length_take, ← List.drop_eq_drop_min]
      refine ⟨⟨offered, ⟨pipe.packetSize, none⟩⟩ :: offers, .goesOn hrest rfl ?_ hchunks,
        ⟨rfl, hnext⟩, ?_⟩
      · simp [outcome, BulkOut.run, transferResult, WriteProgress.after, hlen, hleft]
      · cases hlater.symm.trans hsend
        simp [call, BulkOut.run, hlen]

/-- One transfer of a write. -/
theorem sendChunks_cons (pipe : UsbPipe) (transfer : BulkOut) (script : List BulkOut)
    {rest : List UInt8} (hrest : rest ≠ []) :
    sendChunks pipe (transfer :: script) rest =
      let offer : BulkOffer := ⟨rest.take pipe.packetSize, transfer⟩
      match WriteProgress.after rest offer.outcome with
      | .failed error => (.error error, [offer.call pipe], script)
      | .more left =>
          let (result, calls, unused) := sendChunks pipe script left
          (result, offer.call pipe :: calls, unused) := by
  cases rest with
  | nil => exact absurd rfl hrest
  | cons first rest => rfl

theorem sendChunks_nil (pipe : UsbPipe) (script : List BulkOut) :
    sendChunks pipe script [] = (.ok (), [], script) := by
  cases script with
  | nil => rfl
  | cons transfer script => rfl

/-- A write offers its bytes in chunks, which meet the transfers of the script. -/
theorem exists_inChunks {pipe : UsbPipe} (hsize : 0 < pipe.packetSize) (script : List BulkOut)
    (rest : List UInt8) :
    ∃ offers result, InChunks pipe.packetSize rest offers result ∧
      ComesNext ⟨pipe.packetSize, none⟩ script (offers.map BulkOffer.met) ∧
        sendChunks pipe script rest =
          (result, offers.map (BulkOffer.call pipe), script.drop offers.length) := by
  induction script generalizing rest with
  | nil =>
      cases rest with
      | nil => exact ⟨[], .ok (), .done, trivial, rfl⟩
      | cons first rest =>
          obtain ⟨offers, hchunks, hnext, hsend⟩ := exists_inChunks_of_freely hsize (first :: rest)
          exact ⟨offers, .ok (), hchunks, hnext, by simp [sendChunks, hsend]⟩
  | cons transfer script ih =>
      by_cases hrest : rest = []
      · subst hrest
        exact ⟨[], .ok (), .done, trivial, sendChunks_nil pipe _⟩
      rw [sendChunks_cons pipe transfer script hrest]
      dsimp only
      cases hafter : WriteProgress.after rest
          (outcome ⟨rest.take pipe.packetSize, transfer⟩) with
      | failed error =>
          exact ⟨[⟨rest.take pipe.packetSize, transfer⟩], .error error, .failed hrest rfl hafter,
            ⟨rfl, trivial⟩, rfl⟩
      | more left =>
          obtain ⟨offers, result, hchunks, hnext, hsend⟩ := ih left
          refine ⟨⟨rest.take pipe.packetSize, transfer⟩ :: offers, result,
            .goesOn hrest rfl hafter hchunks, ⟨rfl, hnext⟩, ?_⟩
          simp [hsend]

/-! ## Endless scripts -/

/-- A write of these bytes is over after so many of the transfers, whatever comes after them. -/
def UsbPipe.WriteEnds (pipe : UsbPipe) (transfers : Nat → BulkOut) (rest : List UInt8) : Prop :=
  ∃ count result calls, ∀ later,
    sendChunks pipe ((List.range count).map transfers ++ later) rest = (result, calls, later)

theorem length_left_le {transfer : BulkOut} {size : Nat} {rest left : List UInt8}
    (hmore : WriteProgress.after rest (outcome ⟨rest.take size, transfer⟩) = .more left) :
    left.length ≤ rest.length := by
  have htaken := congrArg List.length (taken_append rfl hmore)
  rw [List.length_append] at htaken
  omega

/-- A transfer that does not idle shortens what is left to be written. -/
theorem length_left_lt {transfer : BulkOut} {size : Nat} {rest left : List UInt8}
    (hsize : 0 < size) (hrest : rest ≠ []) (hbusy : ¬ transfer.Idle)
    (hmore : WriteProgress.after rest (outcome ⟨rest.take size, transfer⟩) = .more left) :
    left.length < rest.length := by
  have hpos : 0 < rest.length := List.length_pos_iff.mpr hrest
  have hoffered : 0 < (rest.take size).length := by
    rw [List.length_take]
    omega
  rw [BulkOut.idle_iff transfer hoffered, not_or] at hbusy
  change WriteProgress.after rest (transfer.run (rest.take size).length).1 = .more left at hmore
  cases houtcome : (transfer.run (rest.take size).length).1 with
  | ok count =>
      rw [houtcome] at hmore hbusy
      cases hmore
      have hcount : count ≠ 0 := fun hzero => hbusy.1 (congrArg _ hzero)
      rw [List.length_drop]
      omega
  | error fault =>
      rw [houtcome] at hmore hbusy
      have hfault : fault ≠ .timeout := fun htimeout => hbusy.2 (congrArg _ htimeout)
      rw [after_error hfault] at hmore
      cases hmore

/-- A write ends once its transfers no longer idle: each of them is one of those that may, or it
shortens what is left to be written. -/
theorem writeEnds_of_bound {pipe : UsbPipe} (hsize : 0 < pipe.packetSize)
    {transfers : Nat → BulkOut} {bound : Nat}
    (hbound : ∀ place, bound ≤ place → ¬ (transfers place).Idle) (rest : List UInt8) :
    pipe.WriteEnds transfers rest := by
  induction hmeasure : bound + rest.length using Nat.strong_induction_on
    generalizing bound transfers rest with
  | _ measure ih =>
      by_cases hrest : rest = []
      · subst hrest
        exact ⟨0, .ok (), [], fun later => sendChunks_nil pipe later⟩
      cases hafter : WriteProgress.after rest
          (outcome ⟨rest.take pipe.packetSize, transfers 0⟩) with
      | failed error =>
          refine ⟨1, .error error, [BulkOffer.call pipe ⟨rest.take pipe.packetSize, transfers 0⟩],
            fun later => ?_⟩
          simp [sendChunks_cons pipe _ _ hrest, hafter]
      | more left =>
          have hsmaller : bound - 1 + left.length < measure := by
            cases bound with
            | zero =>
                have hlt := length_left_lt hsize hrest (hbound 0 le_rfl) hafter
                omega
            | succ bound =>
                have hle := length_left_le hafter
                omega
          have hlater : ∀ place, bound - 1 ≤ place → ¬ (transfers (place + 1)).Idle :=
            fun place hplace => hbound (place + 1) (by omega)
          obtain ⟨count, result, calls, hends⟩ := ih _ hsmaller hlater left rfl
          refine ⟨count + 1, result,
            BulkOffer.call pipe ⟨rest.take pipe.packetSize, transfers 0⟩ :: calls,
            fun later => ?_⟩
          have hscript : (List.range (count + 1)).map transfers ++ later = transfers 0 ::
              ((List.range count).map (fun place => transfers (place + 1)) ++ later) := by
            simp [List.range_succ_eq_map, Function.comp_def]
          rw [hscript, sendChunks_cons pipe _ _ hrest]
          simp [hafter, hends]

namespace UsbStick

/-- A write offers the device one chunk after the other, each of at most one packet and right behind
the bytes that the device has accepted, which are all of them exactly if the write succeeds; a fault
other than a timeout ends it at once. A device that idles only finitely often sees the write end. -/
theorem write_sends_in_order {stick : UsbStick} (hopen : stick.link.closed = false)
    (hsize : 1 ≤ stick.link.outPipe.packetSize) (bytes : List UInt8) :
    (∃ (offers : List BulkOffer) (result : Except TransportError Unit),
      stick.write bytes =
          (result, offers.map (BulkOffer.call stick.link.outPipe),
            { stick with device.outbound := stick.device.outbound.drop offers.length }) ∧
        ComesNext ⟨stick.link.outPipe.packetSize, none⟩ stick.device.outbound
            (offers.map BulkOffer.met) ∧
          Chunked stick.link.outPipe.packetSize bytes offers result) ∧
      ∀ transfers : Nat → BulkOut, {place | (transfers place).Idle}.Finite →
        ∃ count result calls, ∀ later,
          ({ stick with device.outbound := (List.range count).map transfers ++ later }).write
              bytes =
            (result, calls, { stick with device.outbound := later }) := by
  have hnotclosed : ¬ stick.link.closed = true := Bool.eq_false_iff.mp hopen
  constructor
  · obtain ⟨offers, result, hchunks, hnext, hsend⟩ :=
      exists_inChunks hsize stick.device.outbound bytes
    refine ⟨offers, result, ?_, hnext, hchunks.chunked hsize⟩
    rw [write, if_neg hnotclosed, hsend]
  · intro transfers hfinite
    obtain ⟨bound, hbound⟩ := hfinite.bddAbove
    have hlater : ∀ place, bound + 1 ≤ place → ¬ (transfers place).Idle :=
      fun place hplace hidle => absurd (hbound hidle) (by omega)
    obtain ⟨count, result, calls, hends⟩ := writeEnds_of_bound hsize hlater bytes
    refine ⟨count, result, calls, fun later => ?_⟩
    rw [write, if_neg hnotclosed]
    simp only [hends]

/-- A device that takes part of a chunk, times out, is interrupted and at last fails; and one that
times out three times before it takes one byte of every chunk. -/
theorem write_sends_in_order_of_partial :
    let stick : UsbStick :=
      ⟨0,
        { vendor := stickVendor
          product := 0x1008
          interfaces := []
          outbound := [⟨1, none⟩, ⟨0, some .timeout⟩, ⟨2, some .interrupted⟩, ⟨0, some .io⟩] },
        { interface := 0, inPipe := ⟨0x81, 2⟩, outPipe := ⟨0x01, 2⟩ }⟩
    let transfers : Nat → BulkOut := fun place =>
      if place < 3 then ⟨0, some .timeout⟩ else ⟨1, none⟩
    stick.link.closed = false ∧ 1 ≤ stick.link.outPipe.packetSize ∧
      {place | (transfers place).Idle}.Finite ∧
      (∃ offers, stick.write [1, 2, 3, 4] = (.error (.usb .io),
          offers.map (BulkOffer.call stick.link.outPipe),
            { stick with device.outbound := [] }) ∧
        ComesNext ⟨2, none⟩ stick.device.outbound (offers.map BulkOffer.met) ∧
          Chunked 2 [1, 2, 3, 4] offers (.error (.usb .io))) ∧
      ∃ count result calls, ∀ later,
        ({ stick with device.outbound := (List.range count).map transfers ++ later }).write
            [1, 2, 3, 4] =
          (result, calls, { stick with device.outbound := later }) := by
  intro stick transfers
  have hfinite : {place | (transfers place).Idle}.Finite := by
    refine (Set.finite_lt_nat 3).subset fun place hidle => ?_
    by_contra hlate
    have htransfer : transfers place = ⟨1, none⟩ := if_neg hlate
    rw [Set.mem_ofPred_eq, htransfer] at hidle
    exact absurd hidle.1 (by decide)
  obtain ⟨⟨offers, result, hwrite, hnext, hchunked⟩, hends⟩ :=
    write_sends_in_order (rfl : stick.link.closed = false) (by decide) [1, 2, 3, 4]
  have hresult : .error (.usb .io) = result := congrArg Prod.fst hwrite
  have hleft : [] = stick.device.outbound.drop offers.length :=
    congrArg (fun written => written.2.2.device.outbound) hwrite
  subst hresult
  rw [← hleft] at hwrite
  exact ⟨rfl, by decide, hfinite, ⟨offers, hwrite, hnext, hchunked⟩, hends transfers hfinite⟩

end UsbStick

end AntHost
