import AntHost.Proofs.Session.Conduct
/-!
# What sending does

Calls that expect no response leave the tracker alone. Those with a transfer take the monitor for
their own channel and kind, and every packet they write names that channel in its low five bits.
-/

namespace AntHost

/-- The mask changes no channel that a device can have. -/
theorem and_channelMask_eq_self_iff {channel : UInt8} :
    channel &&& channelMask = channel ↔ channel < 32 := by
  have hmod : channel.toNat &&& 31 = channel.toNat % 32 := Nat.and_two_pow_sub_one_eq_mod _ 5
  rw [← UInt8.toNat_inj, UInt8.toNat_and, UInt8.lt_iff_toNat_lt]
  change channel.toNat &&& 31 = channel.toNat ↔ channel.toNat < 32
  omega

/-- The channel that the first payload byte of a frame names. -/
def frameChannel? (frame : List UInt8) : Option UInt8 := frame[headerSize]?.map (· &&& channelMask)

theorem frameChannel?_frameBytes (id first : UInt8) (rest : List UInt8) :
    frameChannel? (frameBytes id (first :: rest)) = some (first &&& channelMask) := rfl

/-- What a call may do that expects no response: take the monitor for transfers of its own and
write frames of its own. -/
def Op.Sends (own : UInt8 → TransferKind → Prop) (carries : List UInt8 → Prop) : Op → Prop
  | beginTransfer channel kind _ _ _ => own channel kind
  | write frame => carries frame
  | register .. | unregister .. | awaitResponse .. => False
  | _ => True

/-- What such a call does, short of bringing the session to its end. -/
def Op.Transmits (own : UInt8 → TransferKind → Prop) (carries : List UInt8 → Prop) (op : Op) :
    Prop :=
  op.Sends own carries ∧ op.closes = false

namespace Action

variable {α : Type} {own : UInt8 → TransferKind → Prop} {carries : List UInt8 → Prop}
  {action : Action α}

theorem sends_of_transmits (honly : action.Only (Op.Transmits own carries)) :
    action.Only (Op.Sends own carries) :=
  honly.mono fun _ htransmits => htransmits.1

theorem transmits_of_observes (honly : action.Only Op.Observes) :
    action.Only (Op.Transmits own carries) := by
  refine honly.mono ?_
  rintro op (rfl | rfl | rfl | rfl) <;> exact ⟨trivial, rfl⟩

theorem transmits_writeFramed {frame : Except FramingError (List UInt8)}
    (hframe : ∀ bytes, frame = .ok bytes → carries bytes) :
    (writeFramed frame).Only (Op.Transmits own carries) := by
  cases frame with
  | error error => exact only_throw
  | ok frame =>
      refine only_bind (only_single ⟨trivial, rfl⟩) fun open? => ?_
      split
      next =>
        refine only_bind (only_single ⟨hframe frame rfl, rfl⟩) fun written => ?_
        split
        · exact only_pure
        · exact only_throw
      next => exact only_throw

/-- Only one frame can come of a command. -/
theorem transmits_sendCommand (config : Config) {command : Command}
    (hframe : carries (frameBytes command.messageId.value command.payload)) :
    (sendCommand config command).Only (Op.Transmits own carries) := by
  refine transmits_writeFramed fun bytes hbytes => ?_
  rw [commandFrame_eq] at hbytes
  split at hbytes
  next => cases hbytes
  next =>
    cases hbytes
    exact hframe

theorem transmits_transferring {channel : UInt8} {kind : TransferKind} {packets : Nat}
    {policy : WaitPolicy} {body : Action α} (hown : own channel kind)
    (hbody : body.Only (Op.Transmits own carries)) :
    (transferring channel kind packets policy body).Only (Op.Transmits own carries) := by
  refine only_bind (transmits_of_observes observes_clock) fun start => ?_
  refine only_bind only_deadlineFrom fun deadline => ?_
  refine only_bind (only_single ⟨hown, rfl⟩) fun begun => ?_
  exact only_bind only_ofWait fun _ => only_andLast rfl ⟨trivial, rfl⟩ hbody

theorem transmits_finishTransfer (channel : UInt8) (policy : WaitPolicy) :
    (finishTransfer channel policy).Only (Op.Transmits own carries) := by
  refine only_bind (transmits_of_observes observes_clock) fun start => ?_
  refine only_bind only_deadlineFrom fun deadline => ?_
  refine only_bind (only_single ⟨trivial, rfl⟩) fun result => ?_
  refine only_bind only_ofWait fun outcome => ?_
  cases outcome with
  | completed => exact only_pure
  | failed => exact only_throw

theorem transmits_confirmData (config : Config) (timeout : Nat) {channel : UInt8}
    {kind : TransferKind} {command : Command} (hown : own channel kind)
    (hframe : carries (frameBytes command.messageId.value command.payload)) :
    (confirmData config channel kind command timeout).Only (Op.Transmits own carries) := by
  refine only_bind (transmits_of_observes observes_clock) fun start => ?_
  refine only_bind (transmits_of_observes (observes_policyFor config timeout)) fun policy => ?_
  refine transmits_transferring hown ?_
  refine only_bind (transmits_sendCommand config hframe) fun _ => ?_
  refine only_bind (only_single ⟨trivial, rfl⟩) fun _ => ?_
  refine only_bind (transmits_of_observes (observes_remainingSince policy start)) fun left => ?_
  exact transmits_finishTransfer channel left

theorem transmits_writePackets (config : Config) (channel : UInt8) (policy : WaitPolicy)
    (start : Nat) {packets : List BurstPacket} (hframes : ∀ packet ∈ packets, carries packet.frame) :
    (writePackets config channel policy start packets).Only (Op.Transmits own carries) := by
  induction packets with
  | nil => exact only_pure
  | cons packet rest ih =>
      refine only_bind (only_single ⟨trivial, rfl⟩) fun aborted => ?_
      dsimp only
      split
      next => exact trivial
      next =>
        refine only_bind (only_single ⟨trivial, rfl⟩) fun raised => ?_
        split
        next => exact trivial
        next =>
          refine only_bind
            (transmits_of_observes (observes_remainingSince policy start)) fun _ => ?_
          have hframe := hframes packet List.mem_cons_self
          refine only_bind (transmits_sendCommand config hframe) fun _ => ?_
          refine only_bind (only_single ⟨trivial, rfl⟩) fun _ => ?_
          exact ih fun other hother => hframes other (List.mem_cons_of_mem _ hother)

theorem transmits_writeBurst (config : Config) (channel : UInt8) (policy : WaitPolicy)
    {packets : List BurstPacket} (hframes : ∀ packet ∈ packets, carries packet.frame) :
    (writeBurst config channel policy packets).Only (Op.Transmits own carries) :=
  only_bind (transmits_of_observes observes_clock) fun start =>
    transmits_writePackets config channel policy start hframes

theorem transmits_sendBurst (config : Config) {channel : UInt8} {data : List UInt8}
    (hown : own channel .burst)
    (hframes : ∀ packet ∈ BurstPacket.split channel data, carries packet.frame) :
    (sendBurst config channel data).Only (Op.Transmits own carries) :=
  only_bind (transmits_of_observes (observes_policyFor config 0)) fun policy =>
    transmits_transferring hown (transmits_writeBurst config channel policy hframes)

theorem transmits_confirmBurst (config : Config) (timeout : Nat) {channel : UInt8}
    {data : List UInt8} (hown : own channel .burst)
    (hframes : ∀ packet ∈ BurstPacket.split channel data, carries packet.frame) :
    (confirmBurst config channel data timeout).Only (Op.Transmits own carries) := by
  unfold confirmBurst
  split
  next => exact only_pure
  next first rest hpackets =>
    rw [hpackets] at hframes
    refine only_bind (transmits_of_observes observes_clock) fun start => ?_
    refine only_bind (transmits_of_observes (observes_policyFor config timeout)) fun policy => ?_
    refine transmits_transferring hown ?_
    refine only_bind (transmits_of_observes (observes_remainingSince policy start)) fun whole => ?_
    refine only_bind (transmits_writeBurst config channel whole hframes) fun _ => ?_
    refine only_bind (transmits_of_observes (observes_remainingSince policy start)) fun left => ?_
    exact transmits_finishTransfer channel left

theorem sends_closeSession (onRouter : Bool) :
    (closeSession onRouter).Only (Op.Sends own carries) := by
  unfold closeSession
  split
  · exact only_throw
  · refine only_bind (only_single trivial) fun already => ?_
    split
    · exact only_pure
    · exact only_bind (only_single trivial) fun _ => only_bind (only_single trivial) fun _ =>
        only_bind (only_single trivial) fun _ => only_bind (only_single trivial) fun _ =>
          only_single trivial

end Action

end AntHost
