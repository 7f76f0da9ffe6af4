import AntHost.Proofs.Command.Splitting
import AntHost.Proofs.Session.Protocol
/-!
# How calls treat the transfer monitor

A call takes the monitor at most once and lets go of it on every way out, and it uses it only while
it holds it. A burst writes its own frames in order, each while it holds the monitor and after a
look that found the transfer not failed.
-/

namespace AntHost

/-- A burst packet on the wire. -/
def BurstPacket.frame (packet : BurstPacket) : List UInt8 :=
  frameBytes 0x50 (packet.channelSequence :: packet.data.toList)

namespace Call

/-- The channel of a burst. -/
def burst? : Call → Option UInt8
  | burst channel _ _ => some channel
  | _ => none

/-- The frames of all packets of a burst. -/
def frames : Call → List (List UInt8)
  | burst channel data _ => (BurstPacket.split channel data).map BurstPacket.frame
  | _ => []

end Call

/-- How far a call is with its transfer. -/
structure TransferStage where
  /-- The frames of a burst that are still to be written. -/
  rest : List (List UInt8) := []
  begun : Bool := false
  holds : Bool := false
  /-- Whether a look since the last frame found the transfer not failed. -/
  looked : Bool := false
  completed : Bool := false

namespace TransferStage

/-- The stage after a reply. -/
def next (stage : TransferStage) : (op : Op) → op.Reply → TransferStage
  | .beginTransfer .., .ok () => { stage with begun := true, holds := true }
  | .releaseTransfer, _ => { stage with holds := false }
  | .transferAborted, aborted => { stage with looked := !aborted }
  | .write _, _ => { stage with rest := stage.rest.tail, looked := false }
  | .awaitOutcome .., .ok .completed => { stage with completed := true }
  | _, _ => stage

/-- What a call may do at a stage. The frames and the transfer of a burst are its own. -/
def Allows (burst? : Option UInt8) (stage : TransferStage) : Op → Prop
  | .beginTransfer channel kind _ _ _ =>
      stage.begun = false ∧ ∀ own ∈ burst?, channel = own ∧ kind = .burst
  | .releaseTransfer | .packetSent | .awaitOutcome .. => stage.holds = true
  | .transferAborted => stage.holds = true ∧ stage.looked = false
  | .write frame =>
      burst?.isSome → stage.holds = true ∧ stage.looked = true ∧ stage.rest.head? = some frame
  | _ => True

end TransferStage

/-- The protocol of calls towards the transfer monitor. -/
def transferProtocol (burst? : Option UInt8) : Protocol TransferStage where
  allows := TransferStage.Allows burst?
  next := TransferStage.next

/-- How a call ends: without the monitor, and a burst that succeeds with all frames written and its
completion seen, if it had to wait for one. -/
structure Call.Ends (call : Call) (result : Except CallError Reply) (stage : TransferStage) :
    Prop where
  holds : stage.holds = false
  written : ∀ reply, result = .ok reply → call.burst?.isSome → stage.rest = []
  completed : ∀ reply channel data timeout, result = .ok reply →
    call = .burst channel data (some timeout) → data ≠ [] ∨ stage.begun = true →
    stage.completed = true

/-! ## Operations that leave the stage alone -/

namespace Op

/-- Operations that only tell the caller something of the session. -/
def Observes (op : Op) : Prop :=
  op = now ∨ op = cancelInstalled ∨ op = cancelRaised ∨ op = mayWrite

/-- Operations of a transfer. -/
def transfers : Op → Bool
  | beginTransfer .. | awaitOutcome .. | packetSent | transferAborted | releaseTransfer => true
  | _ => false

/-- Operations that have nothing to do with transfers. -/
def Plain (op : Op) : Prop := op.transfers = false

/-- Operations that bring a session to its end. -/
def closes : Op → Bool
  | swapClosed | raiseStop | markStopping | awaitStopped | joinRouter | closeTransport => true
  | _ => false

/-- Operations of calls that write a command and may wait for messages. -/
def Asks (op : Op) : Prop := op.transfers = false ∧ op.closes = false

end Op

namespace Action

variable {α : Type} {stage : TransferStage} {burst? : Option UInt8} {action : Action α}

theorem keeps_of_observes (honly : action.Only Op.Observes) :
    action.Keeps (transferProtocol burst?) (fun _ later => later = stage)
      (fun _ later => later = stage) stage := by
  refine Only.keeps honly ?_ rfl
  rintro _ op rfl (rfl | rfl | rfl | rfl) <;> exact ⟨trivial, fun _ => rfl⟩

/-- Plain operations neither take the monitor nor let go of it. -/
theorem keeps_of_plain (honly : action.Only Op.Plain) :
    action.Keeps (transferProtocol none)
      (fun _ later => later.begun = stage.begun ∧ later.holds = stage.holds)
      (fun _ later => later.begun = stage.begun ∧ later.holds = stage.holds) stage := by
  refine Only.keeps honly ?_ ⟨rfl, rfl⟩
  intro later op hlater hop
  cases op with
  | beginTransfer | awaitOutcome | packetSent | transferAborted | releaseTransfer => cases hop
  | write frame => exact ⟨fun hburst => (Bool.noConfusion hburst), fun _ => hlater⟩
  | _ => exact ⟨trivial, fun _ => hlater⟩

/-! ## Calls without a transfer -/

theorem observes_policyFor (config : Config) (timeout : Nat) :
    (policyFor config timeout).Only Op.Observes :=
  only_bind (only_single (.inr (.inl rfl))) fun _ => only_pure

theorem observes_clock : clock.Only Op.Observes := only_single (.inl rfl)

theorem observes_remainingSince (policy : WaitPolicy) (start : Nat) :
    (remainingSince policy start).Only Op.Observes :=
  only_bind observes_clock fun _ => only_ofWait

theorem plain_of_asks (honly : action.Only Op.Asks) : action.Only Op.Plain :=
  honly.mono fun _ hasks => hasks.1

theorem asks_of_observes (honly : action.Only Op.Observes) : action.Only Op.Asks := by
  refine honly.mono ?_
  rintro op (rfl | rfl | rfl | rfl) <;> exact ⟨rfl, rfl⟩

theorem asks_writeFramed (frame : Except FramingError (List UInt8)) :
    (writeFramed frame).Only Op.Asks := by
  cases frame with
  | error error => exact only_throw
  | ok frame =>
      refine only_bind (only_single ⟨rfl, rfl⟩) fun open? => ?_
      split
      next =>
        refine only_bind (only_single ⟨rfl, rfl⟩) fun written => ?_
        split
        · exact only_pure
        · exact only_throw
      next => exact only_throw

theorem asks_awaitResponse (first : Ticket) (second : Option Ticket) (policy : WaitPolicy) :
    (awaitResponse first second policy).Only Op.Asks := by
  refine only_bind (asks_of_observes observes_clock) fun start => ?_
  refine only_bind only_deadlineFrom fun deadline => ?_
  exact only_bind (only_single ⟨rfl, rfl⟩) fun result => only_ofWait

theorem asks_checkResponse (response : Message) : (checkResponse response).Only Op.Asks := by
  unfold checkResponse
  split
  · exact only_pure
  · exact only_throw

theorem asks_expecting (messageId : UInt8) (channel : Option UInt8) {body : Ticket → Action α}
    (hbody : ∀ ticket, (body ticket).Only Op.Asks) :
    (expecting messageId channel body).Only Op.Asks :=
  only_bind (only_single ⟨rfl, rfl⟩) fun ticket => only_andLast rfl ⟨rfl, rfl⟩ (hbody ticket)

theorem asks_confirmCommand (config : Config) (command : Command) (timeout : Nat) :
    (confirmCommand config command timeout).Only Op.Asks := by
  refine only_bind (asks_expecting _ _ fun ticket => ?_) asks_checkResponse
  refine only_bind (asks_writeFramed _) fun _ => ?_
  refine only_bind (asks_of_observes (observes_policyFor config timeout)) fun policy => ?_
  exact asks_awaitResponse ticket none policy

theorem asks_confirmReset (config : Config) (timeout : Nat) :
    (confirmReset config timeout).Only Op.Asks := by
  refine asks_expecting _ _ fun ticket => ?_
  refine only_bind (asks_writeFramed _) fun _ => ?_
  refine only_bind (asks_of_observes (observes_policyFor config timeout)) fun policy => ?_
  exact asks_awaitResponse ticket none policy

theorem asks_requestMessage (config : Config) (channel messageId : UInt8) (timeout : Nat) :
    (requestMessage config channel messageId timeout).Only Op.Asks := by
  refine asks_expecting _ _ fun pending => ?_
  refine only_bind (asks_expecting _ _ fun refusal => ?_) ?_
  · refine only_bind (asks_writeFramed _) fun _ => ?_
    refine only_bind (asks_of_observes observes_clock) fun start => ?_
    refine only_bind (asks_of_observes (observes_policyFor config timeout)) fun policy => ?_
    refine only_bind (asks_awaitResponse pending (some refusal) policy) fun message => ?_
    split
    · exact only_pure
    · exact only_bind (asks_checkResponse message) fun _ => only_pure
  · rintro ⟨message, policy, start⟩
    dsimp only
    split
    · exact only_pure
    · refine only_bind (asks_of_observes (observes_remainingSince policy start)) fun left => ?_
      exact asks_awaitResponse pending none left

theorem plain_closeSession (onRouter : Bool) : (closeSession onRouter).Only Op.Plain := by
  unfold closeSession
  split
  · exact only_throw
  · refine only_bind (only_single rfl) fun already => ?_
    split
    · exact only_pure
    · exact only_bind (only_single rfl) fun _ => only_bind (only_single rfl) fun _ =>
        only_bind (only_single rfl) fun _ => only_bind (only_single rfl) fun _ => only_single rfl

/-! ## Calls with a transfer -/

/-- An action that holds the monitor as long as its body runs. -/
theorem keeps_transferring {channel : UInt8} {kind : TransferKind} {packets : Nat}
    {policy : WaitPolicy} {body : Action α} {good : α → TransferStage → Prop}
    {bad : CallError → TransferStage → Prop} (hbegun : stage.begun = false)
    (hown : ∀ own ∈ burst?, channel = own ∧ kind = .burst)
    (hrefused : ∀ error, bad error stage)
    (hbody : body.Keeps (transferProtocol burst?)
      (fun value later => later.holds = true ∧ good value { later with holds := false })
      (fun error later => later.holds = true ∧ bad error { later with holds := false })
      { stage with begun := true, holds := true }) :
    (transferring channel kind packets policy body).Keeps (transferProtocol burst?) good bad
      stage := by
  unfold transferring
  rw [keeps_bind]
  refine (keeps_of_observes observes_clock).mono ?_ ?_
  · rintro start _ rfl
    refine keeps_deadlineFrom (fun deadline _ => ?_) fun _ _ => hrefused .panicked
    rw [keeps_perform]
    refine ⟨⟨hbegun, hown⟩, ?_⟩
    rintro (error | ⟨⟩)
    · exact hrefused _
    · refine (keeps_andLast rfl).mpr (hbody.mono ?_ ?_)
      · rintro value later ⟨hholds, hgood⟩
        exact ⟨hholds, fun _ => hgood⟩
      · rintro error later ⟨hholds, hbad⟩
        exact ⟨hholds, fun _ => hbad⟩
  · rintro error _ rfl
    exact hrefused error

/-- Waiting for the outcome ends well only once the transfer is completed. -/
theorem keeps_finishTransfer (channel : UInt8) (policy : WaitPolicy)
    (hholds : stage.holds = true) :
    (finishTransfer channel policy).Keeps (transferProtocol burst?)
      (fun _ later => later = { stage with completed := true })
      (fun _ later => later.holds = true) stage := by
  unfold finishTransfer
  rw [keeps_bind]
  refine (keeps_of_observes observes_clock).mono ?_ ?_
  · rintro start _ rfl
    refine keeps_deadlineFrom (fun deadline _ => ?_) fun _ _ => hholds
    rw [keeps_perform]
    refine ⟨hholds, ?_⟩
    rintro (error | (_ | _))
    · exact hholds
    · exact rfl
    · exact hholds
  · rintro error _ rfl
    exact hholds

/-- Writing a packet takes its frame off the burst, unless the session is closed. -/
theorem keeps_sendPacket (config : Config) {packet : BurstPacket} {frames : List (List UInt8)}
    (hholds : stage.holds = true) (hlooked : stage.looked = true)
    (hrest : stage.rest = packet.frame :: frames) :
    (sendCommand config packet.command).Keeps (transferProtocol burst?)
      (fun _ later => later = { stage with rest := frames, looked := false })
      (fun _ later => later.holds = true) stage := by
  rw [sendCommand, commandFrame_eq]
  split
  next => exact hholds
  next =>
    change Keeps _ _ _ (writeFrame packet.frame) stage
    rw [writeFrame, keeps_perform]
    refine ⟨trivial, ?_⟩
    rintro (_ | _)
    · exact hholds
    · refine keeps_perform.mpr ⟨fun _ => ⟨hholds, hlooked, congrArg List.head? hrest⟩, ?_⟩
      rintro (error | ⟨⟩)
      · exact hholds
      · change { stage with rest := stage.rest.tail, looked := false } = _
        rw [hrest, List.tail_cons]

/-- The packets of a burst are written in order, each after a look at the transfer. -/
theorem keeps_writePackets (config : Config) (channel : UInt8) (policy : WaitPolicy) (start : Nat)
    (packets : List BurstPacket) (hholds : stage.holds = true) (hlooked : stage.looked = false)
    (hrest : stage.rest = packets.map BurstPacket.frame) :
    (writePackets config channel policy start packets).Keeps (transferProtocol burst?)
      (fun _ later => later = { stage with rest := [] }) (fun _ later => later.holds = true)
      stage := by
  induction packets generalizing stage with
  | nil =>
      rw [List.map_nil] at hrest
      rw [writePackets, keeps_pure, ← hrest]
  | cons packet rest ih =>
      rw [List.map_cons] at hrest
      rw [writePackets, keeps_perform]
      refine ⟨⟨hholds, hlooked⟩, ?_⟩
      rintro (_ | _)
      -- Up to the frame only the flag, the clock and the link are asked, so this look is the last.
      · refine keeps_perform.mpr ⟨trivial, fun raised => ?_⟩
        dsimp only
        split
        next => exact hholds
        next =>
          rw [keeps_bind]
          refine (keeps_of_observes (observes_remainingSince policy start)).mono ?_ ?_
          · rintro left _ rfl
            rw [keeps_bind]
            refine Keeps.mono (keeps_sendPacket config hholds rfl hrest) ?_ fun _ _ hlater => hlater
            rintro sent _ rfl
            refine keeps_perform.mpr ⟨hholds, fun _ => ?_⟩
            refine Keeps.mono (ih hholds rfl rfl) ?_ fun _ _ hlater => hlater
            rintro done _ rfl
            rw [hlooked]
            rfl
          · rintro error _ rfl
            exact hholds
      · exact hholds

theorem keeps_writeBurst (config : Config) (channel : UInt8) (policy : WaitPolicy)
    (packets : List BurstPacket) (hholds : stage.holds = true) (hlooked : stage.looked = false)
    (hrest : stage.rest = packets.map BurstPacket.frame) :
    (writeBurst config channel policy packets).Keeps (transferProtocol burst?)
      (fun _ later => later = { stage with rest := [] }) (fun _ later => later.holds = true)
      stage := by
  rw [writeBurst, keeps_bind]
  refine (keeps_of_observes observes_clock).mono ?_ ?_
  · rintro start _ rfl
    exact keeps_writePackets config channel policy start packets hholds hlooked hrest
  · rintro error _ rfl
    exact hholds

/-! ## Every call keeps the protocol -/

theorem keeps_sendBurst (config : Config) (channel : UInt8) (data : List UInt8) :
    (sendBurst config channel data).Keeps (transferProtocol (some channel))
      (fun _ later => later.holds = false ∧ later.rest = []) (fun _ later => later.holds = false)
      { rest := (Call.burst channel data none).frames } := by
  rw [sendBurst, keeps_bind]
  refine (keeps_of_observes (observes_policyFor config 0)).mono ?_ ?_
  · rintro policy _ rfl
    refine keeps_transferring rfl ?_ (fun _ => rfl) ?_
    · rintro own ⟨⟩
      exact ⟨rfl, rfl⟩
    · refine (keeps_writeBurst config channel policy _ rfl rfl rfl).mono ?_ ?_
      · rintro sent _ rfl
        exact ⟨rfl, rfl, rfl⟩
      · rintro error later hholds
        exact ⟨hholds, rfl⟩
  · rintro error _ rfl
    rfl

theorem keeps_confirmBurst (config : Config) (channel : UInt8) (data : List UInt8)
    (timeout : Nat) :
    (confirmBurst config channel data timeout).Keeps (transferProtocol (some channel))
      (fun _ later => later.holds = false ∧ later.rest = [] ∧
        (data ≠ [] ∨ later.begun = true → later.completed = true))
      (fun _ later => later.holds = false)
      { rest := (Call.burst channel data (some timeout)).frames } := by
  rw [confirmBurst, Call.frames]
  cases hpackets : BurstPacket.split channel data with
  | nil =>
      rw [keeps_pure]
      refine ⟨rfl, rfl, ?_⟩
      rintro (hdata | hbegun)
      · exact absurd ((BurstPacket.split_eq_nil_iff channel data).mp hpackets) hdata
      · cases hbegun
  | cons first rest =>
      rw [keeps_bind]
      refine (keeps_of_observes observes_clock).mono ?_ fun _ _ hlater => hlater ▸ rfl
      rintro start _ rfl
      rw [keeps_bind]
      refine (keeps_of_observes (observes_policyFor config timeout)).mono ?_
        fun _ _ hlater => hlater ▸ rfl
      rintro policy _ rfl
      refine keeps_transferring rfl ?_ (fun _ => rfl) ?_
      · rintro own ⟨⟩
        exact ⟨rfl, rfl⟩
      · rw [keeps_bind]
        refine (keeps_of_observes (observes_remainingSince policy start)).mono ?_
          fun _ _ hlater => hlater ▸ ⟨rfl, rfl⟩
        rintro whole _ rfl
        rw [keeps_bind]
        refine Keeps.mono (keeps_writeBurst config channel whole _ rfl rfl rfl) ?_
          fun _ _ hholds => ⟨hholds, rfl⟩
        rintro sent _ rfl
        rw [keeps_bind]
        refine (keeps_of_observes (observes_remainingSince policy start)).mono ?_
          fun _ _ hlater => hlater ▸ ⟨rfl, rfl⟩
        rintro left _ rfl
        refine Keeps.mono (keeps_finishTransfer channel left rfl) ?_
          fun _ _ hholds => ⟨hholds, rfl⟩
        rintro done _ rfl
        exact ⟨rfl, rfl, rfl, fun _ => rfl⟩

theorem keeps_confirmData (config : Config) (channel : UInt8) (kind : TransferKind)
    (command : Command) (timeout : Nat) :
    (confirmData config channel kind command timeout).Keeps (transferProtocol none)
      (fun _ later => later.holds = false) (fun _ later => later.holds = false) {} := by
  rw [confirmData, keeps_bind]
  refine (keeps_of_observes observes_clock).mono ?_ fun _ _ hlater => hlater ▸ rfl
  rintro start _ rfl
  rw [keeps_bind]
  refine (keeps_of_observes (observes_policyFor config timeout)).mono ?_
    fun _ _ hlater => hlater ▸ rfl
  rintro policy _ rfl
  refine keeps_transferring rfl (fun _ hown => nomatch hown) (fun _ => rfl) ?_
  rw [keeps_bind]
  refine (keeps_of_plain (plain_of_asks (asks_writeFramed _))).mono ?_ fun _ _ hlater =>
    ⟨hlater.2, rfl⟩
  rintro sent later ⟨_, hholds⟩
  refine keeps_perform.mpr ⟨hholds, fun _ => ?_⟩
  rw [keeps_bind]
  refine (keeps_of_observes (observes_remainingSince policy start)).mono ?_
    fun _ _ hlater => hlater ▸ ⟨hholds, rfl⟩
  rintro left _ rfl
  refine Keeps.mono (keeps_finishTransfer channel left hholds) ?_ fun _ _ hholds => ⟨hholds, rfl⟩
  rintro done _ rfl
  exact ⟨hholds, rfl⟩

end Action

namespace Call

open AntHost.Action

variable {call : Call} {action : Action Reply}

theorem ends_of_burst {stage : TransferStage} {channel : UInt8} {data : List UInt8}
    {timeout : Option Nat}
    (hkeeps : action.Keeps (transferProtocol (some channel))
      (fun _ later => later.holds = false ∧ later.rest = [] ∧
        (timeout.isSome → data ≠ [] ∨ later.begun = true → later.completed = true))
      (fun _ later => later.holds = false) stage) :
    action.run.Keeps (transferProtocol (some channel)) (burst channel data timeout).Ends
      stage := by
  refine Program.Keeps.mono hkeeps ?_
  rintro (error | reply) later hlater
  · exact ⟨hlater, nofun, nofun⟩
  · refine ⟨hlater.1, fun _ _ _ => hlater.2.1, ?_⟩
    rintro _ _ _ limit _ ⟨⟩ hdata
    exact hlater.2.2 rfl hdata

theorem ends_of_free (hburst : call.burst? = none)
    (hkeeps : action.Keeps (transferProtocol none) (fun _ later => later.holds = false)
      (fun _ later => later.holds = false) {}) :
    action.run.Keeps (transferProtocol none) call.Ends {} := by
  refine Program.Keeps.mono hkeeps ?_
  rintro (error | reply) later hholds
  · exact ⟨hholds, nofun, nofun⟩
  · refine ⟨hholds, fun _ _ hsome => ?_, ?_⟩
    · rw [hburst] at hsome
      cases hsome
    · rintro _ channel data timeout _ rfl
      cases hburst

theorem ends_of_plain (hburst : call.burst? = none) (honly : action.Only Op.Plain) :
    action.run.Keeps (transferProtocol none) call.Ends {} := by
  refine ends_of_free hburst ?_
  exact (keeps_of_plain honly).mono (fun _ _ hlater => hlater.2) fun _ _ hlater => hlater.2

theorem ends_of_asks (hburst : call.burst? = none) (honly : action.Only Op.Asks) :
    action.run.Keeps (transferProtocol none) call.Ends {} :=
  ends_of_plain hburst (plain_of_asks honly)

theorem only_acknowledge {kind : Op → Prop} {action : Action Unit} (honly : action.Only kind) :
    (acknowledge action).Only kind :=
  only_bind honly fun _ => only_pure

theorem only_fetch {kind : Op → Prop} {action : Action Message} (honly : action.Only kind) :
    (fetch action).Only kind :=
  only_bind honly fun _ => only_pure

theorem keeps_acknowledge {Stage : Type} {protocol : Protocol Stage} {stage : Stage}
    {good : Reply → Stage → Prop} {bad : CallError → Stage → Prop} {action : Action Unit}
    (hkeeps : action.Keeps protocol (fun _ later => good .done later) bad stage) :
    (acknowledge action).Keeps protocol good bad stage :=
  keeps_bind.mpr hkeeps

/-- Every call treats the transfer monitor as it should. -/
theorem keeps (config : Config) (onRouter : Bool) (call : Call) :
    (call.program config onRouter).Keeps (transferProtocol call.burst?) call.Ends
      { rest := call.frames } := by
  cases call with
  | command body timeout =>
      cases timeout with
      | none => exact ends_of_asks rfl (only_acknowledge (asks_writeFramed _))
      | some timeout =>
          exact ends_of_asks rfl (only_acknowledge (asks_confirmCommand config body timeout))
  | raw id payload => exact ends_of_asks rfl (only_acknowledge (asks_writeFramed _))
  | reset timeout =>
      cases timeout with
      | none => exact ends_of_asks rfl (only_acknowledge (asks_writeFramed _))
      | some timeout => exact ends_of_asks rfl (only_fetch (asks_confirmReset config timeout))
  | request channel messageId timeout =>
      cases timeout with
      | none => exact ends_of_asks rfl (only_acknowledge (asks_writeFramed _))
      | some timeout =>
          exact ends_of_asks rfl
            (only_fetch (asks_requestMessage config channel messageId timeout))
  | broadcast channel data timeout | acknowledged channel data timeout =>
      cases timeout with
      | none => exact ends_of_asks rfl (only_acknowledge (asks_writeFramed _))
      | some timeout =>
          exact ends_of_free rfl (keeps_acknowledge (keeps_confirmData config channel _ _ timeout))
  | burst channel data timeout =>
      apply ends_of_burst
      cases timeout with
      | none =>
          refine keeps_acknowledge ((keeps_sendBurst config channel data).mono ?_ ?_)
          · exact fun _ _ hlater => ⟨hlater.1, hlater.2, nofun⟩
          · exact fun _ _ hholds => hholds
      | some timeout =>
          refine keeps_acknowledge ((keeps_confirmBurst config channel data timeout).mono ?_ ?_)
          · exact fun _ _ hlater => ⟨hlater.1, hlater.2.1, fun _ => hlater.2.2⟩
          · exact fun _ _ hholds => hholds
  | close => exact ends_of_plain rfl (only_acknowledge (plain_closeSession onRouter))

end Call

end AntHost
