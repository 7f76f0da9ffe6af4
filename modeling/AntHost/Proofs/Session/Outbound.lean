import AntHost.Proofs.Session.Expecting
/-!
# What calls hand to the link

A call has its messages to send, in order. It frames one after the other, looks before each frame
whether the session may still be written to, and waits for nothing until all of them are handed to
the link. A message that does not fit ends the call.
-/

namespace AntHost

/-- A message as a call means to send it. It need not fit a frame. -/
structure Outgoing where
  id : UInt8
  payload : List UInt8
deriving DecidableEq, Repr

namespace Outgoing

def frame (message : Outgoing) : List UInt8 := frameBytes message.id message.payload

def Fits (limit : PayloadLimit) (message : Outgoing) : Prop := message.payload.length ≤ limit.bytes

instance (limit : PayloadLimit) (message : Outgoing) : Decidable (message.Fits limit) :=
  inferInstanceAs (Decidable (_ ≤ _))

/-- The frame of a message, or the reason there is none. -/
def framed (limit : PayloadLimit) (message : Outgoing) : Except FramingError (List UInt8) :=
  if message.Fits limit then .ok message.frame
  else .error (.payloadTooLarge message.payload.length limit.bytes)

/-- What a call fails with whose message does not fit. -/
def refusal (limit : PayloadLimit) (message : Outgoing) : CallError :=
  .framing (.payloadTooLarge message.payload.length limit.bytes)

/-- A message that fits, with the size that any buffer allows for. -/
def message (outgoing : Outgoing) {limit : PayloadLimit} (hfits : outgoing.Fits limit) : Message :=
  ⟨outgoing.id, outgoing.payload, Nat.le_trans hfits limit.bytes_le⟩

theorem rawFrame_eq (limit : PayloadLimit) (message : Outgoing) :
    rawFrame limit message.id message.payload = message.framed limit := by
  rw [framed]
  split
  next hfits =>
    have hroom : frameSize message.payload.length ≤ emptyFrameBuffer.length := by
      have hlimit := Nat.le_trans hfits limit.bytes_le
      simp only [emptyFrameBuffer, List.length_replicate, frameSize, maxFrameSize]
      omega
    rw [rawFrame, encodeRaw_of_fits _ hfits hroom]
    rfl
  next hfits => rw [rawFrame, encodeRaw, if_pos (Nat.not_le.mp hfits)]

end Outgoing

def Message.outgoing (message : Message) : Outgoing := ⟨message.id, message.payload⟩

def Command.outgoing (command : Command) : Outgoing := ⟨command.messageId.value, command.payload⟩

theorem Command.frame_eq (limit : PayloadLimit) (command : Command) :
    commandFrame limit command = command.outgoing.framed limit := by
  rw [commandFrame_eq, Outgoing.framed]
  by_cases hfits : command.outgoing.Fits limit
  · exact (if_neg (Nat.not_lt.mpr hfits)).trans (if_pos hfits).symm
  · exact (if_pos (Nat.not_le.mp hfits)).trans (if_neg hfits).symm

namespace Call

/-- The messages that a call has to send, in order. -/
def outbound : Call → List Outgoing
  | command body _ => [body.outgoing]
  | raw id payload => [⟨id, payload⟩]
  | reset _ => [Command.resetSystem.outgoing]
  | request channel messageId _ => [(Command.requestMessage channel messageId).outgoing]
  | broadcast channel data _ => [(Command.broadcastData channel data).outgoing]
  | acknowledged channel data _ => [(Command.acknowledgedData channel data).outgoing]
  | burst channel data _ => (BurstPacket.split channel data).map fun packet =>
      packet.command.outgoing
  | close => []

/-- All messages of a call have the same size. -/
theorem length_eq_of_mem {call : Call} {first second : Outgoing} (hfirst : first ∈ call.outbound)
    (hsecond : second ∈ call.outbound) : first.payload.length = second.payload.length := by
  cases call with
  | burst channel data timeout =>
      obtain ⟨one, _, rfl⟩ := List.mem_map.mp hfirst
      obtain ⟨other, _, rfl⟩ := List.mem_map.mp hsecond
      simp [BurstPacket.command, Command.outgoing, Command.payload]
  | close => cases hfirst
  | _ => rw [List.mem_singleton.mp hfirst, List.mem_singleton.mp hsecond]

/-- How a transfer may end before it has framed anything: it was not admitted, its wait for that
panicked, or its burst was given up before the first packet. -/
def EndsEarly (call : Call) (error : CallError) : Prop :=
  call.transfer?.isSome ∧ ((∃ reason, error = .ofWait reason) ∨ error = .panicked) ∨
    ∃ channel, call.burst? = some channel ∧ error = .transferFailed channel

/-- What a call may fail with that cannot be framed. -/
def Declines (limit : PayloadLimit) (call : Call) (error : CallError) : Prop :=
  ∀ message ∈ call.outbound, ¬ message.Fits limit →
    error = message.refusal limit ∨ call.EndsEarly error

theorem declines_of_fits {limit : PayloadLimit} {call : Call}
    (hfits : ∀ message ∈ call.outbound, message.Fits limit) (error : CallError) :
    call.Declines limit error :=
  fun message hmessage hunfit => absurd (hfits message hmessage) hunfit

end Call

/-! ## The conduct -/

/-- How far a call is with its messages. -/
structure LinkStage where
  /-- Those that are still to be handed to the link. -/
  rest : List Outgoing := []
  /-- Whether a look since the last frame found that frames may be written. -/
  cleared : Bool := false

namespace LinkStage

/-- The stage after a reply. -/
def next (stage : LinkStage) : (op : Op) → op.Reply → LinkStage
  | .mayWrite, open? => { stage with cleared := open? }
  | .write _, _ => { rest := stage.rest.tail }
  | _, _ => stage

/-- What a call may do at a stage. It waits for its transfer to begin only, as long as it has
something to send. -/
def Allows (limit : PayloadLimit) (call : Call) (stage : LinkStage) : Op → Prop
  | .mayWrite => ∃ message ∈ stage.rest.head?, message.Fits limit
  | .write frame => stage.cleared = true ∧
      ∃ message ∈ stage.rest.head?, message.Fits limit ∧ frame = message.frame
  | .beginTransfer .. => call.transfer?.isSome
  | .awaitResponse .. | .awaitOutcome .. | .awaitStopped | .joinRouter => stage.rest = []
  | _ => True

/-- All messages were handed to the link, and all of them fit. -/
def Handed (limit : PayloadLimit) (call : Call) (stage : LinkStage) : Prop :=
  stage.rest = [] ∧ ∀ message ∈ call.outbound, message.Fits limit

end LinkStage

/-- The conduct of calls towards the link. -/
def linkConduct (limit : PayloadLimit) : Conduct LinkStage where
  idle := {}
  enter call := { rest := call.outbound }
  allows := LinkStage.Allows limit
  next := LinkStage.next
  ends call result stage :=
    match result with
    | .ok _ => stage.Handed limit call
    | .error error => call.Declines limit error

/-- Operations that neither lead to the link nor take the transfer monitor. -/
def Op.Silent : Op → Prop
  | mayWrite | write _ | beginTransfer .. => False
  | _ => True

namespace Action

variable {α β : Type} {limit : PayloadLimit} {call : Call} {stage : LinkStage} {action : Action α}
  {message : Outgoing} {frame : Except FramingError (List UInt8)}

/-- From a stage on, an action hands everything to the link, or fails as its call may. -/
def HandsOver (limit : PayloadLimit) (call : Call) (action : Action α) (stage : LinkStage) : Prop :=
  action.Keeps ((linkConduct limit).protocol call) (fun _ later => later.Handed limit call)
    (fun error _ => call.Declines limit error) stage

/-! ## Actions that send nothing -/

theorem silent_clock : clock.Only Op.Silent := only_single trivial

theorem silent_policyFor (config : Config) (timeout : Nat) :
    (policyFor config timeout).Only Op.Silent :=
  only_bind (only_single trivial) fun _ => only_pure

theorem silent_remainingSince (policy : WaitPolicy) (start : Nat) :
    (remainingSince policy start).Only Op.Silent :=
  only_bind silent_clock fun _ => only_ofWait

theorem silent_awaitResponse (first : Ticket) (second : Option Ticket) (policy : WaitPolicy) :
    (awaitResponse first second policy).Only Op.Silent :=
  only_bind silent_clock fun _ => only_bind only_deadlineFrom fun _ =>
    only_bind (only_single trivial) fun _ => only_ofWait

theorem silent_checkResponse (response : Message) : (checkResponse response).Only Op.Silent := by
  unfold checkResponse
  split
  · exact only_pure
  · exact only_throw

theorem silent_finishTransfer (channel : UInt8) (policy : WaitPolicy) :
    (finishTransfer channel policy).Only Op.Silent := by
  refine only_bind silent_clock fun start => ?_
  refine only_bind only_deadlineFrom fun deadline => ?_
  refine only_bind (only_single trivial) fun result => ?_
  refine only_bind only_ofWait fun outcome => ?_
  cases outcome with
  | completed => exact only_pure
  | failed => exact only_throw

theorem silent_closeSession (onRouter : Bool) : (closeSession onRouter).Only Op.Silent := by
  unfold closeSession
  split
  · exact only_throw
  · refine only_bind (only_single trivial) fun already => ?_
    split
    · exact only_pure
    · exact only_bind (only_single trivial) fun _ => only_bind (only_single trivial) fun _ =>
        only_bind (only_single trivial) fun _ => only_bind (only_single trivial) fun _ =>
          only_single trivial

/-- Once everything is handed to the link, a call may wait as it likes. -/
theorem handsOver_of_silent (hhanded : stage.Handed limit call) (honly : action.Only Op.Silent) :
    action.HandsOver limit call stage := by
  refine (Only.keeps honly ?_ hhanded).mono (fun _ _ hlater => hlater) fun error _ hlater =>
    Call.declines_of_fits hlater.2 error
  intro later op hlater hop
  cases op with
  | mayWrite | write | beginTransfer => exact hop.elim
  | awaitResponse | awaitOutcome | awaitStopped | joinRouter => exact ⟨hlater.1, fun _ => hlater⟩
  | _ => exact ⟨trivial, fun _ => hlater⟩

theorem HandsOver.bind {rest : α → Action β} (hands : action.HandsOver limit call stage)
    (hsilent : ∀ value, (rest value).Only Op.Silent) :
    (action >>= rest).HandsOver limit call stage :=
  keeps_bind.mpr (hands.mono (fun value _ hhanded => handsOver_of_silent hhanded (hsilent value))
    fun _ _ hdeclines => hdeclines)

/-! ## Sending -/

/-- A message is framed, and then handed to the link unless the session is closed. -/
theorem keeps_sendNext {rest : List Outgoing} (hmessage : message ∈ call.outbound)
    (hrest : stage.rest = message :: rest) (hframe : frame = message.framed limit) :
    (writeFramed frame).Keeps ((linkConduct limit).protocol call)
      (fun _ later => later = { rest } ∧ ∀ other ∈ call.outbound, other.Fits limit)
      (fun error _ => call.Declines limit error) stage := by
  subst hframe
  have hhead : message ∈ stage.rest.head? := by rw [hrest, List.head?_cons, Option.mem_some]
  by_cases hfits : message.Fits limit
  · have hall : ∀ other ∈ call.outbound, other.Fits limit := by
      intro other hother
      rw [Outgoing.Fits, Call.length_eq_of_mem hother hmessage]
      exact hfits
    rw [Outgoing.framed, if_pos hfits]
    refine keeps_perform.mpr ⟨⟨message, hhead, hfits⟩, ?_⟩
    rintro (_ | _)
    · exact Call.declines_of_fits hall _
    · refine keeps_perform.mpr ⟨⟨rfl, message, hhead, hfits, rfl⟩, ?_⟩
      rintro (error | ⟨⟩)
      · exact Call.declines_of_fits hall _
      · refine ⟨?_, hall⟩
        change ({ rest := stage.rest.tail } : LinkStage) = { rest }
        rw [hrest, List.tail_cons]
  · rw [Outgoing.framed, if_neg hfits]
    intro other hother _
    refine .inl ?_
    rw [Outgoing.refusal, Call.length_eq_of_mem hother hmessage]

theorem handsOver_writeFramed (hmessage : message ∈ call.outbound)
    (hrest : stage.rest = [message]) (hframe : frame = message.framed limit) :
    (writeFramed frame).HandsOver limit call stage := by
  refine (keeps_sendNext hmessage hrest hframe).mono ?_ fun _ _ hdeclines => hdeclines
  rintro _ _ ⟨rfl, hfits⟩
  exact ⟨rfl, hfits⟩

/-- To expect a response has nothing to do with the link. -/
theorem handsOver_expecting {messageId : UInt8} {channel : Option UInt8} {body : Ticket → Action α}
    (hbody : ∀ ticket, (body ticket).HandsOver limit call stage) :
    (expecting messageId channel body).HandsOver limit call stage := by
  refine keeps_perform.mpr ⟨trivial, fun ticket => ?_⟩
  refine (keeps_andLast rfl).mpr ((hbody ticket).mono ?_ ?_)
  · exact fun _ _ hhanded => ⟨trivial, fun _ => hhanded⟩
  · exact fun _ _ hdeclines => ⟨trivial, fun _ => hdeclines⟩

/-- A transfer may not be admitted; if it is, everything is still to be sent. -/
theorem handsOver_transferring {channel : UInt8} {kind : TransferKind} {packets : Nat}
    {policy : WaitPolicy} {body : Action α} (htransfer : call.transfer?.isSome)
    (hbody : body.HandsOver limit call stage) :
    (transferring channel kind packets policy body).HandsOver limit call stage := by
  refine keeps_perform.mpr ⟨trivial, fun start => ?_⟩
  refine keeps_deadlineFrom (fun deadline _ => ?_)
    fun _ _ _ _ _ => .inr (.inl ⟨htransfer, .inr rfl⟩)
  refine keeps_perform.mpr ⟨htransfer, ?_⟩
  rintro (reason | ⟨⟩)
  · exact fun _ _ _ => .inr (.inl ⟨htransfer, .inl ⟨reason, rfl⟩⟩)
  · refine (keeps_andLast rfl).mpr (hbody.mono ?_ ?_)
    · exact fun _ _ hhanded => ⟨trivial, fun _ => hhanded⟩
    · exact fun _ _ hdeclines => ⟨trivial, fun _ => hdeclines⟩

theorem handsOver_policyFor {config : Config} {timeout : Nat} {rest : WaitPolicy → Action α}
    (hrest : ∀ policy, (rest policy).HandsOver limit call stage) :
    (policyFor config timeout >>= rest).HandsOver limit call stage :=
  keeps_perform.mpr ⟨trivial, fun _ => hrest _⟩

/-- A transfer may run out of time before it has sent everything. -/
theorem handsOver_remainingSince {policy : WaitPolicy} {start : Nat} {rest : WaitPolicy → Action α}
    (htransfer : call.transfer?.isSome)
    (hrest : ∀ left, (rest left).HandsOver limit call stage) :
    (remainingSince policy start >>= rest).HandsOver limit call stage := by
  refine keeps_bind.mpr (keeps_perform.mpr ⟨trivial, fun later => ?_⟩)
  cases policy.remaining (later - start) with
  | ok left => exact hrest left
  | error reason => exact fun _ _ _ => .inr (.inl ⟨htransfer, .inl ⟨reason, rfl⟩⟩)

/-! ## Every call keeps the conduct -/

theorem handsOver_confirmCommand (config : Config) (command : Command) (timeout : Nat)
    (hmessage : command.outgoing ∈ call.outbound) (hrest : stage.rest = [command.outgoing]) :
    (confirmCommand config command timeout).HandsOver config.limit call stage := by
  refine HandsOver.bind (handsOver_expecting fun ticket => ?_) silent_checkResponse
  refine (handsOver_writeFramed hmessage hrest (command.frame_eq _)).bind fun _ => ?_
  exact only_bind (silent_policyFor config timeout) fun policy =>
    silent_awaitResponse ticket none policy

theorem handsOver_confirmReset (config : Config) (timeout : Nat)
    (hmessage : Command.resetSystem.outgoing ∈ call.outbound)
    (hrest : stage.rest = [Command.resetSystem.outgoing]) :
    (confirmReset config timeout).HandsOver config.limit call stage := by
  refine handsOver_expecting fun ticket => ?_
  refine (handsOver_writeFramed hmessage hrest (Command.frame_eq _ _)).bind fun _ => ?_
  exact only_bind (silent_policyFor config timeout) fun policy =>
    silent_awaitResponse ticket none policy

theorem handsOver_requestMessage (config : Config) (channel messageId : UInt8) (timeout : Nat)
    (hmessage : (Command.requestMessage channel messageId).outgoing ∈ call.outbound)
    (hrest : stage.rest = [(Command.requestMessage channel messageId).outgoing]) :
    (requestMessage config channel messageId timeout).HandsOver config.limit call stage := by
  refine handsOver_expecting fun pending => ?_
  refine HandsOver.bind (handsOver_expecting fun refusal => ?_) ?_
  · refine (handsOver_writeFramed hmessage hrest (Command.frame_eq _ _)).bind fun _ => ?_
    refine only_bind silent_clock fun start => ?_
    refine only_bind (silent_policyFor config timeout) fun policy => ?_
    refine only_bind (silent_awaitResponse pending (some refusal) policy) fun message => ?_
    split
    · exact only_pure
    · exact only_bind (silent_checkResponse message) fun _ => only_pure
  · rintro ⟨message, policy, start⟩
    dsimp only
    split
    · exact only_pure
    · exact only_bind (silent_remainingSince policy start) fun left =>
        silent_awaitResponse pending none left

theorem handsOver_confirmData (config : Config) (channel : UInt8) (kind : TransferKind)
    (command : Command) (timeout : Nat) (htransfer : call.transfer?.isSome)
    (hmessage : command.outgoing ∈ call.outbound) (hrest : stage.rest = [command.outgoing]) :
    (confirmData config channel kind command timeout).HandsOver config.limit call stage := by
  refine keeps_perform.mpr ⟨trivial, fun start => handsOver_policyFor fun policy => ?_⟩
  refine handsOver_transferring htransfer ?_
  refine (handsOver_writeFramed hmessage hrest (command.frame_eq _)).bind fun _ => ?_
  refine only_bind (only_single trivial) fun _ => ?_
  exact only_bind (silent_remainingSince policy start) fun left =>
    silent_finishTransfer channel left

/-- The packets of a burst are sent in order. Before each the burst may be given up. -/
theorem handsOver_writePackets (config : Config) {channel : UInt8} (policy : WaitPolicy)
    (start : Nat) {packets : List BurstPacket} (hburst : call.burst? = some channel)
    (htransfer : call.transfer?.isSome)
    (hmem : ∀ packet ∈ packets, packet.command.outgoing ∈ call.outbound)
    (hrest : stage.rest = packets.map fun packet => packet.command.outgoing)
    (hfits : packets = [] → ∀ message ∈ call.outbound, message.Fits config.limit) :
    (writePackets config channel policy start packets).HandsOver config.limit call stage := by
  induction packets generalizing stage with
  | nil => exact ⟨hrest, hfits rfl⟩
  | cons packet rest ih =>
      rw [List.map_cons] at hrest
      rw [List.forall_mem_cons] at hmem
      refine keeps_perform.mpr ⟨trivial, ?_⟩
      rintro (_ | _)
      · refine keeps_perform.mpr ⟨trivial, fun raised => ?_⟩
        dsimp only
        split
        next => exact fun _ _ _ => .inr (.inl ⟨htransfer, .inl ⟨.cancelled, rfl⟩⟩)
        next =>
          refine handsOver_remainingSince htransfer fun _ => keeps_bind.mpr ?_
          refine Keeps.mono (keeps_sendNext hmem.1 hrest (packet.command.frame_eq _)) ?_
            fun _ _ hdeclines => hdeclines
          rintro _ _ ⟨rfl, hall⟩
          exact keeps_perform.mpr ⟨trivial, fun _ => ih hmem.2 rfl fun _ => hall⟩
      · exact fun _ _ _ => .inr (.inr ⟨channel, hburst, rfl⟩)

theorem handsOver_writeBurst (config : Config) {channel : UInt8} (policy : WaitPolicy)
    {data : List UInt8} (timeout : Option Nat) {packets : List BurstPacket}
    (hpackets : BurstPacket.split channel data = packets) :
    (writeBurst config channel policy packets).HandsOver config.limit (.burst channel data timeout)
      { rest := (Call.burst channel data timeout).outbound } := by
  subst hpackets
  refine keeps_perform.mpr ⟨trivial, fun start => ?_⟩
  refine handsOver_writePackets config policy start rfl rfl ?_ rfl ?_
  · exact fun packet hpacket => List.mem_map_of_mem hpacket
  · intro hnone message hmessage
    rw [Call.outbound, hnone] at hmessage
    cases hmessage

theorem handsOver_sendBurst (config : Config) (channel : UInt8) (data : List UInt8) :
    (sendBurst config channel data).HandsOver config.limit (.burst channel data none)
      { rest := (Call.burst channel data none).outbound } :=
  handsOver_policyFor fun policy =>
    handsOver_transferring rfl (handsOver_writeBurst config policy none rfl)

theorem handsOver_confirmBurst (config : Config) (channel : UInt8) (data : List UInt8)
    (timeout : Nat) :
    (confirmBurst config channel data timeout).HandsOver config.limit
      (.burst channel data (some timeout))
      { rest := (Call.burst channel data (some timeout)).outbound } := by
  unfold confirmBurst
  split
  next hnone =>
    have hout : (Call.burst channel data (some timeout)).outbound = [] := by
      rw [Call.outbound, hnone, List.map_nil]
    exact ⟨hout, fun message hmessage => nomatch hout ▸ hmessage⟩
  next first rest hpackets =>
    refine keeps_perform.mpr ⟨trivial, fun start => handsOver_policyFor fun policy => ?_⟩
    refine handsOver_transferring rfl (handsOver_remainingSince rfl fun whole => ?_)
    refine (handsOver_writeBurst config whole (some timeout) hpackets).bind fun _ => ?_
    exact only_bind (silent_remainingSince policy start) fun left =>
      silent_finishTransfer channel left

end Action

namespace Call

open AntHost.Action

variable {limit : PayloadLimit} {call : Call} {stage : LinkStage}

theorem keeps_of_handsOver {action : Action Reply} (hands : action.HandsOver limit call stage) :
    action.run.Keeps ((linkConduct limit).protocol call) ((linkConduct limit).ends call) stage := by
  refine Program.Keeps.mono hands ?_
  rintro (error | reply) later hend
  · exact hend
  · exact hend

theorem keeps_acknowledged {action : Action Unit} (hands : action.HandsOver limit call stage) :
    (acknowledge action).run.Keeps ((linkConduct limit).protocol call)
      ((linkConduct limit).ends call) stage :=
  keeps_of_handsOver (hands.bind fun _ => only_pure)

theorem keeps_fetched {action : Action Message} (hands : action.HandsOver limit call stage) :
    (fetch action).run.Keeps ((linkConduct limit).protocol call) ((linkConduct limit).ends call)
      stage :=
  keeps_of_handsOver (hands.bind fun _ => only_pure)

/-- Every call hands its messages to the link as it should. -/
theorem links (config : Config) : (linkConduct config.limit).SoundFor config := by
  intro onRouter call
  have hcommand : ∀ command : Command, call.outbound = [command.outgoing] →
      (sendCommand config command).HandsOver config.limit call { rest := call.outbound } :=
    fun command hout => handsOver_writeFramed (hout ▸ List.mem_singleton_self _) hout
      (command.frame_eq _)
  cases call with
  | command body timeout =>
      cases timeout with
      | none => exact keeps_acknowledged (hcommand _ rfl)
      | some timeout =>
          exact keeps_acknowledged (handsOver_confirmCommand config body timeout
            (List.mem_singleton_self _) rfl)
  | raw id payload =>
      exact keeps_acknowledged (handsOver_writeFramed (List.mem_singleton_self _) rfl
        (Outgoing.rawFrame_eq config.limit ⟨id, payload⟩))
  | reset timeout =>
      cases timeout with
      | none => exact keeps_acknowledged (hcommand _ rfl)
      | some timeout =>
          exact keeps_fetched
            (handsOver_confirmReset config timeout (List.mem_singleton_self _) rfl)
  | request channel messageId timeout =>
      cases timeout with
      | none => exact keeps_acknowledged (hcommand _ rfl)
      | some timeout =>
          exact keeps_fetched (handsOver_requestMessage config channel messageId timeout
            (List.mem_singleton_self _) rfl)
  | broadcast channel data timeout | acknowledged channel data timeout =>
      cases timeout with
      | none => exact keeps_acknowledged (hcommand _ rfl)
      | some timeout =>
          exact keeps_acknowledged (handsOver_confirmData config channel _ _ timeout rfl
            (List.mem_singleton_self _) rfl)
  | burst channel data timeout =>
      cases timeout with
      | none => exact keeps_acknowledged (handsOver_sendBurst config channel data)
      | some timeout =>
          exact keeps_acknowledged (handsOver_confirmBurst config channel data timeout)
  | close =>
      exact keeps_acknowledged (handsOver_of_silent ⟨rfl, fun _ hmessage => nomatch hmessage⟩
        (silent_closeSession onRouter))

end Call

end AntHost
