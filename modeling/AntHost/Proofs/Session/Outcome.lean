import AntHost.Proofs.Session.Blocks
/-!
# What a holder sees of its transfer

While a thread holds the monitor, nobody but the router changes what the monitor says of its
transfer. So a burst that sees its transfer completed was told so by the device, on its own channel
and while it held the monitor.
-/

namespace AntHost

variable {H β : Type}

/-! ## Channel events on the wire -/

namespace Message

/-- A channel event of some code. -/
structure Reports (message : Message) (channel code : UInt8) : Prop where
  id : message.id = 0x40
  channel : message.byteAt 0 &&& 0x1F = channel
  event : message.byteAt 1 = 1
  code : message.byteAt 2 = code

theorem route?_of_reports {message : Message} {channel code : UInt8}
    (hreports : message.Reports channel code) :
    message.route? = some (.channelEvent channel code) := by
  have hpayload : message.payload ≠ [] := by
    intro hempty
    have hevent := hreports.event
    rw [byteAt, hempty] at hevent
    cases hevent
  rw [route?_of_channelEvent hpayload hreports.id, if_pos hreports.event, hreports.code]
  exact congrArg (fun own => some (Route.channelEvent own code)) hreports.channel

theorem reports_of_route? {message : Message} {channel code : UInt8}
    (hroute : message.route? = some (.channelEvent channel code)) :
    message.Reports channel code := by
  have hpayload : message.payload ≠ [] := by
    intro hempty
    rw [route?, if_pos hempty] at hroute
    cases hroute
  by_cases hid : message.id = 0x40
  · rw [route?_of_channelEvent hpayload hid] at hroute
    split at hroute
    next hevent =>
      cases hroute
      exact ⟨hid, rfl, hevent, rfl⟩
    next => cases hroute
  · cases hdata : message.dataDelivery? with
    | none =>
        rw [route?_of_other hpayload hid hdata] at hroute
        cases hroute
    | some delivery =>
        obtain ⟨event, _, hother⟩ := route?_of_data hpayload hdata
        rw [hother] at hroute
        cases hroute

end Message

/-- A burst is completed by one code only. -/
theorem TransferKind.code_of_completed {code : UInt8}
    (hverdict : TransferKind.burst.verdict code = some .completed) : code = 0x05 := by
  rw [verdict, if_neg (by decide)] at hverdict
  split at hverdict
  next hcode => exact hcode
  next =>
    split at hverdict
    next => cases hverdict
    next => cases hverdict

/-! ## What operations do to a transfer -/

namespace Op

variable {op : Op} {reply : op.Reply} {monitor : TransferMonitor}

/-- Whether the reply says that the transfer is completed. -/
def completes : (op : Op) → op.Reply → Bool
  | awaitOutcome .., .ok .completed => true
  | _, _ => false

theorem completed_next (stage : TransferStage) (reply : op.Reply) :
    (stage.next op reply).completed = (stage.completed || op.completes reply) := by
  cases op with
  | beginTransfer => rcases reply with error | ⟨⟩ <;> simp [TransferStage.next, completes]
  | awaitOutcome => rcases reply with error | (_ | _) <;> simp [TransferStage.next, completes]
  | _ => simp [TransferStage.next, completes]

/-- Only a holder is told that its transfer is completed, and only if it is. -/
theorem completed_of_completes {burst? : Option UInt8} {stage : TransferStage}
    (hallows : stage.Allows burst? op) (htells : op.Tells reply monitor)
    (hcompletes : op.completes reply = true) :
    stage.holds = true ∧ monitor.outcome = some .completed := by
  cases op with
  | awaitOutcome =>
      rcases reply with error | (_ | _)
      · cases hcompletes
      · exact ⟨hallows, htells⟩
      · cases hcompletes
  | _ => cases hcompletes

/-- A burst is given the monitor for its own channel, with nothing decided. -/
theorem onTransfer_of_grants {burst? : Option UInt8} {stage : TransferStage}
    (hallows : stage.Allows burst? op) (hgrants : op.grants reply = true) :
    (op.onTransfer reply monitor).outcome = none ∧
      ∀ own ∈ burst?, (op.onTransfer reply monitor).channel = own ∧
        (op.onTransfer reply monitor).kind = some .burst := by
  cases op with
  | beginTransfer =>
      rcases reply with error | ⟨⟩
      · cases hgrants
      · refine ⟨rfl, fun own hown => ?_⟩
        obtain ⟨hchannel, hkind⟩ := hallows.2 own hown
        exact ⟨hchannel, congrArg some hkind⟩
  | _ => cases hgrants

/-- Every other operation leaves a transfer to itself, unless it is given up. -/
theorem onTransfer_of_keeps (hgrants : op.grants reply = false) (hrelease : op ≠ releaseTransfer) :
    (op.onTransfer reply monitor).channel = monitor.channel ∧
      (op.onTransfer reply monitor).kind = monitor.kind ∧
      (op.onTransfer reply monitor).outcome = monitor.outcome := by
  cases op with
  | beginTransfer =>
      rcases reply with error | ⟨⟩
      · exact ⟨rfl, rfl, rfl⟩
      · cases hgrants
  | releaseTransfer => exact absurd rfl hrelease
  | _ => exact ⟨rfl, rfl, rfl⟩

end Op

namespace Machine

variable [DecidableEq β] {config : Config} {events : List (Event H β)} {machine next : Machine H β}
  {event : Event H β} {stages later : Nat → TransferStage}

/-- What an event has been for the thread that holds the monitor after it. -/
inductive HolderView (events : List (Event H β)) (machine : Machine H β)
    (stages : Nat → TransferStage) (event : Event H β) (next : Machine H β) (thread : Nat) :
    Prop where
  /-- The thread was given the monitor. -/
  | given (hlt : thread < machine.threads.length) (hfirst : (stages thread).begun = false)
      (hundecided : next.session.transfer.outcome = none)
      (hown : ∀ own ∈ burst? events thread, next.session.transfer.channel = own ∧
        next.session.transfer.kind = some .burst)
      (hgrants : ∃ (op : Op) (rest : op.Reply → Program (Except CallError Reply))
        (reply : op.Reply), machine.threads[thread]? = some (.perform op rest) ∧
          op.grants reply = true ∧
          next.session.transfer = op.onTransfer reply machine.session.transfer)
  /-- The device told of an event on a channel. -/
  | told {message : Message} {channel code : UInt8} (hholds : (stages thread).holds = true)
      (hevent : event = .route message) (hreports : message.Reports channel code)
      (htransfer : next.session.transfer = machine.session.transfer.onEvent channel code)
  /-- The transfer went on as it was. -/
  | kept (hholds : (stages thread).holds = true)
      (hchannel : next.session.transfer.channel = machine.session.transfer.channel)
      (hkind : next.session.transfer.kind = machine.session.transfer.kind)
      (houtcome : next.session.transfer.outcome = machine.session.transfer.outcome)

theorem Held.lt_of_holds (hheld : Held config events machine stages) {thread : Nat}
    (hholds : (stages thread).holds = true) : thread < machine.threads.length :=
  hheld.lt thread (hheld.holding.begun thread hholds)

theorem Held.view_performed {performer thread : Nat} {op : Op}
    {rest : op.Reply → Program (Except CallError Reply)} {reply : op.Reply} {session : Session H β}
    {result : Except TransportError Unit} (hheld : Held config events machine stages)
    (hthread : machine.threads[performer]? = some (.perform op rest))
    (hexec : op.exec machine.now result machine.session = some (reply, session))
    (hholds : (Function.update stages performer ((stages performer).next op reply) thread).holds =
      true) (next : Machine H β) (hnext : next.session = session) :
    HolderView events machine stages event next thread := by
  obtain ⟨call, hcall, hallows, _⟩ := hheld.allows hthread
  obtain ⟨htransfer, htells⟩ := Op.exec_transfer hexec
  have hview : next.session.transfer = op.onTransfer reply machine.session.transfer :=
    hnext ▸ htransfer
  have hkept : (stages thread).holds = true → op.grants reply = false → op ≠ .releaseTransfer →
      HolderView events machine stages event next thread := by
    intro hbefore hgrants hrelease
    obtain ⟨hchannel, hkind, houtcome⟩ :=
      @Op.onTransfer_of_keeps op reply machine.session.transfer hgrants hrelease
    exact .kept hbefore (hview ▸ hchannel) (hview ▸ hkind) (hview ▸ houtcome)
  by_cases hsame : thread = performer
  · subst hsame
    rw [Function.update_self, Op.holds_next] at hholds
    cases hgrants : op.grants reply with
    | true =>
        obtain ⟨hundecided, hown⟩ :=
          @Op.onTransfer_of_grants op reply machine.session.transfer _ _ hallows hgrants
        refine .given (List.getElem?_eq_some_iff.mp hthread).1 (Op.first_of_grants hallows hgrants)
          (hview ▸ hundecided) ?_ ⟨op, rest, reply, hthread, hgrants, hview⟩
        rw [burst?, hcall, hview]
        exact hown
    | false =>
        rw [hgrants, Bool.false_or, Bool.and_eq_true, decide_eq_true_eq] at hholds
        exact hkept hholds.1 hgrants hholds.2
  · rw [Function.update_of_ne hsame] at hholds
    -- While the thread holds the monitor, nobody else is given it or may let go of it.
    refine hkept hholds ?_ ?_
    · rw [← Bool.not_eq_true]
      intro hgrants
      have hbusy := hheld.holding.busy_of_holds thread hholds
      rw [Op.free_of_grants htells hgrants] at hbusy
      cases hbusy
    · rintro rfl
      exact hsame (hheld.holding.unique hholds hallows)

theorem Held.view (hheld : Held config events machine stages)
    (hmoves : Moves machine stages event next later) {thread : Nat}
    (hholds : (later thread).holds = true) :
    HolderView events machine stages event next thread := by
  cases hmoves with
  | begun call onRouter =>
      by_cases hnew : thread = machine.threads.length
      · rw [hnew, Function.update_self] at hholds
        cases hholds
      · rw [Function.update_of_ne hnew] at hholds
        exact .kept hholds rfl rfl rfl
  | performed hthread hexec => exact hheld.view_performed hthread hexec hholds _ rfl
  | routed message =>
      have htransfer := machine.session.route_transfer message
      cases hroute : message.route? with
      | some route =>
          rw [hroute] at htransfer
          cases route with
          | channelEvent channel code =>
              exact .told hholds rfl (Message.reports_of_route? hroute) htransfer
          | _ => exact .kept hholds (by rw [htransfer]) (by rw [htransfer]) (by rw [htransfer])
      | none =>
          rw [hroute] at htransfer
          exact .kept hholds (by rw [htransfer]) (by rw [htransfer]) (by rw [htransfer])
  | changed _ _ htransfer =>
      rcases htransfer with hsame | hclosed
      · exact .kept hholds (by rw [hsame]) (by rw [hsame]) (by rw [hsame])
      · exact .kept hholds (by rw [hclosed]; rfl) (by rw [hclosed]; rfl) (by rw [hclosed]; rfl)

/-- A decided transfer stays so as long as its thread holds the monitor. -/
theorem Held.still_decided (hheld : Held config events machine stages)
    (hmoves : Moves machine stages event next later) {thread : Nat} {outcome : TransferOutcome}
    (hbegun : (stages thread).begun = true)
    (hdecided : (stages thread).holds = true → machine.session.transfer.outcome = some outcome)
    (hholds : (later thread).holds = true) : next.session.transfer.outcome = some outcome := by
  cases hheld.view hmoves hholds with
  | given _ hfirst =>
      rw [hbegun] at hfirst
      cases hfirst
  | told hbefore _ _ htransfer =>
      rw [htransfer, TransferMonitor.onEvent_of_decided (hdecided hbefore)]
      exact hdecided hbefore
  | kept hbefore _ _ hsame => exact hsame.trans (hdecided hbefore)

/-! ## Completed bursts -/

/-- The device reported that a thread's transfer is completed, while the thread held the monitor. -/
def SawCompletion (config : Config) (events : List (Event H β)) (thread : Nat) (channel : UInt8) :
    Prop :=
  ∃ before message after, events = before ++ .route message :: after ∧
    (start config : Machine H β).holder? before = some thread ∧ message.Reports channel 0x05

theorem SawCompletion.concat {thread : Nat} {channel : UInt8}
    (hsaw : SawCompletion config events thread channel) (event : Event H β) :
    SawCompletion config (events ++ [event]) thread channel := by
  obtain ⟨before, message, after, rfl, hholder, hreports⟩ := hsaw
  exact ⟨before, message, after ++ [event], by simp, hholder, hreports⟩

theorem Held.holder?_eq (hheld : Held config events machine stages) {thread : Nat}
    (hholds : (stages thread).holds = true) :
    (start config : Machine H β).holder? events = some thread := by
  rw [holder?, hheld.reached, Option.bind_some,
    if_pos (hheld.holding.busy_of_holds thread hholds), hheld.holding.last thread hholds]

theorem Held.holds_of_holder? (hheld : Held config events machine stages) {thread : Nat}
    (hholder : (start config : Machine H β).holder? events = some thread) :
    (stages thread).holds = true := by
  rw [holder?, hheld.reached, Option.bind_some] at hholder
  split at hholder
  next hbusy =>
    obtain ⟨other, hother⟩ := hheld.holding.exists_holds hbusy
    rw [hheld.holding.last other hother] at hholder
    cases hholder
    exact hother
  next => cases hholder

theorem Moves.begun_of_begun (hheld : Held config events machine stages)
    (hmoves : Moves machine stages event next later) {thread : Nat}
    (hbegun : (stages thread).begun = true) : (later thread).begun = true := by
  cases hmoves with
  | begun call onRouter =>
      rw [Function.update_of_ne (Nat.ne_of_lt (hheld.lt thread hbegun))]
      exact hbegun
  | performed => exact begun_update hbegun
  | routed | changed => exact hbegun

/-- A thread learns that its transfer is completed when it is. -/
theorem Moves.completed_cases (hheld : Held config events machine stages)
    (hmoves : Moves machine stages event next later) {thread : Nat}
    (hcompleted : (later thread).completed = true) :
    (stages thread).completed = true ∨
      (stages thread).holds = true ∧ machine.session.transfer.outcome = some .completed := by
  cases hmoves with
  | begun call onRouter =>
      by_cases hnew : thread = machine.threads.length
      · rw [hnew, Function.update_self] at hcompleted
        cases hcompleted
      · rw [Function.update_of_ne hnew] at hcompleted
        exact .inl hcompleted
  | @performed performer result op rest reply session hthread hexec =>
      by_cases hsame : thread = performer
      · subst hsame
        obtain ⟨call, _, hallows, _⟩ := hheld.allows hthread
        rw [Function.update_self, Op.completed_next, Bool.or_eq_true] at hcompleted
        exact hcompleted.imp_right fun hcompletes =>
          Op.completed_of_completes hallows (Op.exec_transfer hexec).2 hcompletes
      · rw [Function.update_of_ne hsame] at hcompleted
        exact .inl hcompleted
  | routed | changed => exact .inl hcompleted

/-- The monitor is a burst's own while it holds it, and what the burst knows of its completion the
device has reported. -/
structure Seen (config : Config) (events : List (Event H β)) (machine : Machine H β)
    (stages : Nat → TransferStage) : Prop where
  own : ∀ thread, (stages thread).holds = true → ∀ channel ∈ burst? events thread,
    machine.session.transfer.channel = channel ∧ machine.session.transfer.kind = some .burst
  decided : ∀ thread, (stages thread).holds = true →
    machine.session.transfer.outcome = some .completed →
    ∀ channel ∈ burst? events thread, SawCompletion config events thread channel
  completed : ∀ thread, (stages thread).completed = true →
    (stages thread).begun = true ∧
      ((stages thread).holds = true → machine.session.transfer.outcome = some .completed) ∧
      ∀ channel ∈ burst? events thread, SawCompletion config events thread channel

namespace Seen

theorem fresh (config : Config) : Seen config [] (start config : Machine H β) fun _ => {} where
  own _ hholds := nomatch hholds
  decided _ hholds := nomatch hholds
  completed _ hcompleted := nomatch hcompleted

/-- A holder's call has begun before. -/
theorem burst?_step (hheld : Held config events machine stages)
    (hmoves : Moves machine stages event next later) {thread : Nat}
    (hholds : (later thread).holds = true) :
    burst? (events ++ [event]) thread = burst? events thread := by
  refine burst?_concat_of_lt ?_ event
  rw [← hheld.length]
  cases hheld.view hmoves hholds with
  | given hlt => exact hlt
  | told hbefore => exact hheld.lt_of_holds hbefore
  | kept hbefore => exact hheld.lt_of_holds hbefore

theorem own_step (hseen : Seen config events machine stages)
    (hheld : Held config events machine stages) (hmoves : Moves machine stages event next later)
    {thread : Nat} (hholds : (later thread).holds = true) {channel : UInt8}
    (hchannel : channel ∈ burst? (events ++ [event]) thread) :
    next.session.transfer.channel = channel ∧ next.session.transfer.kind = some .burst := by
  rw [burst?_step hheld hmoves hholds] at hchannel
  cases hheld.view hmoves hholds with
  | given _ _ _ hown => exact hown channel hchannel
  | told hbefore _ _ htransfer =>
      rw [htransfer, TransferMonitor.onEvent_frame]
      exact hseen.own thread hbefore channel hchannel
  | kept hbefore hsame hkind =>
      rw [hsame, hkind]
      exact hseen.own thread hbefore channel hchannel

theorem decided_step (hseen : Seen config events machine stages)
    (hheld : Held config events machine stages) (hmoves : Moves machine stages event next later)
    {thread : Nat} (hholds : (later thread).holds = true)
    (houtcome : next.session.transfer.outcome = some .completed) {channel : UInt8}
    (hchannel : channel ∈ burst? (events ++ [event]) thread) :
    SawCompletion config (events ++ [event]) thread channel := by
  rw [burst?_step hheld hmoves hholds] at hchannel
  cases hheld.view hmoves hholds with
  | given _ _ hundecided =>
      rw [hundecided] at houtcome
      cases houtcome
  | @told message reported code hbefore hevent hreports htransfer =>
      rw [htransfer] at houtcome
      rcases TransferMonitor.outcome_of_onEvent houtcome with
        hdecided | ⟨kind, hkind, hsame, hverdict⟩
      · exact (hseen.decided thread hbefore hdecided channel hchannel).concat event
      · obtain ⟨hown, hburst⟩ := hseen.own thread hbefore channel hchannel
        cases hburst.symm.trans hkind
        cases TransferKind.code_of_completed hverdict
        cases hown.symm.trans hsame
        cases hevent
        exact ⟨events, message, [], rfl, hheld.holder?_eq hbefore, hreports⟩
  | kept hbefore _ _ hsame =>
      exact (hseen.decided thread hbefore (hsame ▸ houtcome) channel hchannel).concat event

theorem completed_step (hseen : Seen config events machine stages)
    (hheld : Held config events machine stages) (hmoves : Moves machine stages event next later)
    {thread : Nat} (hcompleted : (later thread).completed = true) :
    (later thread).begun = true ∧
      ((later thread).holds = true → next.session.transfer.outcome = some .completed) ∧
      ∀ channel ∈ burst? (events ++ [event]) thread,
        SawCompletion config (events ++ [event]) thread channel := by
  obtain ⟨hbegun, hstill, hsaw⟩ : (stages thread).begun = true ∧
      ((stages thread).holds = true → machine.session.transfer.outcome = some .completed) ∧
      ∀ channel ∈ burst? events thread, SawCompletion config events thread channel := by
    rcases hmoves.completed_cases hheld hcompleted with hbefore | ⟨hholds, hdecided⟩
    · exact hseen.completed thread hbefore
    · exact ⟨hheld.holding.begun thread hholds, fun _ => hdecided,
        hseen.decided thread hholds hdecided⟩
  refine ⟨hmoves.begun_of_begun hheld hbegun, Held.still_decided hheld hmoves hbegun hstill, ?_⟩
  intro channel hchannel
  rw [burst?_concat_of_lt (hheld.length ▸ hheld.lt thread hbegun)] at hchannel
  exact (hsaw channel hchannel).concat event

theorem step (hseen : Seen config events machine stages)
    (hheld : Held config events machine stages) (hmoves : Moves machine stages event next later) :
    Seen config (events ++ [event]) next later where
  own _ hholds _ hchannel := hseen.own_step hheld hmoves hholds hchannel
  decided _ hholds houtcome _ hchannel :=
    hseen.decided_step hheld hmoves hholds houtcome hchannel
  completed _ hcompleted := hseen.completed_step hheld hmoves hcompleted

end Seen

end Machine

end AntHost
