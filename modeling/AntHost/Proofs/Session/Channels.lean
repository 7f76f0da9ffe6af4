import AntHost.Proofs.Session.Bursts
import AntHost.Proofs.Session.Requests
/-!
# Channels that can be answered

The device names a channel with five bits, while a call that waits keeps the channel it was given.
So the device's response reaches the waiter of a command, and its events reach the transfer of a
call, exactly if the channel fits those bits.
-/

namespace AntHost

variable {H β : Type}

/-! ## Responses to commands -/

namespace Command

/-- A command that names a channel does so with its first byte. -/
theorem head?_payload {command : Command} {channel : UInt8}
    (hchannel : command.channel? = some channel) : command.payload.head? = some channel := by
  cases command <;> cases hchannel <;> rfl

theorem messageId_ne_eventMarker (command : Command) : command.messageId.value ≠ 1 := by
  rw [messageId]
  cases command.kind <;> decide

end Command

/-- Routing gives the message to the one waiter for an identifier and calls no handler. -/
def Session.Claims [DecidableEq β] (session : Session H β) (messageId : UInt8) (waiter : Waiter)
    (message : Message) : Prop :=
  (session.route message).1 = none ∧ (session.route message).2.tracker.waitersFor messageId =
    [{ waiter with response := some message }]

/-- A response is claimed if the waiter is for the channel that its first byte names in five bits,
or for any. -/
theorem Session.claims_iff [DecidableEq β] {session : Session H β} {waiter : Waiter}
    {message : Message} {first messageId code : UInt8}
    (hwaiters : session.tracker.waitersFor messageId = [waiter]) (hempty : waiter.response = none)
    (hopen : session.tracker.closed = false)
    (hresponse : message.IsResponse first messageId code) (hid : messageId ≠ 1) :
    session.Claims messageId waiter message ↔
      waiter.channel = none ∨ waiter.channel = some (first &&& 0x1F) := by
  obtain ⟨hpayload, hfirst, hsecond, _⟩ := hresponse.bytes
  have hroute := Message.route?_of_channelEvent hpayload hresponse.id
  rw [hsecond, if_neg hid, Message.channel, hfirst] at hroute
  rw [Claims, route, hroute]
  generalize hoffer : session.offerResponse messageId (first &&& channelMask)
    MessageId.channelEvent.value message = result
  obtain ⟨call, after⟩ := result
  dsimp only
  rw [hoffer]
  rcases (offerResponse_cases hoffer).2 with ⟨htakes, hnone, _⟩ | ⟨hrefuses, hsame, _⟩
  · obtain ⟨taker, hreplaces, _, hchannel⟩ := Tracker.replaces_of_takes htakes
    rcases hreplaces.of_sole hwaiters with ⟨hother, _⟩ | ⟨_, rfl, hafter⟩
    · exact absurd rfl hother
    · exact iff_of_true ⟨hnone, hafter⟩ hchannel
  · have hdeaf : waiter.accepts (first &&& channelMask) = false := by
      rcases hrefuses with hclosed | hrefuses
      · rw [hopen] at hclosed
        cases hclosed
      · exact hrefuses waiter (hwaiters ▸ List.mem_singleton_self waiter)
    refine iff_of_false ?_ fun hchannel => ?_
    · rintro ⟨_, hfilled⟩
      rw [hsame, hwaiters, List.cons.injEq] at hfilled
      rw [hfilled.1] at hempty
      cases hempty
    · have haccepts : waiter.accepts (first &&& channelMask) = true :=
        Waiter.accepts_iff.mpr ⟨hempty, hchannel⟩
      rw [hdeaf] at haccepts
      cases haccepts

/-! ## Events for transfers -/

theorem Call.expects_of_transfer? {call : Call} {transfer : UInt8 × TransferKind}
    (htransfer : call.transfer? = some transfer) : call.expects = [] := by
  cases call with
  | command | reset | request => cases htransfer
  | _ => rfl

/-- The conduct of calls that expect nothing. -/
def sendConduct : Conduct Unit where
  idle := ()
  enter _ := ()
  allows call _ op := call.expects = [] → call.Sends op
  next _ _ _ := ()
  ends _ _ _ := True

theorem sendConduct_sound : sendConduct.Sound := by
  intro config onRouter call
  have honly : (call.program config onRouter).Only fun op => call.expects = [] → call.Sends op := by
    by_cases hexpects : call.expects = []
    · exact (call.sends config onRouter hexpects).mono fun _ hsends _ => hsends
    · exact Program.only_of_forall (fun _ hnone => absurd hnone hexpects) _
  exact honly.keeps (fun _ _ _ hsends => ⟨hsends, fun _ => trivial⟩) trivial

namespace Machine

variable {config : Config} {events : List (Event H β)} {machine next : Machine H β}
  {event : Event H β} {stages later : Nat → TransferStage} {sending : Nat → Unit}

/-- What a thread does next, its call may send. -/
theorem Conducted.sends [DecidableEq β]
    (hconducted : Conducted sendConduct config events machine sending)
    {thread : Nat} {call : Call} (hcall : (calls events)[thread]? = some call) {op : Op}
    {rest : op.Reply → Program (Except CallError Reply)}
    (hthread : machine.threads[thread]? = some (.perform op rest))
    {transfer : UInt8 × TransferKind} (htransfer : call.transfer? = some transfer) :
    call.Sends op := by
  obtain ⟨caller, hcaller, hsends, _⟩ := hconducted.allows hthread
  cases hcaller.symm.trans hcall
  exact hsends (Call.expects_of_transfer? htransfer)

/-- The monitor is set to the transfer of the call that holds it, and what a call with a transfer
writes names that channel. -/
structure Tuned (events : List (Event H β)) (machine : Machine H β)
    (stages : Nat → TransferStage) : Prop where
  own : ∀ (thread : Nat) (call : Call) channel kind, (calls events)[thread]? = some call →
    call.transfer? = some (channel, kind) → (stages thread).holds = true →
    machine.session.transfer.channel = channel ∧ machine.session.transfer.kind = some kind
  frames : ∀ (thread : Nat) (call : Call) channel kind, (calls events)[thread]? = some call →
    call.transfer? = some (channel, kind) →
    ∀ frame ∈ machine.written thread, frameChannel? frame = some (channel &&& channelMask)

namespace Tuned

theorem fresh (config : Config) : Tuned [] (start config : Machine H β) fun _ => {} where
  own _ _ _ _ hcall := nomatch hcall
  frames _ _ _ _ hcall := nomatch hcall

variable [DecidableEq β]

theorem own_step (htuned : Tuned events machine stages)
    (hconducted : Conducted sendConduct config events machine sending)
    (hheld : Held config events machine stages) (hmoves : Moves machine stages event next later)
    {thread : Nat} {call : Call} {channel : UInt8} {kind : TransferKind}
    (hcall : (calls (events ++ [event]))[thread]? = some call)
    (htransfer : call.transfer? = some (channel, kind)) (hholds : (later thread).holds = true) :
    next.session.transfer.channel = channel ∧ next.session.transfer.kind = some kind := by
  have hbefore : thread < machine.threads.length → (calls events)[thread]? = some call := by
    intro hlt
    rwa [calls_concat, List.getElem?_append_left (hheld.length ▸ hlt)] at hcall
  cases hheld.view hmoves hholds with
  | given hlt _ _ _ hgrants =>
      obtain ⟨op, rest, reply, hthread, hgrants, hview⟩ := hgrants
      have hsends := hconducted.sends (hbefore hlt) hthread htransfer
      rw [hview]
      cases op with
      | beginTransfer =>
          cases reply with
          | error => cases hgrants
          | ok =>
              cases htransfer.symm.trans hsends
              exact ⟨rfl, rfl⟩
      | _ => cases hgrants
  | told hheld' _ _ hevent =>
      rw [hevent, TransferMonitor.onEvent_frame]
      exact htuned.own thread call channel kind (hbefore (hheld.lt_of_holds hheld')) htransfer
        hheld'
  | kept hheld' hchannel hkind =>
      rw [hchannel, hkind]
      exact htuned.own thread call channel kind (hbefore (hheld.lt_of_holds hheld')) htransfer
        hheld'

theorem frames_step (htuned : Tuned events machine stages)
    (hconducted : Conducted sendConduct config events machine sending)
    (hstaged : Staged config events machine stages) (hmoves : Moves machine stages event next later)
    {thread : Nat} {call : Call} {channel : UInt8} {kind : TransferKind}
    (hcall : (calls (events ++ [event]))[thread]? = some call)
    (htransfer : call.transfer? = some (channel, kind)) :
    ∀ frame ∈ next.written thread, frameChannel? frame = some (channel &&& channelMask) := by
  rcases Nat.lt_or_ge thread machine.threads.length with hlt | hge
  · rw [calls_concat, List.getElem?_append_left (hstaged.held.length ▸ hlt)] at hcall
    have hold := htuned.frames thread call channel kind hcall htransfer
    cases hmoves.turn hlt with
    | other _ _ hwritten => rwa [hwritten]
    | @own op rest reply hthread _ _ _ hwritten =>
        have hsends := hconducted.sends hcall hthread htransfer
        intro frame hframe
        rw [hwritten] at hframe
        rcases List.mem_append.mp hframe with hmem | hmem
        · exact hold frame hmem
        · cases op with
          | write own =>
              cases List.mem_singleton.mp hmem
              exact hsends _ htransfer
          | _ => cases hmem
  · have hnone : next.written thread = [] := by
      have hwas := hstaged.written.written_eq_nil hge
      cases hmoves with
      | performed hperformer =>
          have hlt := lt_of_getElem? hperformer
          exact (written_record_of_ne _ (by omega)).trans hwas
      | begun | routed | changed => exact hwas
    rw [hnone]
    nofun

theorem step (htuned : Tuned events machine stages)
    (hconducted : Conducted sendConduct config events machine sending)
    (hstaged : Staged config events machine stages)
    (hmoves : Moves machine stages event next later) :
    Tuned (events ++ [event]) next later where
  own _ _ _ _ := htuned.own_step hconducted hstaged.held hmoves
  frames _ _ _ _ := htuned.frames_step hconducted hstaged hmoves

end Tuned

variable [DecidableEq β]

theorem exists_tuned (hrun : (start config).run events = some machine) :
    ∃ stages, Staged config events machine stages ∧ Tuned events machine stages := by
  have hfresh : Staged config [] (start config : Machine H β) fun _ => {} :=
    ⟨.fresh config, .fresh config, .fresh config⟩
  refine (run_invariant (fun events machine =>
    (∃ sending, Conducted sendConduct config events machine sending) ∧ ∃ stages,
      Staged config events machine stages ∧ Tuned events machine stages)
    ⟨⟨_, .fresh sendConduct config⟩, _, hfresh, .fresh config⟩ ?_ hrun).2
  rintro earlier middle event next ⟨⟨sending, hconducted⟩, stages, hstaged, htuned⟩ hstep
  obtain ⟨sent, hadvances⟩ := exists_advances sendConduct hstep sending
  obtain ⟨later, hmoves⟩ := exists_moves hstep stages
  exact ⟨⟨sent, hconducted.step (sendConduct_sound config) hstep hadvances⟩, later,
    hstaged.step hstep hmoves, htuned.step hconducted hstaged hmoves⟩

/-- The waiter of a command that waits alone is the only one, and for the command's channel. -/
theorem OnlyRequest.waitersFor_command {before after : List (Event H β)} {onRouter : Bool}
    {command : Command} {timeout : Nat}
    (honly : OnlyRequest config before (.command command (some timeout)) onRouter after machine)
    {waiter : Waiter}
    (hwaiter : waiter ∈ machine.session.tracker.waitersFor command.messageId.value) :
    waiter.channel = command.channel? ∧ ∀ other, machine.session.tracker.waitersFor other =
      if other = command.messageId.value then [waiter] else [] := by
  obtain ⟨stages, _, _, _, hattends, halone⟩ :=
    honly.exists_undisturbed (List.nodup_singleton _)
  have hexpects : ∀ entry ∈ (stages (calls before).length).held,
      entry.2 = ⟨command.messageId.value, command.channel?⟩ := fun entry hentry =>
    List.mem_singleton.mp (hattends.expects.subset (List.mem_map_of_mem hentry))
  have hids : ∀ entry ∈ (stages (calls before).length).held,
      entry.1.messageId = command.messageId.value := by
    intro entry hentry
    rw [(hattends.serves entry hentry).messageId, hexpects entry hentry]
  obtain ⟨entry, hentry, hticket⟩ := List.mem_map.mp (halone.owned _ waiter hwaiter)
  obtain ⟨sole, hsole, _⟩ := halone.sole entry hentry
  rw [hids entry hentry] at hsole
  rw [hsole, List.mem_singleton] at hwaiter
  subst hwaiter
  constructor
  · have hmem : waiter ∈ machine.session.tracker.waitersFor entry.1.messageId := by
      rw [hids entry hentry, hsole]
      exact List.mem_singleton_self waiter
    rw [((hattends.serves entry hentry).waiters waiter hmem
      (congrArg Ticket.token hticket).symm).1, hexpects entry hentry]
  · intro other
    split
    next hother => rw [hother, hsole]
    next hother =>
      exact halone.waitersFor_eq_nil fun entry hentry heq =>
        hother (heq.symm.trans (hids entry hentry))

/-- The device can answer a call that waits exactly if the call's channel fits the five bits in
which the device names it. A command's response is claimed by the call's waiter, the only one there
is, if its channel fits or it has none; the packets of a transfer name the channel that fits, and a
deciding event on that one reaches the transfer only if it is the call's own. -/
theorem run_channels (config : Config) :
    (∀ (before after : List (Event H β)) (onRouter : Bool) (command : Command) (timeout : Nat)
        (machine : Machine H β),
      OnlyRequest config before (.command command (some timeout)) onRouter after machine →
      machine.session.tracker.closed = false →
      ∀ waiter ∈ machine.session.tracker.waitersFor command.messageId.value,
        waiter.response = none →
        (∀ other, machine.session.tracker.waitersFor other =
          if other = command.messageId.value then [waiter] else []) ∧
        ∀ (message : Message) (first code : UInt8), command.payload.head? = some first →
          message.IsResponse first command.messageId.value code →
          (machine.session.Claims command.messageId.value waiter message ↔
            ∀ own ∈ command.channel?, own < 32)) ∧
    ∀ (events : List (Event H β)) (machine : Machine H β) (thread : Nat) (call : Call)
        (channel : UInt8) (kind : TransferKind),
      (start config).run events = some machine → (calls events)[thread]? = some call →
      call.transfer? = some (channel, kind) →
      (start config : Machine H β).holder? events = some thread →
      machine.session.transfer.outcome = none →
      (∀ frame ∈ machine.written thread, frameChannel? frame = some (channel &&& 0x1F)) ∧
      ∀ (message : Message) (code : UInt8) (outcome : TransferOutcome),
        message.Reports (channel &&& 0x1F) code → kind.verdict code = some outcome →
        ((machine.session.route message).2.transfer.outcome = some outcome ↔ channel < 32) := by
  constructor
  · intro before after onRouter command timeout machine honly hopen waiter hwaiter hempty
    obtain ⟨hchannel, hwaiters⟩ := honly.waitersFor_command hwaiter
    refine ⟨hwaiters, fun message first code hfirst hresponse => ?_⟩
    rw [Session.claims_iff ((hwaiters _).trans (if_pos rfl)) hempty hopen hresponse
      command.messageId_ne_eventMarker, hchannel]
    cases hown : command.channel? with
    | none => exact iff_of_true (.inl rfl) nofun
    | some own =>
        cases (Command.head?_payload hown).symm.trans hfirst
        simp only [reduceCtorEq, false_or, Option.some.injEq, Option.mem_some_iff, forall_eq']
        exact eq_comm.trans and_channelMask_eq_self_iff
  · intro events machine thread call channel kind hrun hcall htransfer hholder hundecided
    obtain ⟨stages, hstaged, htuned⟩ := exists_tuned hrun
    obtain ⟨hchannel, hkind⟩ := htuned.own thread call channel kind hcall htransfer
      (hstaged.held.holds_of_holder? hholder)
    refine ⟨htuned.frames thread call channel kind hcall htransfer, ?_⟩
    intro message code outcome hreports hverdict
    rw [Session.route_transfer, Message.route?_of_reports hreports]
    dsimp only
    constructor
    · intro houtcome
      rcases TransferMonitor.outcome_of_onEvent houtcome with hdecided | ⟨_, _, hsame, _⟩
      · rw [hundecided] at hdecided
        cases hdecided
      · exact and_channelMask_eq_self_iff.mp (hsame.symm.trans hchannel)
    · intro hfits
      have hsame := hchannel.trans (and_channelMask_eq_self_iff.mpr hfits).symm
      exact congrArg TransferMonitor.outcome
        (TransferMonitor.onEvent_of_verdict hkind hsame hundecided hverdict)

/-- A call on a fresh session, and some of its operations. -/
def beganAlone (call : Call) (count : Nat) : List (Event Unit Unit) :=
  .begin call false :: List.replicate count (.perform 0 (.ok ()))

theorem onlyRequest_beganAlone {call : Call} {count : Nat} {machine : Machine Unit Unit}
    (hrun : (start {}).run (beganAlone call count) = some machine) :
    OnlyRequest {} [] call false (List.replicate count (.perform 0 (.ok ()))) machine := by
  refine ⟨hrun, fun _ _ _ _ hcaller => ?_, fun caller hcaller => ?_⟩
  · rw [calls, List.filterMap_nil, List.getElem?_nil] at hcaller
    cases hcaller
  · obtain ⟨event, hmem, hcall⟩ := List.mem_filterMap.mp hcaller
    rw [List.eq_of_mem_replicate hmem] at hcall
    cases hcall

/-- Channel five can be opened, and a burst on channel three completed. -/
theorem run_channels_of_five :
    (∃ machine, (start {}).run (beganAlone (.command (.openChannel 5) (some 0)) 3) = some machine ∧
      machine.session.Claims 0x4B { token := 0, channel := some 5 }
        ⟨0x40, [5, 0x4B, 0], by decide⟩) ∧
    ∃ machine, (start {}).run (beganAlone (.burst 3 [1, 2] (some 0)) 12) = some machine ∧
      (machine.session.route ⟨0x40, [3, 1, 5], by decide⟩).2.transfer.outcome =
        some .completed := by
  obtain ⟨hcommands, htransfers⟩ := @run_channels Unit Unit _ {}
  constructor
  · have hstate : ((start {} : Machine Unit Unit).run
        (beganAlone (.command (.openChannel 5) (some 0)) 3)).map (fun machine =>
          (machine.session.tracker.closed, machine.session.tracker.waitersFor 0x4B)) =
        some (false, [{ token := 0, channel := some 5 }]) := by
      decide +kernel
    obtain ⟨machine, hrun, hmachine⟩ := Option.map_eq_some_iff.mp hstate
    obtain ⟨hopen, hwaiters⟩ := Prod.mk.inj hmachine
    refine ⟨machine, hrun, ((hcommands [] _ false (.openChannel 5) 0 machine
      (onlyRequest_beganAlone hrun) hopen _ ?_ rfl).2 _ 5 0 rfl ⟨rfl, List.prefix_rfl⟩).mpr ?_⟩
    · exact hwaiters ▸ List.mem_singleton_self _
    · rintro _ ⟨⟩
      decide
  · have hstate : ((start {} : Machine Unit Unit).run
        (beganAlone (.burst 3 [1, 2] (some 0)) 12)).map (fun machine =>
          machine.session.transfer.outcome) = some none := by
      decide +kernel
    obtain ⟨machine, hrun, hundecided⟩ := Option.map_eq_some_iff.mp hstate
    exact ⟨machine, hrun, ((htransfers _ machine 0 (.burst 3 [1, 2] (some 0)) 3 .burst hrun rfl rfl
      (by decide +kernel) hundecided).2 _ 5 .completed ⟨rfl, rfl, rfl, rfl⟩ rfl).mpr (by decide)⟩

/-- Channel forty cannot be opened, nor a burst on it completed: the device answers for channel
eight, which both write. -/
theorem unanswered_of_forty :
    (∃ machine, (start {} : Machine Unit Unit).run
        (beganAlone (.command (.openChannel 40) (some 0)) 3) = some machine ∧
      machine.session.tracker.waitersFor 0x4B = [{ token := 0, channel := some 40 }] ∧
      ¬ machine.session.Claims 0x4B { token := 0, channel := some 40 }
        ⟨0x40, [40, 0x4B, 0], by decide⟩) ∧
    ∃ machine, (start {} : Machine Unit Unit).run (beganAlone (.burst 40 [1, 2] (some 0)) 12) =
        some machine ∧
      machine.written 0 ≠ [] ∧ (∀ frame ∈ machine.written 0, frameChannel? frame = some 8) ∧
      (machine.session.route ⟨0x40, [8, 1, 5], by decide⟩).2.transfer.outcome = none := by
  constructor
  · have hstate : ((start {} : Machine Unit Unit).run
        (beganAlone (.command (.openChannel 40) (some 0)) 3)).map (fun machine =>
          (machine.session.tracker.waitersFor 0x4B, (machine.session.route
            ⟨0x40, [40, 0x4B, 0], by decide⟩).2.tracker.waitersFor 0x4B)) =
        some ([{ token := 0, channel := some 40 }], [{ token := 0, channel := some 40 }]) := by
      decide +kernel
    obtain ⟨machine, hrun, hmachine⟩ := Option.map_eq_some_iff.mp hstate
    obtain ⟨hwaiters, hunchanged⟩ := Prod.mk.inj hmachine
    refine ⟨machine, hrun, hwaiters, ?_⟩
    rintro ⟨_, hfilled⟩
    rw [hunchanged] at hfilled
    cases hfilled
  · have hstate : ((start {} : Machine Unit Unit).run
        (beganAlone (.burst 40 [1, 2] (some 0)) 12)).map (fun machine =>
          ((machine.written 0).map frameChannel?, (machine.session.route
            ⟨0x40, [8, 1, 5], by decide⟩).2.transfer.outcome)) = some ([some 8], none) := by
      decide +kernel
    obtain ⟨machine, hrun, hmachine⟩ := Option.map_eq_some_iff.mp hstate
    obtain ⟨hwritten, hundecided⟩ := Prod.mk.inj hmachine
    refine ⟨machine, hrun, fun hnone => ?_, fun frame hframe => ?_, hundecided⟩
    · rw [hnone] at hwritten
      cases hwritten
    · exact List.mem_singleton.mp (hwritten ▸ List.mem_map_of_mem hframe)

end Machine

end AntHost
