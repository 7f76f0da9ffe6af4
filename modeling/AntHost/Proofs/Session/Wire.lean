import AntHost.Proofs.Frame.Run
import AntHost.Proofs.Session.Blocks
import AntHost.Proofs.Session.Outbound
import AntHost.Proofs.Session.Panics
import AntHost.Proofs.Session.Progress
/-!
# What stands on the wire

Whatever the calls of a session do at the same time, the link is given whole frames only. Read as
one stream, they are the messages that were sent, in order, and each call has sent the beginning of
its own messages. A call whose messages do not fit sends nothing.
-/

namespace AntHost

variable {H β : Type}

theorem Message.length_frame_le (message : Message) : message.frame.length ≤ maxFrameSize := by
  have hle := message.payload_le
  rw [frame, length_frameBytes, frameSize, maxFrameSize]
  omega

theorem Message.frame_length_byte (message : Message) :
    message.frame[1]?.map UInt8.toNat = some message.size :=
  congrArg some (Stream.toNat_ofNat_size message)

/-- What an operation hands to the link is the first of what its call has still to send. -/
theorem LinkStage.exists_taken {limit : PayloadLimit} {call : Call} {stage : LinkStage} {op : Op}
    (hallows : stage.Allows limit call op) (reply : op.Reply) :
    ∃ taken : List Message, op.frames = taken.map Message.frame ∧
      (∀ message ∈ taken, message.size ≤ limit.bytes) ∧
      taken.map Message.outgoing ++ (stage.next op reply).rest = stage.rest := by
  cases op with
  | write frame =>
      obtain ⟨_, message, hhead, hfits, rfl⟩ := hallows
      refine ⟨[message.message hfits], rfl, ?_, List.cons_head?_tail hhead⟩
      rintro _ (_ | _)
      · exact hfits
      · contradiction
  | _ => exact ⟨[], rfl, nofun, rfl⟩

namespace Machine

/-- What a thread has sent, of all that was sent. -/
def sentBy (sent : List (Nat × Message)) (thread : Nat) : List Outgoing :=
  (sent.filter fun entry => entry.1 = thread).map fun entry => entry.2.outgoing

theorem sentBy_append (first second : List (Nat × Message)) (thread : Nat) :
    sentBy (first ++ second) thread = sentBy first thread ++ sentBy second thread := by
  simp [sentBy]

theorem sentBy_self (taken : List Message) (thread : Nat) :
    sentBy (taken.map fun message => (thread, message)) thread = taken.map Message.outgoing := by
  simp [sentBy, List.filter_map, Function.comp_def]

theorem sentBy_of_ne (taken : List Message) {thread other : Nat} (hne : other ≠ thread) :
    sentBy (taken.map fun message => (thread, message)) other = [] := by
  simp [sentBy, List.filter_map, Function.comp_def, Ne.symm hne]

/-- A thread has written nothing exactly if it has sent nothing. -/
theorem written_eq_nil_iff {machine : Machine H β} {sent : List (Nat × Message)}
    (hwrites : machine.writes = sent.map fun entry => (entry.1, entry.2.frame)) {thread : Nat} :
    machine.written thread = [] ↔ sentBy sent thread = [] := by
  rw [sentBy, List.map_eq_nil_iff, written, hwrites, List.filter_map, List.map_map,
    List.map_eq_nil_iff]
  rfl

variable {config : Config} {events : List (Event H β)} {machine next : Machine H β}
  {event : Event H β} {stages later : Nat → LinkStage} {sent : List (Nat × Message)} {thread : Nat}
  {call : Call} {message : Outgoing}

/-- The frames on the wire are those of messages that fit, and what a thread has sent and has still
to send are its call's messages. -/
structure Framed (config : Config) (events : List (Event H β)) (machine : Machine H β)
    (stages : Nat → LinkStage) (sent : List (Nat × Message)) : Prop where
  writes : machine.writes = sent.map fun entry => (entry.1, entry.2.frame)
  fits : ∀ entry ∈ sent, entry.2.size ≤ config.limit.bytes
  lt : ∀ entry ∈ sent, entry.1 < machine.threads.length
  rest : ∀ thread call, (calls events)[thread]? = some call →
    sentBy sent thread ++ (stages thread).rest = call.outbound

namespace Framed

theorem fresh (config : Config) :
    Framed config [] (start config : Machine H β) (fun _ => {}) [] where
  writes := rfl
  fits _ hentry := nomatch hentry
  lt _ hentry := nomatch hentry
  rest _ _ hcall := nomatch hcall

/-- A thread without a call has sent nothing. -/
theorem sentBy_eq_nil (hframed : Framed config events machine stages sent)
    (hge : machine.threads.length ≤ thread) : sentBy sent thread = [] := by
  rw [sentBy, List.map_eq_nil_iff, List.filter_eq_nil_iff]
  intro entry hentry
  have hlt := hframed.lt entry hentry
  simp only [decide_eq_true_eq]
  omega

theorem begin [DecidableEq β] (hframed : Framed config events machine stages sent)
    (hlength : machine.threads.length = (calls events).length) (call : Call) (onRouter : Bool) :
    Framed config (events ++ [.begin call onRouter])
      { machine with threads := machine.threads ++ [call.program machine.session.config onRouter] }
      (Function.update stages machine.threads.length { rest := call.outbound }) sent where
  writes := hframed.writes
  fits := hframed.fits
  lt entry hentry := by
    rw [List.length_append]
    exact Nat.lt_add_right _ (hframed.lt entry hentry)
  rest thread own hcall := by
    rw [calls_begin] at hcall
    by_cases hnew : thread = machine.threads.length
    · have hnone := hframed.sentBy_eq_nil (Nat.le_of_eq hnew.symm)
      rw [hnew, hlength, List.getElem?_concat_length] at hcall
      cases hcall
      rw [hnone, hnew, Function.update_self, List.nil_append]
    · rw [getElem?_concat_of_ne (hlength ▸ hnew)] at hcall
      rw [Function.update_of_ne hnew]
      exact hframed.rest thread own hcall

/-- Of a call whose messages do not fit, none was sent. -/
theorem sentBy_of_unfit (hframed : Framed config events machine stages sent)
    (hcall : (calls events)[thread]? = some call) (hmessage : message ∈ call.outbound)
    (hunfit : ¬ message.Fits config.limit) : sentBy sent thread = [] := by
  rw [List.eq_nil_iff_forall_not_mem]
  intro other hother
  have hown : other ∈ call.outbound :=
    hframed.rest thread call hcall ▸ List.mem_append_left _ hother
  obtain ⟨entry, hentry, rfl⟩ := List.mem_map.mp hother
  have hfits := hframed.fits entry (List.mem_of_mem_filter hentry)
  rw [Outgoing.Fits, Call.length_eq_of_mem hmessage hown] at hunfit
  exact hunfit hfits

variable [DecidableEq β]

/-- An operation sends the next of its own call's messages, or nothing. -/
theorem perform {link : Except TransportError Unit} {op : Op}
    {rest : op.Reply → Program (Except CallError Reply)} {reply : op.Reply}
    {session : Session H β} (hframed : Framed config events machine stages sent)
    (hconducted : Conducted (linkConduct config.limit) config events machine stages)
    (hthread : machine.threads[thread]? = some (.perform op rest)) :
    ∃ taken, Framed config (events ++ [.perform thread link])
      { machine.record thread op with
        session, threads := machine.threads.set thread (rest reply) }
      (Function.update stages thread ((stages thread).next op reply)) (sent ++ taken) := by
  obtain ⟨call, hcall, hallows, _⟩ := hconducted.allows hthread
  obtain ⟨taken, hframes, hfits, hrest⟩ := LinkStage.exists_taken hallows reply
  refine ⟨taken.map fun message => (thread, message), ?_, fun entry hentry => ?_,
    fun entry hentry => ?_, fun other own hown => ?_⟩
  · change (machine.record thread op).writes = _
    rw [writes_record, hframed.writes, hframes, List.map_append, List.map_map, List.map_map]
    rfl
  · rcases List.mem_append.mp hentry with hold | hnew
    · exact hframed.fits entry hold
    · obtain ⟨message, hmessage, rfl⟩ := List.mem_map.mp hnew
      exact hfits message hmessage
  · rw [List.length_set]
    rcases List.mem_append.mp hentry with hold | hnew
    · exact hframed.lt entry hold
    · obtain ⟨message, _, rfl⟩ := List.mem_map.mp hnew
      exact lt_of_getElem? hthread
  · rw [calls_concat_of_none rfl] at hown
    rw [sentBy_append, ← hframed.rest other own hown]
    by_cases hsame : other = thread
    · subst hsame
      rw [sentBy_self, Function.update_self, List.append_assoc, hrest]
    · rw [sentBy_of_ne taken hsame, Function.update_of_ne hsame, List.append_nil]

theorem step (hframed : Framed config events machine stages sent)
    (hconducted : Conducted (linkConduct config.limit) config events machine stages)
    (hadvances : Advances (linkConduct config.limit) machine stages event next later) :
    ∃ more, Framed config (events ++ [event]) next later more := by
  cases hadvances with
  | begun call onRouter => exact ⟨sent, hframed.begin hconducted.length call onRouter⟩
  | performed hthread hexec =>
      obtain ⟨taken, hnext⟩ := hframed.perform hconducted hthread
      exact ⟨_, hnext⟩
  | routed message =>
      refine ⟨sent, hframed.writes, hframed.fits, hframed.lt, ?_⟩
      rw [calls_concat_of_none rfl]
      exact hframed.rest
  | changed hnone =>
      refine ⟨sent, hframed.writes, hframed.fits, hframed.lt, ?_⟩
      rw [calls_concat_of_none hnone]
      exact hframed.rest

end Framed

theorem calls_append_performs (events : List (Event H β)) (thread count : Nat) :
    calls (events ++ List.replicate count (.perform thread (.ok ()))) = calls events := by
  have hnone : calls (List.replicate count (.perform thread (.ok ()) : Event H β)) = [] := by
    rw [calls, List.filterMap_eq_nil_iff]
    intro event hevent
    rw [List.eq_of_mem_replicate hevent]
    rfl
  rw [calls, List.filterMap_append]
  change _ ++ calls _ = _
  rw [hnone, List.append_nil]
  rfl

variable [DecidableEq β]

theorem exists_framed (hrun : (start config).run events = some machine) :
    ∃ stages, Conducted (linkConduct config.limit) config events machine stages ∧
      ∃ sent, Framed config events machine stages sent := by
  refine Conducted.run (Call.links config)
    (fun history machine stages => ∃ sent, Framed config history machine stages sent)
    (.fresh (linkConduct config.limit) config) ⟨[], .fresh config⟩ ?_ hrun
  rintro _ _ _ _ _ _ _ hconducted ⟨sent, hframed⟩ _ hadvances
  exact hframed.step hconducted hadvances

/-- As long as it has something to send, a call waits for its transfer to begin only. So it returns
by itself if it is not going to write anything, unless another transfer is in its way. -/
theorem returns_of_unwritten (hrun : (start config).run events = some machine)
    (hcall : (calls events)[thread]? = some call) (hsends : call.outbound ≠ [])
    (hnone : ∀ count final,
      machine.run (List.replicate count (.perform thread (.ok ()))) = some final →
        final.written thread = []) :
    ∃ count final, machine.run (List.replicate count (.perform thread (.ok ()))) = some final ∧
      ((∃ result, final.result? thread = some result) ∨ call.transfer?.isSome ∧
        final.session.transfer.busy = true ∧ final.session.transfer.closed = false) := by
  obtain ⟨_, hconducted, _⟩ := exists_framed hrun
  have hlt : thread < machine.threads.length :=
    hconducted.length ▸ (List.getElem?_eq_some_iff.mp hcall).1
  obtain ⟨count, final, hown, hend⟩ := returns_or_blocks (List.getElem?_eq_getElem hlt)
  refine ⟨count, final, hown, hend.imp_right ?_⟩
  rintro ⟨op, hnext, hblocks⟩
  have hreached : (start config).run (events ++ List.replicate count (.perform thread (.ok ()))) =
      some final := by
    rw [run_append, hrun, Option.bind_some, hown]
  obtain ⟨stages, hconducted, sent, hframed⟩ := exists_framed hreached
  rw [← calls_append_performs events thread count] at hcall
  have hallows := hconducted.allows_of_nextOp? hcall hnext
  have hrest : (stages thread).rest ≠ [] := by
    have hall := hframed.rest thread call hcall
    rw [(written_eq_nil_iff hframed.writes).mp (hnone count final hown), List.nil_append] at hall
    rwa [hall]
  cases op with
  | beginTransfer => exact ⟨hallows, hblocks⟩
  | awaitResponse | awaitOutcome | awaitStopped | joinRouter => exact absurd hallows hrest
  | _ => exact hblocks.elim

/-! ## Messages that do not fit -/

/-- What becomes of a call with a message that does not fit: nothing is handed to the link for it,
it fails with the refusal of the message or because its transfer ends early, which is a panic only
where the clock cannot hold the call's time, and left to itself it comes to an end, unless its
transfer has to wait for another one. -/
structure Refused (config : Config) (machine : Machine H β) (thread : Nat) (call : Call)
    (message : Outgoing) : Prop where
  nothing : machine.written thread = []
  fails : ∀ result, machine.result? thread = some result → ∃ error, result = .error error ∧
    (error = message.refusal config.limit ∨ call.EndsEarly error) ∧
    (error = .panicked → call.Outlasts machine.now)
  returns : ∃ count final,
    machine.run (List.replicate count (.perform thread (.ok ()))) = some final ∧
      ((∃ result, final.result? thread = some result) ∨ call.transfer?.isSome ∧
        final.session.transfer.busy = true ∧ final.session.transfer.closed = false)

theorem written_of_unfit (hrun : (start config).run events = some machine)
    (hcall : (calls events)[thread]? = some call) (hmessage : message ∈ call.outbound)
    (hunfit : ¬ message.Fits config.limit) : machine.written thread = [] := by
  obtain ⟨_, _, _, hframed⟩ := exists_framed hrun
  exact (written_eq_nil_iff hframed.writes).mpr (hframed.sentBy_of_unfit hcall hmessage hunfit)

theorem refused_of_unfit (hrun : (start config).run events = some machine)
    (hcall : (calls events)[thread]? = some call) (hmessage : message ∈ call.outbound)
    (hunfit : ¬ message.Fits config.limit) : machine.Refused config thread call message := by
  refine ⟨written_of_unfit hrun hcall hmessage hunfit, fun result hresult => ?_, ?_⟩
  · obtain ⟨_, hconducted, _⟩ := exists_framed hrun
    have hends := hconducted.ends hcall hresult
    cases result with
    | error error =>
        refine ⟨error, rfl, hends message hmessage hunfit, ?_⟩
        rintro rfl
        exact outlasts_of_panicked hrun hcall hresult
    | ok reply => exact absurd (hends.2 message hmessage) hunfit
  · refine returns_of_unwritten hrun hcall (List.ne_nil_of_mem hmessage) fun count final hown => ?_
    have hreached : (start config).run
        (events ++ List.replicate count (.perform thread (.ok ()))) = some final := by
      rw [run_append, hrun, Option.bind_some, hown]
    rw [← calls_append_performs events thread count] at hcall
    exact written_of_unfit hreached hcall hmessage hunfit

/-! ## The wire as one stream -/

/-- All that was handed to the link. -/
def wire (machine : Machine H β) : List UInt8 := (machine.writes.map Prod.snd).flatten

/-- Everything on the wire is a whole frame of a message that was sent. Cut in any way, the wire is
deframed into just these messages, in order; each call has sent the first of its own messages, and
all of them if it succeeded; and a call with a message that does not fit sends nothing. -/
theorem run_deframes (config : Config) (events : List (Event H β)) (machine : Machine H β)
    (hrun : (start config).run events = some machine) :
    ∃ sent : List (Nat × Message),
      machine.writes = sent.map (fun entry => (entry.1, entry.2.frame)) ∧
      (∀ entry ∈ sent, entry.2.size ≤ config.limit.bytes ∧
        entry.2.frame.length ≤ maxFrameSize ∧
        entry.2.frame[1]?.map UInt8.toNat = some entry.2.size) ∧
      (∀ actions, Deframer.pushed actions = machine.wire →
        (∃ pulls, Deframer.Settles { limit := config.limit }
          (actions ++ List.replicate pulls .pull)) ∧
        (Deframer.Settles { limit := config.limit } actions →
          Deframer.found (Deframer.run { limit := config.limit } actions).1 =
              sent.map (fun entry => .message entry.2) ∧
            (Deframer.run { limit := config.limit } actions).2.buffer = [])) ∧
      ∀ thread call, (calls events)[thread]? = some call →
        sentBy sent thread <+: call.outbound ∧
        (∀ reply, machine.result? thread = some (.ok reply) →
          sentBy sent thread = call.outbound) ∧
        ∀ message ∈ call.outbound, ¬ message.Fits config.limit →
          machine.Refused config thread call message := by
  obtain ⟨stages, hconducted, sent, hframed⟩ := exists_framed hrun
  have hread : Stream.read config.limit machine.wire =
      (sent.map fun entry => .message entry.2, []) := by
    have hframes := Stream.read_frames (List.forall_mem_map.mpr hframed.fits)
    rw [List.map_map, List.map_map] at hframes
    rw [wire, hframed.writes, List.map_map]
    exact hframes
  refine ⟨sent, hframed.writes, fun entry hentry => ?_, fun actions hpushed => ⟨?_, ?_⟩,
    fun thread call hcall => ⟨⟨_, hframed.rest thread call hcall⟩, fun reply hreply => ?_,
      fun message hmessage hunfit => refused_of_unfit hrun hcall hmessage hunfit⟩⟩
  · exact ⟨hframed.fits entry hentry, entry.2.length_frame_le, entry.2.frame_length_byte⟩
  · exact Deframer.exists_settles _ actions
  · intro hsettles
    have hfound := hsettles.read_eq
    rw [hpushed, hread, Prod.mk.injEq] at hfound
    exact ⟨hfound.1.symm, hfound.2.symm⟩
  · have hall := hframed.rest thread call hcall
    rwa [(hconducted.ends hcall hreply).1, List.append_nil] at hall

/-- Two calls send at the same time, and a third has a message that does not fit. -/
def sentTogether : List (Event Unit Unit) :=
  [.begin (.raw 0x4D [0, 0x51]) false, .begin (.reset none) false,
    .begin (.broadcast 0 #v[1, 2, 3, 4, 5, 6, 7, 8] none) false, .perform 0 (.ok ()),
    .perform 1 (.ok ()), .perform 1 (.ok ()), .perform 0 (.ok ())]

/-- The two frames are cut in the middle. -/
def cutInTheMiddle : List Deframer.Action :=
  [.push [0xA4, 0x01, 0x4A], .pull, .push [0x00, 0xEF, 0xA4, 0x02, 0x4D, 0x00, 0x51, 0xBA], .pull,
    .pull, .pull, .pull]

theorem run_deframes_of_two :
    ∃ machine, (start { maxPayload := 8 }).run sentTogether = some machine ∧
      Deframer.pushed cutInTheMiddle = machine.wire ∧
      (∃ sent, machine.writes = sent.map (fun entry => (entry.1, entry.2.frame)) ∧
        Deframer.found (Deframer.run { limit := .ofNat 8 } cutInTheMiddle).1 =
          sent.map (fun entry => .message entry.2) ∧
        sentBy sent 0 = [⟨0x4D, [0, 0x51]⟩] ∧ sentBy sent 1 = [⟨0x4A, [0]⟩]) ∧
      machine.written 2 = [] ∧
      machine.result? 2 = some (.error (.framing (.payloadTooLarge 9 8))) := by
  have hstate : ((start { maxPayload := 8 } : Machine Unit Unit).run sentTogether).map
      (fun machine => (machine.wire, [machine.result? 0, machine.result? 1, machine.result? 2])) =
      some (Deframer.pushed cutInTheMiddle, [some (.ok .done), some (.ok .done),
        some (.error (.framing (.payloadTooLarge 9 8)))]) := by
    decide +kernel
  obtain ⟨machine, hrun, hresults⟩ := Option.map_eq_some_iff.mp hstate
  simp only [Prod.mk.injEq, List.cons.injEq, and_true] at hresults
  obtain ⟨hwire, hfirst, hsecond, hthird⟩ := hresults
  obtain ⟨sent, hwrites, _, hfound, hcalls⟩ := run_deframes _ _ _ hrun
  have hsettles : Deframer.Settles { limit := .ofNat 8 } cutInTheMiddle :=
    ⟨[.push [0xA4, 0x01, 0x4A], .pull, .push [0x00, 0xEF, 0xA4, 0x02, 0x4D, 0x00, 0x51, 0xBA],
      .pull, .pull], [.ok none, .ok (some ⟨0x4A, [0], by decide⟩),
        .ok (some ⟨0x4D, [0, 0x51], by decide⟩)], rfl, rfl⟩
  refine ⟨machine, hrun, hwire.symm, ⟨sent, hwrites, ?_, ?_, ?_⟩, ?_, hthird⟩
  · exact ((hfound _ hwire.symm).2 hsettles).1
  · exact (hcalls 0 _ rfl).2.1 _ hfirst
  · exact (hcalls 1 _ rfl).2.1 _ hsecond
  · exact ((hcalls 2 _ rfl).2.2 _ (List.mem_singleton_self _) (by decide)).nothing

/-- A burst looks at the cancel flag before it frames its first packet. -/
def cancelledFirst : List (Event Unit Unit) :=
  [.installCancel true, .setCancel true, .begin (.burst 0 [1] none) false] ++
    List.replicate 7 (.perform 0 (.ok ()))

/-- Not every call whose message does not fit fails because of that. -/
theorem not_forall_framing_error :
    ¬ ∀ (config : Config) (events : List (Event Unit Unit)) (machine : Machine Unit Unit) thread
      call result, (start config).run events = some machine →
      (calls events)[thread]? = some call →
      (∃ message ∈ call.outbound, ¬ message.Fits config.limit) →
      machine.result? thread = some result → ∃ error, result = .error (.framing error) := by
  intro hframing
  have hstate : ((start { maxPayload := 8 } : Machine Unit Unit).run cancelledFirst).map
      (fun machine => machine.result? 0) = some (some (.error .cancelled)) := by
    decide +kernel
  obtain ⟨machine, hrun, hresult⟩ := Option.map_eq_some_iff.mp hstate
  have hunfit : ∃ message ∈ (Call.burst 0 [1] none).outbound,
      ¬ message.Fits (Config.limit { maxPayload := 8 }) := by
    refine ⟨(BurstPacket.of 0 lastPacketBit (zeroPadded [1])).command.outgoing, ?_, by decide⟩
    simp [Call.outbound, BurstPacket.split, BurstPacket.splitFrom, packetDataSize]
  obtain ⟨error, herror⟩ := hframing _ _ machine 0 _ _ hrun rfl hunfit hresult
  cases herror

end Machine

end AntHost
