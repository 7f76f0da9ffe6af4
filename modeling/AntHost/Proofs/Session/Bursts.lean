import AntHost.Proofs.Session.Outcome
/-!
# Bursts in every interleaving

Bursts take turns: the frames that reach the link are whole blocks of one burst each, and each block
is the beginning of its burst's packets. A burst that succeeds has written all of them, and one that
waits for its completion has seen it. Once the device has reported that its transfer failed, a burst
writes no frame but one that it was about to write, and it succeeds only if that was its last.
-/

namespace AntHost

variable {H β : Type}

/-- Whether a program may write before it looks at its transfer again. -/
inductive Program.WritesNext {α : Type} : Program α → Prop where
  | write (frame : List UInt8) (next : (Op.write frame).Reply → Program α) :
      WritesNext (.perform (.write frame) next)
  | later {op : Op} {next : op.Reply → Program α} (reply : op.Reply)
      (hlook : op ≠ .transferAborted) (hnext : (next reply).WritesNext) :
      WritesNext (.perform op next)

namespace Op

variable {op : Op} {reply : op.Reply} {monitor : TransferMonitor}

/-- Only a look, or a frame written, changes what the last look is good for. -/
theorem looked_next (stage : TransferStage) (reply : op.Reply) (hlook : op ≠ transferAborted)
    (hwrite : op.frames = []) : (stage.next op reply).looked = stage.looked := by
  cases op with
  | transferAborted => exact absurd rfl hlook
  | write => cases hwrite
  | beginTransfer => rcases reply with error | ⟨⟩ <;> rfl
  | awaitOutcome => rcases reply with error | (_ | _) <;> rfl
  | _ => rfl

/-- A look at a failed transfer says so. -/
theorem looked_next_of_failed {reply : transferAborted.Reply} (stage : TransferStage)
    (htells : transferAborted.Tells reply monitor) (hfailed : monitor.outcome = some .failed) :
    (stage.next transferAborted reply).looked = false := by
  have hreply : reply = true := by
    rw [Tells] at htells
    rw [htells, TransferMonitor.aborted, hfailed]
    rfl
  rw [hreply]
  rfl

end Op

namespace Machine

variable {events : List (Event H β)} {machine next : Machine H β} {event : Event H β}
  {stages later : Nat → TransferStage}

/-- What an event does to one of the threads. -/
inductive Turn (machine : Machine H β) (stages : Nat → TransferStage) (thread : Nat)
    (next : Machine H β) (later : Nat → TransferStage) : Prop where
  | other (hstage : later thread = stages thread)
      (hprogram : next.threads[thread]? = machine.threads[thread]?)
      (hwritten : next.written thread = machine.written thread)
  | own {op : Op} {rest : op.Reply → Program (Except CallError Reply)} {reply : op.Reply}
      (hthread : machine.threads[thread]? = some (.perform op rest))
      (htells : op.Tells reply machine.session.transfer)
      (hstage : later thread = (stages thread).next op reply)
      (hprogram : next.threads[thread]? = some (rest reply))
      (hwritten : next.written thread = machine.written thread ++ op.frames)

/-- A burst whose transfer has failed, of which it had written some frames by then and was about to
write another or not. -/
structure Failing (thread count : Nat) (writing : Prop) (events : List (Event H β))
    (machine : Machine H β) (stages : Nat → TransferStage) : Prop where
  burst : bursts events thread = true
  begun : (stages thread).begun = true
  failed : (stages thread).holds = true → machine.session.transfer.outcome = some .failed
  completed : (stages thread).completed = false
  frames : (machine.written thread).length = count ∧
      ((stages thread).looked = true →
        ∀ program ∈ machine.threads[thread]?, program.WritesNext → writing) ∨
    (machine.written thread).length = count + 1 ∧ (stages thread).looked = false ∧ writing

section Frames

variable {thread count : Nat} {writing : Prop}

theorem Failing.frames_of_own (hfailing : Failing thread count writing events machine stages)
    {op : Op} {rest : op.Reply → Program (Except CallError Reply)} {reply : op.Reply}
    (hthread : machine.threads[thread]? = some (.perform op rest))
    (hallows : (stages thread).Allows (burst? events thread) op)
    (htells : op.Tells reply machine.session.transfer)
    (hstage : later thread = (stages thread).next op reply)
    (hprogram : next.threads[thread]? = some (rest reply))
    (hwritten : next.written thread = machine.written thread ++ op.frames) :
    (next.written thread).length = count ∧
        ((later thread).looked = true →
          ∀ program ∈ next.threads[thread]?, program.WritesNext → writing) ∨
      (next.written thread).length = count + 1 ∧ (later thread).looked = false ∧ writing := by
  by_cases hlook : op = .transferAborted
  · subst hlook
    have hframes : Op.transferAborted.frames = [] := rfl
    have hlooked : (later thread).looked = false := by
      rw [hstage]
      exact Op.looked_next_of_failed _ htells (hfailing.failed hallows.1)
    rw [hwritten, hframes, List.append_nil, hlooked]
    exact hfailing.frames.imp (fun h => ⟨h.1, nofun⟩) fun h => ⟨h.1, rfl, h.2.2⟩
  · by_cases hframe : op.frames = []
    · rw [hwritten, hframe, List.append_nil, hstage, Op.looked_next _ _ hlook hframe, hprogram]
      refine hfailing.frames.imp_left fun ⟨hlength, hnext⟩ => ⟨hlength, fun hlooked => ?_⟩
      rintro program ⟨⟩ hwrites
      exact hnext hlooked _ hthread (.later reply hlook hwrites)
    · obtain ⟨frame, rfl⟩ := Op.exists_write hframe
      -- The look before this frame came before the failure.
      obtain ⟨_, hlooked, _⟩ := hallows hfailing.burst
      rcases hfailing.frames with ⟨hlength, hnext⟩ | ⟨_, hblind, _⟩
      · refine .inr ⟨?_, ?_, hnext hlooked _ hthread (.write frame rest)⟩
        · rw [hwritten, List.length_append, hlength]
          rfl
        · rw [hstage]
          rfl
      · rw [hlooked] at hblind
        cases hblind

end Frames

variable [DecidableEq β] {config : Config}

theorem Moves.turn (hmoves : Moves machine stages event next later) {thread : Nat}
    (hlt : thread < machine.threads.length) : Turn machine stages thread next later := by
  cases hmoves with
  | begun call onRouter =>
      refine .other (Function.update_of_ne (Nat.ne_of_lt hlt) _ _) ?_ rfl
      exact List.getElem?_append_left hlt
  | @performed performer result op rest reply session hthread hexec =>
      by_cases hsame : thread = performer
      · subst hsame
        exact .own hthread (Op.exec_transfer hexec).2 (Function.update_self ..)
          (List.getElem?_set_self hlt) (written_record_self op)
      · exact .other (Function.update_of_ne hsame _ _) (List.getElem?_set_ne (Ne.symm hsame))
          (written_record_of_ne op hsame)
  | routed | changed => exact .other rfl rfl rfl

theorem Failing.step {thread count : Nat} {writing : Prop}
    (hfailing : Failing thread count writing events machine stages)
    (hheld : Held config events machine stages) (hmoves : Moves machine stages event next later) :
    Failing thread count writing (events ++ [event]) next later where
  burst := by
    rw [bursts, burst?_concat_of_lt (hheld.length ▸ hheld.lt thread hfailing.begun)]
    exact hfailing.burst
  begun := hmoves.begun_of_begun hheld hfailing.begun
  failed := hheld.still_decided hmoves hfailing.begun hfailing.failed
  completed := by
    rw [← Bool.not_eq_true]
    intro hcompleted
    rcases hmoves.completed_cases hheld hcompleted with hbefore | ⟨hholds, hdecided⟩
    · rw [hfailing.completed] at hbefore
      cases hbefore
    · rw [hfailing.failed hholds] at hdecided
      cases hdecided
  frames := by
    cases hmoves.turn (hheld.lt thread hfailing.begun) with
    | other hstage hprogram hwritten =>
        rw [hstage, hprogram, hwritten]
        exact hfailing.frames
    | own hthread htells hstage hprogram hwritten =>
        obtain ⟨call, hcall, hallows, _⟩ := hheld.allows hthread
        have hburst : burst? events thread = call.burst? := by
          rw [burst?, hcall, Option.bind_some]
        exact hfailing.frames_of_own hthread (hburst ▸ hallows) htells hstage hprogram hwritten

/-! ## Whole runs -/

/-- Stages that the threads of a reached machine are at. -/
structure Staged (config : Config) (events : List (Event H β)) (machine : Machine H β)
    (stages : Nat → TransferStage) : Prop where
  held : Held config events machine stages
  written : Written config events machine stages
  seen : Seen config events machine stages

theorem Staged.step (hstaged : Staged config events machine stages)
    (hstep : machine.step event = some next) (hmoves : Moves machine stages event next later) :
    Staged config (events ++ [event]) next later where
  held := hstaged.held.step hstep hmoves
  written := hstaged.written.step hstaged.held hmoves
  seen := hstaged.seen.step hstaged.held hmoves

theorem exists_staged (hrun : (start config).run events = some machine) :
    ∃ stages, Staged config events machine stages := by
  have hfresh : Staged config [] (start config : Machine H β) fun _ => {} :=
    ⟨.fresh config, .fresh config, .fresh config⟩
  refine run_invariant (fun events machine => ∃ stages, Staged config events machine stages)
    ⟨_, hfresh⟩ ?_ hrun
  rintro earlier middle event next ⟨stages, hstaged⟩ hstep
  obtain ⟨later, hmoves⟩ := exists_moves hstep stages
  exact ⟨later, hstaged.step hstep hmoves⟩

namespace Staged

variable {thread : Nat} {channel : UInt8} {data : List UInt8} {timeout : Option Nat}

/-- A burst has written the beginning of its frames. -/
theorem written_prefix (hstaged : Staged config events machine stages)
    (hcall : (calls events)[thread]? = some (.burst channel data timeout)) :
    machine.written thread <+: (BurstPacket.split channel data).map BurstPacket.frame :=
  ⟨_, hstaged.written.rest thread _ hcall rfl⟩

theorem ends (hstaged : Staged config events machine stages) {call : Call}
    (hcall : (calls events)[thread]? = some call) {result : Except CallError Reply}
    (hresult : machine.result? thread = some result) : call.Ends result (stages thread) := by
  rw [result?] at hresult
  split at hresult
  next done hthread =>
    cases hresult
    exact hstaged.held.keeps thread _ call hthread hcall
  next => cases hresult

theorem written_of_ok (hstaged : Staged config events machine stages)
    (hcall : (calls events)[thread]? = some (.burst channel data timeout)) {reply : Reply}
    (hresult : machine.result? thread = some (.ok reply)) :
    machine.written thread = (BurstPacket.split channel data).map BurstPacket.frame := by
  have hrest := (hstaged.ends hcall hresult).written reply rfl rfl
  have hframes := hstaged.written.rest thread _ hcall rfl
  rw [hrest, List.append_nil] at hframes
  exact hframes

theorem sawCompletion_of_ok (hstaged : Staged config events machine stages)
    (hcall : (calls events)[thread]? = some (.burst channel data timeout)) {reply : Reply}
    (hresult : machine.result? thread = some (.ok reply)) (htimeout : timeout.isSome)
    (hdata : data ≠ []) : SawCompletion config events thread channel := by
  obtain ⟨limit, rfl⟩ := Option.isSome_iff_exists.mp htimeout
  have hcompleted :=
    (hstaged.ends hcall hresult).completed reply channel data limit rfl rfl (.inl hdata)
  refine (hstaged.seen.completed thread hcompleted).2.2 channel ?_
  rw [burst?, hcall]
  rfl

end Staged

/-- The device reports that a thread's transfer has failed, with nothing decided before. -/
structure SawFailure (config : Config) (before : List (Event H β)) (message : Message)
    (middle : Machine H β) (thread : Nat) (channel : UInt8) : Prop where
  reached : (start config).run before = some middle
  holder : (start config : Machine H β).holder? before = some thread
  undecided : middle.session.transfer.outcome = none
  reports : message.Reports channel 0x06

/-- Whether a thread may write a frame before it looks at its transfer again. -/
def Writing (machine : Machine H β) (thread : Nat) : Prop :=
  ∃ program ∈ machine.threads[thread]?, program.WritesNext

section Failure

variable {before after : List (Event H β)} {message : Message} {middle : Machine H β}
  {thread : Nat} {channel : UInt8}

theorem SawFailure.failing (hfailure : SawFailure config before message middle thread channel)
    (hstaged : Staged config before middle stages) (hburst : channel ∈ burst? before thread) :
    Failing thread (middle.written thread).length (middle.Writing thread)
      (before ++ [.route message])
      { middle with session := (middle.session.route message).2 } stages := by
  have hholds := hstaged.held.holds_of_holder? hfailure.holder
  refine ⟨?_, hstaged.held.holding.begun thread hholds, fun _ => ?_, ?_, .inl ⟨rfl, ?_⟩⟩
  · rw [bursts_concat_of_none rfl, bursts, hburst]
    rfl
  · obtain ⟨hown, hkind⟩ := hstaged.seen.own thread hholds channel hburst
    change (middle.session.route message).2.transfer.outcome = _
    rw [Session.route_transfer, Message.route?_of_reports hfailure.reports]
    dsimp only
    rw [TransferMonitor.onEvent_of_verdict hkind hown hfailure.undecided rfl]
  · rw [← Bool.not_eq_true]
    intro hcompleted
    have hdecided := (hstaged.seen.completed thread hcompleted).2.1 hholds
    rw [hfailure.undecided] at hdecided
    cases hdecided
  · exact fun _ program hprogram hwrites => ⟨program, hprogram, hwrites⟩

theorem SawFailure.exists_failing
    (hfailure : SawFailure config before message middle thread channel)
    (hrun : (start config).run (before ++ .route message :: after) = some machine)
    (hburst : channel ∈ burst? before thread) :
    ∃ stages, Staged config (before ++ .route message :: after) machine stages ∧
      Failing thread (middle.written thread).length (middle.Writing thread)
        (before ++ .route message :: after) machine stages := by
  rw [run_append, hfailure.reached, Option.bind_some] at hrun
  obtain ⟨next, hroute, hafter⟩ := Option.bind_eq_some_iff.mp hrun
  obtain ⟨stages, hstaged⟩ := exists_staged hfailure.reached
  have hstart : ∃ stages, Staged config (before ++ [.route message]) next stages ∧
      Failing thread (middle.written thread).length (middle.Writing thread)
        (before ++ [.route message]) next stages := by
    have hnext : next = { middle with session := (middle.session.route message).2 } := by
      rw [step] at hroute
      split at hroute
      next => exact (Option.some.inj hroute).symm
      next => cases hroute
    subst hnext
    exact ⟨stages, hstaged.step hroute (.routed message), hfailure.failing hstaged hburst⟩
  -- From here on the failure is an invariant of the rest of the run.
  rw [List.append_cons]
  refine run_invariant (fun events machine => ∃ stages, Staged config events machine stages ∧
    Failing thread (middle.written thread).length (middle.Writing thread) events machine stages)
    hstart ?_ hafter
  rintro earlier between event next ⟨stages, hstaged, hfailing⟩ hstep
  obtain ⟨later, hmoves⟩ := exists_moves hstep stages
  exact ⟨later, hstaged.step hstep hmoves, hfailing.step hstaged.held hmoves⟩

/-- A holder's call is the one it has in the end. -/
theorem SawFailure.call_eq (hfailure : SawFailure config before message middle thread channel) :
    (calls before)[thread]? = (calls (before ++ .route message :: after))[thread]? := by
  obtain ⟨stages, hstaged⟩ := exists_staged hfailure.reached
  have hlt := hstaged.held.lt_of_holds (hstaged.held.holds_of_holder? hfailure.holder)
  rw [hstaged.held.length] at hlt
  have hcalls : calls (before ++ .route message :: after) =
      calls before ++ calls (.route message :: after) := List.filterMap_append
  rw [hcalls, List.getElem?_append_left hlt]

/-- After its transfer has failed, a burst writes one more frame at most, and it succeeds only if it
waits for nothing and has written its last frame or is about to. -/
theorem SawFailure.written_and_result {data : List UInt8} {timeout : Option Nat}
    (hfailure : SawFailure config before message middle thread channel)
    (hrun : (start config).run (before ++ .route message :: after) = some machine)
    (hcall : (calls (before ++ .route message :: after))[thread]? =
      some (.burst channel data timeout)) :
    (machine.written thread).length ≤ (middle.written thread).length + 1 ∧
      ∀ reply, machine.result? thread = some (.ok reply) → timeout = none ∧
        (middle.written thread = (BurstPacket.split channel data).map BurstPacket.frame ∨
          (middle.written thread).length + 1 = (BurstPacket.split channel data).length ∧
            middle.Writing thread) := by
  have hbefore := hfailure.call_eq.trans hcall
  obtain ⟨stages, hstaged, hfailing⟩ := hfailure.exists_failing hrun (by rw [burst?, hbefore]; rfl)
  obtain ⟨earlier, hearlier⟩ := exists_staged hfailure.reached
  refine ⟨?_, fun reply hresult => ⟨?_, ?_⟩⟩
  · rcases hfailing.frames with ⟨hlength, _⟩ | ⟨hlength, _⟩
    · exact hlength ▸ Nat.le_succ _
    · exact Nat.le_of_eq hlength
  · cases timeout with
    | none => rfl
    | some limit =>
        have hcompleted := (hstaged.ends hcall hresult).completed reply channel data limit rfl rfl
          (.inr hfailing.begun)
        rw [hfailing.completed] at hcompleted
        cases hcompleted
  · have hwritten := hstaged.written_of_ok hcall hresult
    rcases hfailing.frames with ⟨hlength, _⟩ | ⟨hlength, _, hwriting⟩
    · refine .inl ((hearlier.written_prefix hbefore).eq_of_length ?_)
      rw [← hlength, hwritten]
    · refine .inr ⟨?_, hwriting⟩
      rw [← hlength, hwritten, List.length_map]

end Failure

/-- Bursts are written in blocks, one for each that was given the monitor, and what they come to is
what the device has told of their transfers. -/
theorem run_bursts (config : Config) (events : List (Event H β)) (machine : Machine H β)
    (hrun : (start config).run events = some machine) :
    ((start config : Machine H β).grants events).Nodup ∧
      InBlocks (bursts events) ((start config : Machine H β).grants events) machine.writes ∧
      ∀ thread channel data timeout,
        (calls events)[thread]? = some (.burst channel data timeout) →
          machine.written thread <+: (BurstPacket.split channel data).map BurstPacket.frame ∧
          (∀ reply, machine.result? thread = some (.ok reply) →
            machine.written thread = (BurstPacket.split channel data).map BurstPacket.frame ∧
            (timeout.isSome → data ≠ [] → SawCompletion config events thread channel)) ∧
          ∀ before message after middle, events = before ++ .route message :: after →
            SawFailure config before message middle thread channel →
              (machine.written thread).length ≤ (middle.written thread).length + 1 ∧
              ∀ reply, machine.result? thread = some (.ok reply) → timeout = none ∧
                (middle.written thread =
                    (BurstPacket.split channel data).map BurstPacket.frame ∨
                  (middle.written thread).length + 1 =
                      (BurstPacket.split channel data).length ∧
                    middle.Writing thread) := by
  obtain ⟨stages, hstaged⟩ := exists_staged hrun
  refine ⟨hstaged.held.holding.nodup, hstaged.written.blocks, ?_⟩
  intro thread channel data timeout hcall
  refine ⟨hstaged.written_prefix hcall, fun reply hresult => ?_, ?_⟩
  · exact ⟨hstaged.written_of_ok hcall hresult, hstaged.sawCompletion_of_ok hcall hresult⟩
  · rintro before message after middle rfl hfailure
    exact hfailure.written_and_result hrun hcall

/-- A burst that is about to write its only frame, and another one that waits for its turn. -/
def firstTurn : List (Event Unit Unit) :=
  [.begin (.burst 0 [7] none) false, .begin (.burst 1 [9] (some 10)) false] ++
    List.replicate 8 (.perform 0 (.ok ()))

def failureReport : Message := ⟨0x40, [0, 1, 0x06], by decide⟩

/-- The first burst writes its frame and lets go; the second one writes its own and is completed. -/
def secondTurn : List (Event Unit Unit) :=
  List.replicate 3 (.perform 1 (.ok ())) ++ List.replicate 3 (.perform 0 (.ok ())) ++
    List.replicate 11 (.perform 1 (.ok ())) ++ .route ⟨0x40, [1, 1, 0x05], by decide⟩ ::
    List.replicate 2 (.perform 1 (.ok ()))

/-- A burst fails while it is writing its last frame, and succeeds since it waits for nothing. -/
theorem run_bursts_of_failure :
    ∃ machine middle : Machine Unit Unit,
      (start {}).run (firstTurn ++ .route failureReport :: secondTurn) = some machine ∧
        SawFailure {} firstTurn failureReport middle 0 0 ∧ middle.Writing 0 ∧
        (machine.written 0).length ≤ (middle.written 0).length + 1 ∧
        machine.written 0 = (BurstPacket.split 0 [7]).map BurstPacket.frame ∧
        SawCompletion {} (firstTurn ++ .route failureReport :: secondTurn) 1 1 := by
  obtain ⟨middle, hmiddle⟩ : ∃ middle, (start {} : Machine Unit Unit).run firstTurn = some middle :=
    Option.isSome_iff_exists.mp (by decide +kernel)
  obtain ⟨machine, hrun⟩ : ∃ machine, (start {} : Machine Unit Unit).run
      (firstTurn ++ .route failureReport :: secondTurn) = some machine :=
    Option.isSome_iff_exists.mp (by decide +kernel)
  have hmid : ((start {} : Machine Unit Unit).run firstTurn).map (fun middle =>
      (middle.session.transfer.outcome, middle.written 0)) = some (none, []) := by
    decide +kernel
  have hlast : ((start {} : Machine Unit Unit).run
      (firstTurn ++ .route failureReport :: secondTurn)).map (fun machine =>
        ((machine.result? 0).any Except.isOk, (machine.result? 1).any Except.isOk)) =
      some (true, true) := by
    decide +kernel
  rw [hmiddle, Option.map_some, Option.some.injEq, Prod.mk.injEq] at hmid
  rw [hrun, Option.map_some, Option.some.injEq, Prod.mk.injEq] at hlast
  have hfailure : SawFailure {} firstTurn failureReport middle 0 0 :=
    ⟨hmiddle, by decide +kernel, hmid.1, ⟨rfl, by decide, rfl, rfl⟩⟩
  have hok : ∀ thread, (machine.result? thread).any Except.isOk = true →
      ∃ reply, machine.result? thread = some (.ok reply) := by
    intro thread hany
    rcases hresult : machine.result? thread with _ | (error | reply)
    · rw [hresult] at hany
      cases hany
    · rw [hresult] at hany
      cases hany
    · exact ⟨reply, rfl⟩
  obtain ⟨first, hfirst⟩ := hok 0 hlast.1
  obtain ⟨second, hsecond⟩ := hok 1 hlast.2
  obtain ⟨_, _, hbursts⟩ := run_bursts {} _ machine hrun
  obtain ⟨_, hwritten, hfailed⟩ := hbursts 0 0 [7] none rfl
  obtain ⟨_, hcompleted, _⟩ := hbursts 1 1 [9] (some 10) rfl
  obtain ⟨hlength, hends⟩ := hfailed _ _ _ _ rfl hfailure
  refine ⟨machine, middle, hrun, hfailure, ?_, hlength, (hwritten first hfirst).1,
    (hcompleted second hsecond).2 rfl (by decide)⟩
  rcases (hends first hfirst).2 with hall | ⟨_, hwriting⟩
  · rw [hmid.2] at hall
    exact absurd hall (by decide +kernel)
  · exact hwriting

end Machine

end AntHost
