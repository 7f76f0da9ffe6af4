import AntHost.Proofs.Session.Patience
/-!
# A call and the device

A call that waits alone, in time and uncancelled, on a session that lasts, is decided by what the
device sends after the command: by that alone it returns, and as soon as a waiter of its own has
what decides it, nothing makes it wait.
-/

namespace AntHost

variable {H β : Type} {call : Call} {session : Session H β} {stage : AskStage}
  {routed : Message → Prop}

/-! ## What a call has to go on with -/

/-- Each message that a call took was routed, and met what the call was waiting for then. -/
def Heeds (call : Call) (routed : Message → Prop) (taken : List Message) : Prop :=
  ∀ index message, taken[index]? = some message → routed message ∧
    ∃ expectation ∈ call.expects.take (call.expects.length - index), expectation.MetBy message

/-- A call is waiting, undecided by what it took. -/
structure Pending (call : Call) (routed : Message → Prop) (tracker : Tracker) (stage : AskStage) :
    Prop where
  expects : stage.held.map Prod.snd <+: call.expects
  held : stage.held ≠ []
  length : stage.held.length + stage.taken.length = call.expects.length
  undecided : call.verdict? stage.taken = none
  heeds : Heeds call routed stage.taken
  saved : Saved routed tracker stage

/-- A wait ends when one of its waiters has a response. -/
theorem Tracker.lookFor_ne_none {tracker : Tracker} {first ticket : Ticket} {second : Option Ticket}
    (hticket : ticket = first ∨ ticket ∈ second) (hsole : tracker.SoleFor ticket)
    (hready : tracker.Ready ticket.messageId) : (tracker.lookFor first second).1 ≠ none := by
  obtain ⟨waiter, hwaiters, htoken⟩ := hsole
  have htake := take_of_sole hwaiters htoken
  have hresponse : waiter.response ≠ none := hready waiter (hwaiters ▸ List.mem_singleton_self _)
  rcases tracker.lookFor_cases first second with ⟨_, message, _, _, hfound⟩ | ⟨hfirst, hsecond, _⟩
  · rw [hfound]
    exact Option.some_ne_none _
  · have hnone : tracker.take ticket = none :=
      hticket.elim (fun heq => heq ▸ hfirst) (hsecond ticket)
    rw [hnone] at htake
    exact absurd htake.symm hresponse

/-- Of what a call that expects something does, only its waits have to wait. -/
theorem AskStage.exists_exec {op : Op} {now : Nat} {link : Except TransportError Unit}
    (hexpects : call.expects ≠ []) (hallows : stage.Allows call op)
    (hfound : ∀ first second policy deadline, op = .awaitResponse first second policy deadline →
      (session.tracker.lookFor first second).1 ≠ none) :
    ∃ reply next, op.exec now link session = some (reply, next) := by
  cases op with
  | awaitResponse first second policy deadline =>
      obtain ⟨result, hresult⟩ := Option.ne_none_iff_exists'.mp (hfound _ _ _ _ rfl)
      refine ⟨result, { session with tracker := (session.tracker.lookFor first second).2 }, ?_⟩
      change Option.map _ (policy.check _ deadline now (session.tracker.lookFor first second).1) = _
      rw [hresult]
      rfl
  | beginTransfer | awaitOutcome | awaitStopped | joinRouter => exact absurd hallows hexpects
  | _ => exact ⟨_, _, rfl⟩

/-! ## Runs of a call and the device -/

namespace Machine

/-- Left to itself, a thread returns this. -/
def Settles [DecidableEq β] (machine : Machine H β) (thread : Nat)
    (result : Except CallError Reply) : Prop :=
  ∃ count final, machine.run (List.replicate count (.perform thread (.ok ()))) = some final ∧
    final.result? thread = some result

variable [DecidableEq β] {config : Config} {before early late events : List (Event H β)}
  {asked machine next : Machine H β} {stages : Nat → AskStage} {thread since : Nat} {call : Call}
  {onRouter : Bool}

/-- A call writes its command while no other request is outstanding, and until now it was not
cancelled, its time is not over, no deadline is beyond what the clock holds, and the session
lasts. -/
structure Exchange (config : Config) (before : List (Event H β)) (call : Call) (onRouter : Bool)
    (early : List (Event H β)) (asked : Machine H β) (late : List (Event H β))
    (machine : Machine H β) : Prop where
  only : OnlyRequest config before call onRouter
    (early ++ .perform (calls before).length (.ok ()) :: late) machine
  reached : (start config).run (before ++ .begin call onRouter :: early) = some asked
  writes : ∃ frame, asked.nextOp? (calls before).length = some (.write frame)
  uncancelled : asked.session.cancelRaised = false ∧ .setCancel true ∉ late
  lasts : machine.session.tracker.closed = false
  inTime : call.InTime asked.now machine.now

namespace Exchange

variable {later : Nat → AskStage}

/-- When its command has just been written, a call has done nothing since. -/
theorem written_next {events : List (Event H β)}
    (hconducted : Conducted askConduct config events asked stages)
    (hcall : (calls events)[thread]? = some call) (hexpects : call.expects ≠ [])
    {frame : List UInt8} (hwrites : asked.nextOp? thread = some (.write frame))
    (hadvances : Advances askConduct asked stages (.perform thread (.ok ())) next later) :
    later thread = { held := (later thread).held, written := true } := by
  obtain ⟨rest, hthread⟩ := getElem?_of_nextOp? hwrites
  cases hadvances with
  | performed hperformer hexec =>
      obtain ⟨caller, hcaller, hallows, _⟩ := hconducted.allows hperformer
      cases hcaller.symm.trans hcall
      cases hthread.symm.trans hperformer
      cases hexec
      rw [Function.update_self, (hallows hexpects).2]
      rfl
  | changed _ hperform => exact absurd rfl (hperform _ _)

theorem exists_pursued (hexchange : Exchange config before call onRouter early asked late machine)
    (hexpects : call.expects ≠ [])
    (hdistinct : (call.expects.map Expectation.messageId).Nodup) :
    ∃ stages, Conducted askConduct config
        (before ++ .begin call onRouter ::
          (early ++ .perform (calls before).length (.ok ()) :: late)) machine stages ∧
      Pursued config
        (before ++ .begin call onRouter ::
          (early ++ .perform (calls before).length (.ok ()) :: late))
        (calls before).length call asked.now late machine stages := by
  have hsplit : before ++ .begin call onRouter ::
      (early ++ .perform (calls before).length (.ok ()) :: late) =
        before ++ .begin call onRouter :: early ++
          .perform (calls before).length (.ok ()) :: late := by
    rw [List.append_assoc, List.cons_append]
  have hlater := hexchange.only.later
  rw [calls, List.filterMap_append] at hlater
  have hbefore : OnlyRequest config before call onRouter early asked :=
    ⟨hexchange.reached, hexchange.only.returned, fun caller hcaller =>
      hlater caller (List.mem_append_left _ hcaller)⟩
  obtain ⟨stages, hconducted, hundisturbed⟩ := hbefore.exists_undisturbed hdistinct
  have hreached := hexchange.only.reached
  rw [hsplit, run_append, hexchange.reached, Option.bind_some] at hreached
  obtain ⟨written, hstep, hlate⟩ := Option.bind_eq_some_iff.mp hreached
  obtain ⟨later, hadvances⟩ := exists_advances askConduct hstep stages
  obtain ⟨frame, hwrites⟩ := hexchange.writes
  have hstage := written_next hconducted hundisturbed.begun hexpects hwrites hadvances
  rw [hsplit, List.append_cons]
  refine Pursued.run (hconducted.step (Call.asks config) hstep hadvances) ?_ hexpects hdistinct
    (fun caller hcaller => hlater caller (List.mem_append_right _ hcaller))
    hexchange.uncancelled.2 hlate
  have hquiet : ∀ caller ∈ (.perform (calls before).length (.ok ()) : Event H β).call?,
      caller.expects = [] := by
    rintro _ ⟨⟩
  refine ⟨hundisturbed.step hconducted hdistinct hadvances hquiet, by rw [hstage],
    hadvances.now_le, hadvances.uncancelled hexchange.uncancelled.1 (by simp), fun _ _ => ?_,
    fun _ _ _ _ hrouted => absurd hrouted List.not_mem_nil⟩
  rw [hstage]
  exact ⟨rfl, rfl, List.Pairwise.nil, fun _ hmem => absurd hmem List.not_mem_nil⟩

/-- What the thread does by itself, it does in the same exchange. -/
theorem perform (hexchange : Exchange config before call onRouter early asked late machine)
    (hstep : machine.step (.perform (calls before).length (.ok ())) = some next) :
    Exchange config before call onRouter early asked
      (late ++ [.perform (calls before).length (.ok ())]) next := by
  obtain ⟨later, hadvances⟩ := exists_advances askConduct hstep fun _ => {}
  obtain ⟨hclosed, hnow⟩ : next.session.tracker.closed = machine.session.tracker.closed ∧
      next.now = machine.now := by
    cases hadvances with
    | performed _ hexec => exact ⟨(Op.exec_tracker hexec).closed, machine.now_record _ _⟩
    | changed _ hperform => exact absurd rfl (hperform _ _)
  have hsplit : early ++ .perform (calls before).length (.ok ()) ::
      (late ++ [.perform (calls before).length (.ok ())]) =
        early ++ .perform (calls before).length (.ok ()) :: late ++
          [.perform (calls before).length (.ok ())] := by
    rw [List.append_assoc, List.cons_append]
  refine ⟨⟨?_, hexchange.only.returned, fun caller hcaller => ?_⟩, hexchange.reached,
    hexchange.writes, ⟨hexchange.uncancelled.1, ?_⟩, hclosed.trans hexchange.lasts,
    hnow ▸ hexchange.inTime⟩
  · rw [hsplit, ← List.cons_append, ← List.append_assoc, run_append, hexchange.only.reached,
      Option.bind_some, run, hstep]
    rfl
  · rw [hsplit, calls_concat_of_none rfl] at hcaller
    exact hexchange.only.later caller hcaller
  · rw [List.mem_append, not_or]
    exact ⟨hexchange.uncancelled.2, by simp⟩

/-- What a call took in an exchange was routed after its command, if nothing that was routed earlier
met what it expects. -/
theorem heeds (hpursued : Pursued config
      (before ++ .begin call onRouter ::
        (early ++ .perform (calls before).length (.ok ()) :: late))
      (calls before).length call since late machine stages)
    (hearly : ∀ message, .route message ∈ early →
      ∀ expectation ∈ call.expects, ¬ expectation.MetBy message) :
    Heeds call (fun message => .route message ∈ late) (stages (calls before).length).taken := by
  intro index message htaken
  obtain ⟨expectation, hmem, hmet, hheard⟩ :=
    hpursued.undisturbed.attends.taken index message htaken
  refine ⟨?_, expectation, hmem, hmet⟩
  rcases List.mem_append.mp hheard.mem_of_begun with hrouted | hrouted
  · exact absurd hmet (hearly message hrouted expectation (List.mem_of_mem_take hmem))
  · exact (List.mem_cons.mp hrouted).resolve_left nofun

/-- A call returns the verdict of what it took. -/
theorem heeds_of_result? (hexchange : Exchange config before call onRouter early asked late machine)
    (hexpects : call.expects ≠ [])
    (hdistinct : (call.expects.map Expectation.messageId).Nodup)
    (hearly : ∀ message, .route message ∈ early →
      ∀ expectation ∈ call.expects, ¬ expectation.MetBy message)
    {result : Except CallError Reply}
    (hresult : machine.result? (calls before).length = some result) :
    ∃ taken, Heeds call (fun message => .route message ∈ late) taken ∧
      call.verdict? taken = some result := by
  obtain ⟨stages, hconducted, hpursued⟩ := hexchange.exists_pursued hexpects hdistinct
  have hcalm := (hpursued.steady hexchange.lasts hexchange.inTime).calm hexchange.inTime
  refine ⟨_, heeds hpursued hearly, ?_⟩
  rcases (hconducted.ends hpursued.undisturbed.begun hresult).2 hexpects with
    hverdict | ⟨error, rfl, hverdict | ⟨hfailed, _⟩⟩
  · exact hverdict
  · exact hverdict
  · exact absurd hcalm hfailed

/-- A call goes on by itself, unless it waits and none of its waiters has a response. -/
theorem exists_step (hexchange : Exchange config before call onRouter early asked late machine)
    (hexpects : call.expects ≠ [])
    (hdistinct : (call.expects.map Expectation.messageId).Nodup)
    (hearly : ∀ message, .route message ∈ early →
      ∀ expectation ∈ call.expects, ¬ expectation.MetBy message)
    (hready : ∀ tracker stage, Pending call (fun message => .route message ∈ late) tracker stage →
      ∃ entry ∈ stage.held, tracker.Ready entry.1.messageId)
    {op : Op} {rest : op.Reply → Program (Except CallError Reply)}
    (hthread : machine.threads[(calls before).length]? = some (.perform op rest)) :
    ∃ next, machine.step (.perform (calls before).length (.ok ())) = some next := by
  obtain ⟨stages, hconducted, hpursued⟩ := hexchange.exists_pursued hexpects hdistinct
  have hundisturbed := hpursued.undisturbed
  obtain ⟨caller, hcaller, hallows, _⟩ := hconducted.allows hthread
  cases hcaller.symm.trans hundisturbed.begun
  obtain ⟨reply, session, hexec⟩ : ∃ reply session,
      op.exec machine.now (.ok ()) machine.session = some (reply, session) := by
    refine AskStage.exists_exec hexpects hallows ?_
    -- It waits for everything it holds, and one of the waiters has a response already.
    rintro first second policy deadline rfl
    obtain ⟨hheld, hlength, hundecided, _⟩ := hallows
    have hsome : (stages (calls before).length).held ≠ [] := by
      intro hnone
      rw [hnone] at hheld
      cases hheld
    obtain ⟨entry, hentry, hready⟩ := hready machine.session.tracker
      (stages (calls before).length) ⟨hundisturbed.attends.expects, hsome, hlength, hundecided,
        heeds hpursued hearly, hpursued.saved hexchange.lasts⟩
    refine Tracker.lookFor_ne_none ?_ (hundisturbed.alone.sole entry hentry) hready
    have hticket : entry.1 ∈ (stages (calls before).length).held.map Prod.fst :=
      List.mem_map_of_mem hentry
    rwa [hheld, List.mem_cons, Option.mem_toList] at hticket
  exact ⟨_, step_perform hthread hexec⟩

/-- If each of its waits finds a response, a call returns by itself, in the same exchange. -/
theorem exists_result (hexpects : call.expects ≠ [])
    (hdistinct : (call.expects.map Expectation.messageId).Nodup)
    (hearly : ∀ message, .route message ∈ early →
      ∀ expectation ∈ call.expects, ¬ expectation.MetBy message)
    (hready : ∀ tracker stage, Pending call routed tracker stage →
      ∃ entry ∈ stage.held, tracker.Ready entry.1.messageId)
    (program : Program (Except CallError Reply))
    (hexchange : Exchange config before call onRouter early asked late machine)
    (hrouted : ∀ message, .route message ∈ late ↔ routed message)
    (hthread : machine.threads[(calls before).length]? = some program) :
    ∃ count final more result,
      machine.run (List.replicate count (.perform (calls before).length (.ok ()))) = some final ∧
        final.result? (calls before).length = some result ∧
        Exchange config before call onRouter early asked more final ∧
        ∀ message, .route message ∈ more ↔ routed message := by
  -- The induction is on what the thread has still to do; the exchange carries over to each step.
  induction program generalizing machine late with
  | done result =>
      exact ⟨0, machine, late, result, rfl, by rw [result?, hthread], hexchange, hrouted⟩
  | perform op rest ih =>
      have hsame : (fun message => .route message ∈ late) = routed :=
        funext fun message => propext (hrouted message)
      obtain ⟨next, hstep⟩ := hexchange.exists_step hexpects hdistinct hearly
        (hsame.symm ▸ hready) hthread
      obtain ⟨later, hadvances⟩ := exists_advances askConduct hstep fun _ => {}
      obtain ⟨reply, hrest⟩ :
          ∃ reply, next.threads[(calls before).length]? = some (rest reply) := by
        cases hadvances with
        | @performed _ _ own remaining reply _ hperformer =>
            cases hthread.symm.trans hperformer
            exact ⟨reply, List.getElem?_set_self (lt_of_getElem? hthread)⟩
        | changed _ hperform => exact absurd rfl (hperform _ _)
      have hroutes : ∀ message, .route message ∈
          late ++ [Event.perform (calls before).length (.ok ())] ↔ routed message := by
        intro message
        rw [List.mem_append, hrouted, or_iff_left (by simp)]
      obtain ⟨count, final, more, result, hrun, hlast⟩ :=
        ih reply (hexchange.perform hstep) hroutes hrest
      refine ⟨count + 1, final, more, result, ?_, hlast⟩
      rw [List.replicate_succ, Machine.run, hstep]
      exact hrun

/-- A call that the device has decided returns what the device decided, however its own operations
and the device's messages fell. -/
theorem settles (hexchange : Exchange config before call onRouter early asked late machine)
    (hexpects : call.expects ≠ [])
    (hdistinct : (call.expects.map Expectation.messageId).Nodup)
    (hearly : ∀ message, .route message ∈ early →
      ∀ expectation ∈ call.expects, ¬ expectation.MetBy message)
    {result : Except CallError Reply}
    (hverdict : ∀ taken other, Heeds call (fun message => .route message ∈ late) taken →
      call.verdict? taken = some other → other = result) :
    (∀ other, machine.result? (calls before).length = some other → other = result) ∧
      ((∀ tracker stage, Pending call (fun message => .route message ∈ late) tracker stage →
          ∃ entry ∈ stage.held, tracker.Ready entry.1.messageId) →
        machine.Settles (calls before).length result) := by
  constructor
  · intro other hother
    obtain ⟨taken, hheeds, htaken⟩ :=
      hexchange.heeds_of_result? hexpects hdistinct hearly hother
    exact hverdict taken other hheeds htaken
  · intro hready
    obtain ⟨stages, hconducted, hpursued⟩ := hexchange.exists_pursued hexpects hdistinct
    have hlt : (calls before).length < machine.threads.length := by
      rw [hconducted.length]
      exact (List.getElem?_eq_some_iff.mp hpursued.undisturbed.begun).1
    obtain ⟨count, final, more, other, hrun, hother, hfinal, hrouted⟩ :=
      exists_result hexpects hdistinct hearly hready _ hexchange (fun _ => Iff.rfl)
        (List.getElem?_eq_getElem hlt)
    obtain ⟨taken, hheeds, htaken⟩ := hfinal.heeds_of_result? hexpects hdistinct hearly hother
    rw [show (fun message => .route message ∈ more) = fun message => .route message ∈ late from
      funext fun message => propext (hrouted message)] at hheeds
    cases hverdict taken other hheeds htaken
    exact ⟨count, final, hrun, hother⟩

end Exchange

end Machine

end AntHost
