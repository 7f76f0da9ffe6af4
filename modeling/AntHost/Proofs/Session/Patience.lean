import AntHost.Proofs.Session.Sole
/-!
# Calls that are left in peace

A call that waits alone, whose command is written and whom neither a cancelled wait, the clock nor
the end of the session interrupts, loses nothing: what it expects and the device sends is among what
it took, or its waiter keeps it.
-/

namespace AntHost

variable {H β : Type} {call : Call} {before after : Tracker} {stage : AskStage} {op : Op}
  {reply : op.Reply} {session next : Session H β} {now since : Nat}
  {link : Except TransportError Unit}

/-! ## What operations leave alone -/

theorem Op.exec_cancelRaised (hexec : op.exec now link session = some (reply, next)) :
    next.cancelRaised = session.cancelRaised := by
  rw [exec_frame hexec]

/-- A wait that nobody cancels fails on an open tracker only when its time is over. -/
theorem Op.exec_awaitResponse_error {first : Ticket} {second : Option Ticket} {policy : WaitPolicy}
    {deadline : Option Nat} {error : WaitError}
    (hexec : (awaitResponse first second policy deadline).exec now link session =
      some (.error error, next))
    (hopen : session.tracker.closed = false) (hcancel : session.cancelRaised = false) :
    ∃ limit ∈ deadline, limit ≤ now := by
  obtain ⟨result, hcheck, heq⟩ := Option.map_eq_some_iff.mp hexec
  cases heq
  change policy.check _ deadline now (session.tracker.lookFor first second).1 = _ at hcheck
  rcases session.tracker.lookFor_cases first second with ⟨_, message, _, _, hfound⟩ | ⟨_, _, hlook⟩
  · rw [hfound] at hcheck
    cases hcheck
  · rw [hlook, hopen] at hcheck
    obtain ⟨reason, hreason, _⟩ := Option.map_eq_some_iff.mp hcheck
    cases deadline with
    | none => simp [WaitPolicy.givesUp, WaitPolicy.isCancelled, hcancel] at hreason
    | some limit =>
        refine ⟨limit, rfl, ?_⟩
        by_contra hearly
        simp [WaitPolicy.givesUp, WaitPolicy.isCancelled, hcancel, hearly] at hreason

/-! ## Steady calls -/

/-- Since its command was written nothing has failed for a call, and it read the clock in order. -/
structure AskStage.Steady (since now : Nat) (stage : AskStage) : Prop where
  written : stage.written = true
  failed : stage.failed = false
  sorted : stage.clocks.Pairwise (· ≤ ·)
  clocks : ∀ reading ∈ stage.clocks, since ≤ reading ∧ reading ≤ now

/-- The time of a call that waits for ever, or not for long yet, is not over, and a wait of it that
starts by now has a deadline that the clock can hold. -/
def Call.InTime (call : Call) (since now : Nat) : Prop :=
  call.patience = 0 ∨ now < since + call.patience ∧ now + call.patience < clockEnd

namespace AskStage.Steady

theorem calm (hsteady : stage.Steady since now) (hinTime : call.InTime since now) :
    stage.Calm call.patience := by
  refine ⟨hsteady.written, hsteady.failed, hsteady.sorted, fun start hstart reading hreading => ?_⟩
  have hsince := (hsteady.clocks start (List.mem_of_mem_head? hstart)).1
  have hnow := (hsteady.clocks reading hreading).2
  exact hinTime.imp_right fun ⟨_, _⟩ => ⟨by omega, by omega⟩

theorem mono {later : Nat} (hsteady : stage.Steady since now) (hlater : now ≤ later) :
    stage.Steady since later where
  written := hsteady.written
  failed := hsteady.failed
  sorted := hsteady.sorted
  clocks reading hreading :=
    (hsteady.clocks reading hreading).imp_right fun hle => Nat.le_trans hle hlater

/-- Nothing that a call does by itself makes it fail in time. -/
theorem own (hsteady : stage.Steady since now) (hsince : since ≤ now) (hexpects : call.expects ≠ [])
    (hallows : stage.Allows call op) (hexec : op.exec now link session = some (reply, next))
    (hopen : session.tracker.closed = false) (hcancel : session.cancelRaised = false)
    (hinTime : call.InTime since now) : (stage.next op reply).Steady since now := by
  obtain ⟨hwritten, hfailed, hsorted, hclocks⟩ := hsteady
  cases op with
  | mayWrite =>
      rw [hallows hexpects] at hwritten
      cases hwritten
  | write frame =>
      rw [(hallows hexpects).2] at hwritten
      cases hwritten
  | now =>
      cases hexec
      refine ⟨hwritten, hfailed, ?_, fun reading hreading => ?_⟩
      · refine List.pairwise_append.mpr ⟨hsorted, List.pairwise_singleton _ _, ?_⟩
        intro earlier hearlier reading hreading
        cases List.mem_singleton.mp hreading
        exact (hclocks earlier hearlier).2
      · rcases List.mem_append.mp hreading with hold | hnew
        · exact hclocks reading hold
        · cases List.mem_singleton.mp hnew
          exact ⟨hsince, Nat.le_refl _⟩
  | awaitResponse first second policy deadline =>
      cases reply with
      | ok message => exact ⟨hwritten, hfailed, hsorted, hclocks⟩
      | error error =>
          obtain ⟨limit, hlimit, hover⟩ := Op.exec_awaitResponse_error hexec hopen hcancel
          have hcalm : stage.Calm call.patience :=
            calm ⟨hwritten, hfailed, hsorted, hclocks⟩ hinTime
          -- No deadline of a calm call comes before its own time is over.
          obtain ⟨hfinite, start, hstart, hle⟩ := hallows.2.2.2 hcalm limit hlimit
          have hbegan := (hclocks start (List.mem_of_mem_head? hstart)).1
          exact absurd hinTime (by rw [Call.InTime]; omega)
  | _ => exact ⟨hwritten, hfailed, hsorted, hclocks⟩

end AskStage.Steady

/-! ## Responses that are kept -/

/-- Whoever waits for the identifier has a response. -/
def Tracker.Ready (tracker : Tracker) (messageId : UInt8) : Prop :=
  ∀ waiter ∈ tracker.waitersFor messageId, waiter.response ≠ none

theorem Tracker.Ready.replaces {messageId other : UInt8} {waiter : Waiter} {message : Message}
    (hready : before.Ready messageId)
    (hreplaces : before.Replaces other waiter (some message) after) : after.Ready messageId := by
  intro sole hsole
  rcases hreplaces.mem hsole with hold | ⟨_, rfl⟩
  · exact hready sole hold
  · exact Option.some_ne_none message

/-- For each routed message that a registration is for, the call took one like it, or one is there
for it. -/
def Saved (routed : Message → Prop) (tracker : Tracker) (stage : AskStage) : Prop :=
  ∀ entry ∈ stage.held, ∀ message, routed message → entry.2.MetBy message →
    (∃ other ∈ stage.taken, entry.2.MetBy other) ∨ tracker.Ready entry.1.messageId

section Route

variable [DecidableEq β] {hears : Expectation → Message → Prop} {message : Message}
  {entry : Ticket × Expectation}

theorem Session.ready_route {messageId : UInt8} (hready : session.tracker.Ready messageId) :
    (session.route message).2.tracker.Ready messageId := by
  rcases session.route_tracker_cases message with hsame | ⟨_, _, _, _, hreplaces, _⟩
  · rwa [hsame]
  · exact hready.replaces hreplaces

/-- A message that meets a registration fills its waiter, if that was still empty. -/
theorem Session.ready_route_of_metBy (hserves : session.tracker.Serves hears entry)
    (hsole : session.tracker.SoleFor entry.1) (hopen : session.tracker.closed = false)
    (hmet : entry.2.MetBy message) :
    (session.route message).2.tracker.Ready entry.1.messageId := by
  obtain ⟨channel, hoffered, hscope⟩ := hmet
  obtain ⟨waiter, hwaiters, htoken⟩ := hsole
  have hmem : waiter ∈ session.tracker.waitersFor entry.1.messageId :=
    hwaiters ▸ List.mem_singleton_self waiter
  have hchannel := (hserves.waiters waiter hmem htoken).1
  rw [hserves.messageId] at hwaiters ⊢
  rw [route_tracker, hoffered]
  dsimp only
  rcases session.tracker.offer_cases entry.2.messageId channel message with
    ⟨hrefuses, hoffer⟩ | ⟨filled, htakes, hoffer⟩
  · rw [hoffer]
    rcases hrefuses with hclosed | hrefuses
    · rw [hopen] at hclosed
      cases hclosed
    · rw [hwaiters, List.forall_mem_singleton] at hrefuses
      intro other hother hempty
      rw [hwaiters, List.mem_singleton] at hother
      subst hother
      rw [Waiter.accepts_iff.mpr ⟨hempty, hchannel ▸ hscope⟩] at hrefuses
      cases hrefuses
  · rw [hoffer]
    obtain ⟨taker, hreplaces, _⟩ := Tracker.replaces_of_takes htakes
    rcases hreplaces.of_sole hwaiters with ⟨hother, _⟩ | ⟨_, _, hfilled⟩
    · exact absurd rfl hother
    · intro other hother
      rw [hfilled, List.mem_singleton] at hother
      rw [hother]
      exact Option.some_ne_none message

theorem Saved.route {routed : Message → Prop} (hsaved : Saved routed session.tracker stage)
    (hattends : Attends hears call session.tracker stage) (halone : Alone session.tracker stage)
    (hopen : session.tracker.closed = false) :
    Saved (fun other => routed other ∨ other = message) (session.route message).2.tracker
      stage := by
  intro entry hentry other hrouted hmet
  rcases hrouted with hold | rfl
  · exact (hsaved entry hentry other hold hmet).imp_right Session.ready_route
  · exact .inr (Session.ready_route_of_metBy (hattends.serves entry hentry)
      (halone.sole entry hentry) hopen hmet)

end Route

theorem Saved.of_waitersFor {routed : Message → Prop} (hsaved : Saved routed before stage)
    (hsame : ∀ messageId, after.waitersFor messageId = before.waitersFor messageId) :
    Saved routed after stage := by
  intro entry hentry message hrouted hmet
  refine (hsaved entry hentry message hrouted hmet).imp_right fun hready waiter hwaiter => ?_
  exact hready waiter (hsame _ ▸ hwaiter)

/-- What a call takes out of a waiter, it has. -/
theorem Saved.own {routed : Message → Prop} {hears : Expectation → Message → Prop}
    (hsaved : Saved routed before stage) (hattends : Attends hears call before stage)
    (hmet : ∀ expectation message, hears expectation message → expectation.MetBy message)
    (hdistinct : (call.expects.map Expectation.messageId).Nodup)
    (hwritten : stage.written = true) (hallows : stage.Allows call op)
    (htracks : op.Tracks reply before after) : Saved routed after (stage.next op reply) := by
  cases op with
  | register =>
      rw [hallows.1] at hwritten
      cases hwritten
  | unregister ticket =>
      cases htracks
      intro entry hentry message hrouted hmeets
      have hold := (List.dropLast_prefix stage.held).subset hentry
      refine (hsaved entry hold message hrouted hmeets).imp_right fun hready waiter hwaiter => ?_
      exact hready waiter (Tracker.mem_unregister.mp hwaiter).1
  | awaitResponse first second policy deadline =>
      cases reply with
      | error error =>
          cases htracks
          exact hsaved
      | ok message =>
          obtain ⟨ticket, hticket, htake⟩ := htracks
          obtain ⟨waiter, hreplaces, htoken, hresponse⟩ := Tracker.take_eq_some htake
          intro entry hentry other hrouted hmeets
          by_cases hsame : entry.1.messageId = ticket.messageId
          · -- The ticket is the entry's own, and what it took meets the entry.
            have hown : ticket ∈ stage.held.map Prod.fst := by
              rw [hallows.1, List.mem_cons, Option.mem_toList]
              exact hticket
            obtain ⟨owner, howner, rfl⟩ := List.mem_map.mp hown
            have hentry_eq : entry = owner :=
              List.inj_on_of_nodup_map (hattends.nodup hdistinct) hentry howner hsame
            subst hentry_eq
            have hserved := (hattends.serves entry hentry).waiters waiter hreplaces.mem_self htoken
            exact .inl ⟨message, List.mem_append_right _ (List.mem_singleton_self _),
              hmet _ _ (hserved.2 message hresponse)⟩
          · rcases hsaved entry hentry other hrouted hmeets with ⟨taken, htaken, htook⟩ | hready
            · exact .inl ⟨taken, List.mem_append_left _ htaken, htook⟩
            · refine .inr fun sole hsole => hready sole ?_
              rwa [hreplaces.other _ hsame] at hsole
  | _ =>
      cases htracks
      exact hsaved

/-! ## Runs in which a call is left in peace -/

namespace Machine

variable [DecidableEq β] {config : Config} {events late : List (Event H β)}
  {machine next : Machine H β} {event : Event H β} {stages later : Nat → AskStage} {thread : Nat}

/-- A closed tracker stays so. -/
theorem Advances.closed_of_closed (hadvances : Advances askConduct machine stages event next later)
    (hopen : next.session.tracker.closed = false) : machine.session.tracker.closed = false := by
  cases hadvances with
  | begun => exact hopen
  | performed _ hexec => exact (Op.exec_tracker hexec).closed.symm.trans hopen
  | routed message => exact (machine.session.tracker_closed_route message).symm.trans hopen
  | changed _ _ _ htracker =>
      rcases htracker with hsame | hclosed
      · rwa [← hsame]
      · change Tracker.closed _ = false at hopen
        rw [hclosed] at hopen
        cases hopen

theorem Advances.uncancelled (hadvances : Advances askConduct machine stages event next later)
    (hcancel : machine.session.cancelRaised = false) (hevent : event ≠ .setCancel true) :
    next.session.cancelRaised = false := by
  cases hadvances with
  | begun => exact hcancel
  | performed _ hexec => exact (Op.exec_cancelRaised hexec).trans hcancel
  | routed message =>
      change (machine.session.route message).2.cancelRaised = false
      rw [Session.route_frame]
      exact hcancel
  | @changed _ session now _ _ _ _ hraised =>
      rcases hraised with hsame | hset
      · exact hsame.trans hcancel
      · cases hraised : session.cancelRaised with
        | false => rfl
        | true => exact absurd (hraised ▸ hset) hevent

/-- A call that wrote its command waits alone and uncancelled: as long as the session lasts and the
time is not over nothing fails for it, and nothing is lost that the device sent since. -/
structure Pursued (config : Config) (events : List (Event H β)) (thread : Nat) (call : Call)
    (since : Nat) (late : List (Event H β)) (machine : Machine H β) (stages : Nat → AskStage) :
    Prop where
  undisturbed : Undisturbed config events thread call machine stages
  written : (stages thread).written = true
  since_le : since ≤ machine.now
  uncancelled : machine.session.cancelRaised = false
  steady : machine.session.tracker.closed = false → call.InTime since machine.now →
    (stages thread).Steady since machine.now
  saved : machine.session.tracker.closed = false →
    Saved (fun message => .route message ∈ late) machine.session.tracker (stages thread)

namespace Pursued

theorem written_step (hpursued : Pursued config events thread call since late machine stages)
    (hconducted : Conducted askConduct config events machine stages)
    (hadvances : Advances askConduct machine stages event next later) :
    (later thread).written = true := by
  have hwritten := hpursued.written
  cases hconducted.view hadvances hpursued.undisturbed.begun with
  | @own _ op _ reply _ _ _ _ hlater =>
      rw [hlater]
      cases op with
      | write => rfl
      | awaitResponse => cases reply <;> exact hwritten
      | _ => exact hwritten
  | other _ _ _ hlater | routed _ hlater | kept _ _ hlater => rwa [hlater]

theorem steady_step (hpursued : Pursued config events thread call since late machine stages)
    (hconducted : Conducted askConduct config events machine stages)
    (hadvances : Advances askConduct machine stages event next later) (hexpects : call.expects ≠ [])
    (hopen : next.session.tracker.closed = false) (hinTime : call.InTime since next.now) :
    (later thread).Steady since next.now := by
  have hwas := hadvances.closed_of_closed hopen
  have hearly : call.InTime since machine.now :=
    hinTime.imp_right fun ⟨hlt, hholds⟩ => ⟨Nat.lt_of_le_of_lt hadvances.now_le hlt,
      Nat.lt_of_le_of_lt (Nat.add_le_add_right hadvances.now_le _) hholds⟩
  have hsteady := (hpursued.steady hwas hearly).mono hadvances.now_le
  cases hconducted.view hadvances hpursued.undisturbed.begun with
  | @own _ op _ _ _ _ hallows hexec hlater =>
      rw [hlater]
      change AskStage.Steady since (machine.record thread op).now _
      rw [now_record]
      exact (hpursued.steady hwas hearly).own hpursued.since_le hexpects hallows hexec hwas
        hpursued.uncancelled hearly
  | other _ _ _ hlater | routed _ hlater | kept _ _ hlater => rwa [hlater]

theorem saved_step (hpursued : Pursued config events thread call since late machine stages)
    (hconducted : Conducted askConduct config events machine stages)
    (hadvances : Advances askConduct machine stages event next later)
    (hdistinct : (call.expects.map Expectation.messageId).Nodup)
    (hopen : next.session.tracker.closed = false) :
    Saved (fun message => .route message ∈ late ++ [event]) next.session.tracker
      (later thread) := by
  have hwas := hadvances.closed_of_closed hopen
  have hsaved := hpursued.saved hwas
  have hundisturbed := hpursued.undisturbed
  -- An event that routes nothing asks for nothing more to be saved.
  have hquiet : ∀ {tracker stage}, (∀ message, event ≠ .route message) →
      Saved (fun message => .route message ∈ late) tracker stage →
      Saved (fun message => .route message ∈ late ++ [event]) tracker stage := by
    intro tracker stage hroute hkept entry hentry message hrouted
    rcases List.mem_append.mp hrouted with hold | hnew
    · exact hkept entry hentry message hold
    · exact absurd (List.mem_singleton.mp hnew).symm (hroute message)
  cases hconducted.view hadvances hundisturbed.begun with
  | own _ hallows hexec hlater =>
      rw [hlater]
      exact hquiet nofun (hsaved.own hundisturbed.attends (fun _ _ hhears => hhears.1) hdistinct
        hpursued.written hallows (Op.exec_tracker hexec))
  | @other performer _ _ _ _ session hother hperformer hexec hlater =>
      rw [hlater]
      refine hquiet nofun ?_
      change Saved _ session.tracker _
      rw [hundisturbed.tracker_of_other hconducted hother hperformer hexec]
      exact hsaved
  | routed message hlater =>
      rw [hlater]
      intro entry hentry other hrouted
      refine hsaved.route hundisturbed.attends hundisturbed.alone hwas entry hentry other ?_
      rcases List.mem_append.mp hrouted with hold | hnew
      · exact .inl hold
      · cases List.mem_singleton.mp hnew
        exact .inr rfl
  | kept hroute htracker hlater =>
      rw [hlater]
      refine hquiet hroute (hsaved.of_waitersFor fun messageId => ?_)
      rcases htracker with hsame | hclosed
      · rw [hsame]
      · rw [hclosed]
        rfl

theorem step (hpursued : Pursued config events thread call since late machine stages)
    (hconducted : Conducted askConduct config events machine stages)
    (hadvances : Advances askConduct machine stages event next later) (hexpects : call.expects ≠ [])
    (hdistinct : (call.expects.map Expectation.messageId).Nodup)
    (hbegun : ∀ caller ∈ event.call?, caller.expects = []) (hcancel : event ≠ .setCancel true) :
    Pursued config (events ++ [event]) thread call since (late ++ [event]) next later where
  undisturbed := hpursued.undisturbed.step hconducted hdistinct hadvances hbegun
  written := hpursued.written_step hconducted hadvances
  since_le := Nat.le_trans hpursued.since_le hadvances.now_le
  uncancelled := hadvances.uncancelled hpursued.uncancelled hcancel
  steady := hpursued.steady_step hconducted hadvances hexpects
  saved := hpursued.saved_step hconducted hadvances hdistinct

theorem run {last : Machine H β} (hconducted : Conducted askConduct config events machine stages)
    (hpursued : Pursued config events thread call since [] machine stages)
    (hexpects : call.expects ≠ []) (hdistinct : (call.expects.map Expectation.messageId).Nodup)
    (hbegun : ∀ caller ∈ calls late, caller.expects = []) (hcancel : .setCancel true ∉ late)
    (hrun : machine.run late = some last) :
    ∃ later, Conducted askConduct config (events ++ late) last later ∧
      Pursued config (events ++ late) thread call since late last later := by
  obtain ⟨later, hlast, routed, heq, hpursued⟩ : ∃ later,
      Conducted askConduct config (events ++ late) last later ∧
        ∃ routed, events ++ late = events ++ routed ∧
          Pursued config (events ++ late) thread call since routed last later := by
    refine Conducted.run (Call.asks config) (fun history machine stages => ∃ routed,
      history = events ++ routed ∧ Pursued config history thread call since routed machine stages)
      hconducted ⟨[], (List.append_nil _).symm, hpursued⟩ ?_ hrun
    rintro _ middle event next current later hmem hconducted ⟨routed, rfl, hpursued⟩ _ hadvances
    refine ⟨routed ++ [event], List.append_assoc _ _ _, ?_⟩
    refine hpursued.step hconducted hadvances hexpects hdistinct (fun caller hcaller => ?_) ?_
    · exact hbegun caller (List.mem_filterMap.mpr ⟨event, hmem, hcaller⟩)
    · rintro rfl
      exact hcancel hmem
  rw [← List.append_cancel_left heq] at hpursued
  exact ⟨later, hlast, hpursued⟩

end Pursued

end Machine

end AntHost
