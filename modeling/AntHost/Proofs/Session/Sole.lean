import AntHost.Proofs.Session.Heard
/-!
# Calls that wait alone

Every waiter belongs to a call that holds its ticket. So a call that begins while no other request
is outstanding finds the tracker empty, and as long as it waits nobody else touches what it
registered.
-/

namespace AntHost

variable {H β : Type} {call : Call} {before after : Tracker} {stage : AskStage} {op : Op}
  {reply : op.Reply}

/-! ## Who owns a waiter -/

/-- A call at this stage holds the ticket. -/
def AskStage.Owns (stage : AskStage) (ticket : Ticket) : Prop :=
  ticket ∈ stage.held.map Prod.fst

/-- A waiter that a call does not own after an operation was there before, and was not the call's
own. -/
theorem AskStage.owns_next (hallows : stage.Allows call op) (htracks : op.Tracks reply before after)
    {messageId : UInt8} {waiter : Waiter} (hwaiter : waiter ∈ after.waitersFor messageId) :
    (stage.next op reply).Owns ⟨messageId, waiter.token⟩ ∨
      ¬ stage.Owns ⟨messageId, waiter.token⟩ ∧
        ∃ old ∈ before.waitersFor messageId, old.token = waiter.token := by
  cases op with
  | register answered channel =>
      cases htracks
      change ⟨messageId, waiter.token⟩ ∈ (stage.held ++ [_]).map Prod.fst ∨ _
      rw [List.map_append, List.mem_append]
      rcases Tracker.mem_register hwaiter with hold | ⟨rfl, rfl⟩
      · by_cases howns : stage.Owns ⟨messageId, waiter.token⟩
        · exact .inl (.inl howns)
        · exact .inr ⟨howns, waiter, hold, rfl⟩
      · exact .inl (.inr (List.mem_singleton_self _))
  | unregister ticket =>
      cases htracks
      obtain ⟨hold, hkept⟩ := Tracker.mem_unregister.mp hwaiter
      by_cases howns : stage.Owns ⟨messageId, waiter.token⟩
      · obtain ⟨entry, hentry, hticket⟩ := List.mem_map.mp howns
        refine .inl (List.mem_map.mpr ⟨entry, ?_, hticket⟩)
        obtain ⟨last, hlast, hown⟩ := Option.map_eq_some_iff.mp hallows.1
        rw [← List.dropLast_append_getLast? last hlast, List.mem_append, List.mem_singleton]
          at hentry
        refine hentry.resolve_right ?_
        rintro rfl
        exact hkept (hticket.symm.trans hown)
      · exact .inr ⟨howns, waiter, hold, rfl⟩
  | awaitResponse =>
      have hold := (htracks.thins nofun).waiters messageId waiter hwaiter
      by_cases howns : stage.Owns ⟨messageId, waiter.token⟩
      · cases reply <;> exact .inl howns
      · exact .inr ⟨howns, hold⟩
  | _ =>
      have hold := (htracks.thins nofun).waiters messageId waiter hwaiter
      by_cases howns : stage.Owns ⟨messageId, waiter.token⟩
      · exact .inl howns
      · exact .inr ⟨howns, hold⟩

/-- A call that expects nothing leaves the tracker alone. -/
theorem AskStage.quiet_next (hexpects : call.expects = []) (hheld : stage.held = [])
    (hallows : stage.Allows call op) (htracks : op.Tracks reply before after) :
    (stage.next op reply).held = [] ∧ after = before := by
  cases op with
  | register =>
      have hregistered := List.prefix_nil.mp (hexpects ▸ hallows.2)
      exact absurd hregistered (List.append_ne_nil_of_right_ne_nil _ (List.cons_ne_nil _ _))
  | unregister =>
      have hlast := hallows.1
      rw [hheld] at hlast
      cases hlast
  | awaitResponse =>
      have hfirst := hallows.1
      rw [hheld] at hfirst
      cases hfirst
  | _ => exact ⟨hheld, htracks⟩

/-! ## One waiter for each registration -/

/-- The only waiter for a ticket's identifier carries the ticket. -/
def Tracker.SoleFor (tracker : Tracker) (ticket : Ticket) : Prop :=
  ∃ waiter, tracker.waitersFor ticket.messageId = [waiter] ∧ waiter.token = ticket.token

namespace Attends

variable {hears : Expectation → Message → Prop}

/-- A call whose expectations differ in their identifiers holds no two tickets for one. -/
theorem nodup (hattends : Attends hears call before stage)
    (hdistinct : (call.expects.map Expectation.messageId).Nodup) :
    (stage.held.map fun entry => entry.1.messageId).Nodup := by
  have hids : stage.held.map (fun entry => entry.1.messageId) =
      (stage.held.map Prod.snd).map Expectation.messageId := by
    rw [List.map_map]
    exact List.map_congr_left fun entry hentry => (hattends.serves entry hentry).messageId
  rw [hids]
  exact (hattends.expects.map Expectation.messageId).sublist.nodup hdistinct

/-- A call registers no identifier twice. -/
theorem ne_of_register (hattends : Attends hears call before stage)
    (hdistinct : (call.expects.map Expectation.messageId).Nodup) {messageId : UInt8}
    {channel : Option UInt8} (hallows : stage.Allows call (.register messageId channel)) :
    ∀ entry ∈ stage.held, entry.1.messageId ≠ messageId := by
  intro entry hentry hsame
  have hall := (hallows.2.map Expectation.messageId).sublist.nodup hdistinct
  rw [List.map_append, List.map_map, List.nodup_append] at hall
  refine hall.2.2 _ (List.mem_map_of_mem hentry) messageId (List.mem_singleton_self _) ?_
  exact (hattends.serves entry hentry).messageId.symm.trans hsame

end Attends

/-- What waits is a call's own, and each of its registrations waits alone. -/
structure Alone (tracker : Tracker) (stage : AskStage) : Prop where
  owned : ∀ messageId, ∀ waiter ∈ tracker.waitersFor messageId,
    stage.Owns ⟨messageId, waiter.token⟩
  sole : ∀ entry ∈ stage.held, tracker.SoleFor entry.1

namespace Alone

variable {hears : Expectation → Message → Prop} {messageId : UInt8}

/-- Nothing waits for an identifier that the call has not registered. -/
theorem waitersFor_eq_nil (halone : Alone before stage)
    (hfree : ∀ entry ∈ stage.held, entry.1.messageId ≠ messageId) :
    before.waitersFor messageId = [] := by
  rw [List.eq_nil_iff_forall_not_mem]
  intro waiter hwaiter
  obtain ⟨entry, hentry, hticket⟩ := List.mem_map.mp (halone.owned messageId waiter hwaiter)
  exact hfree entry hentry (congrArg Ticket.messageId hticket)

theorem of_waitersFor (halone : Alone before stage)
    (hsame : ∀ messageId, after.waitersFor messageId = before.waitersFor messageId) :
    Alone after stage where
  owned messageId waiter hwaiter := halone.owned messageId waiter (hsame messageId ▸ hwaiter)
  sole entry hentry := by
    obtain ⟨waiter, hwaiter, htoken⟩ := halone.sole entry hentry
    exact ⟨waiter, (hsame _).trans hwaiter, htoken⟩

theorem replaces (halone : Alone before stage) {waiter : Waiter} {response : Option Message}
    (hreplaces : before.Replaces messageId waiter response after) : Alone after stage where
  owned other sole hsole := by
    obtain ⟨old, hold, htoken⟩ := hreplaces.thins.waiters other sole hsole
    exact htoken ▸ halone.owned other old hold
  sole entry hentry := by
    obtain ⟨sole, hsole, htoken⟩ := halone.sole entry hentry
    rcases hreplaces.of_sole hsole with ⟨_, hsame⟩ | ⟨_, rfl, hafter⟩
    · exact ⟨sole, hsame, htoken⟩
    · exact ⟨_, hafter, htoken⟩

/-- What a call does itself, it does to its own waiters. -/
theorem own (halone : Alone before stage) (hattends : Attends hears call before stage)
    (hdistinct : (call.expects.map Expectation.messageId).Nodup)
    (hallows : stage.Allows call op) (htracks : op.Tracks reply before after) :
    Alone after (stage.next op reply) := by
  have howned : ∀ messageId, ∀ waiter ∈ after.waitersFor messageId,
      (stage.next op reply).Owns ⟨messageId, waiter.token⟩ := by
    intro messageId waiter hwaiter
    rcases AskStage.owns_next hallows htracks hwaiter with howns | ⟨hforeign, old, hold, htoken⟩
    · exact howns
    · exact absurd (htoken ▸ halone.owned messageId old hold) hforeign
  refine ⟨howned, ?_⟩
  cases op with
  | register messageId channel =>
      cases htracks
      have hfree := hattends.ne_of_register hdistinct hallows
      intro entry hentry
      rcases List.mem_append.mp hentry with hold | hnew
      · obtain ⟨waiter, hwaiter, htoken⟩ := halone.sole entry hold
        refine ⟨waiter, Tracker.waitersFor_register.trans ?_, htoken⟩
        rw [if_neg (hfree entry hold), hwaiter]
      · rw [List.mem_singleton.mp hnew]
        refine ⟨{ token := before.nextToken, channel }, Tracker.waitersFor_register.trans ?_, rfl⟩
        rw [if_pos rfl, halone.waitersFor_eq_nil hfree, List.nil_append]
  | unregister ticket =>
      cases htracks
      intro entry hentry
      obtain ⟨waiter, hwaiter, htoken⟩ :=
        halone.sole entry ((List.dropLast_prefix stage.held).subset hentry)
      obtain ⟨last, hlast, rfl⟩ := Option.map_eq_some_iff.mp hallows.1
      have hids := hattends.nodup hdistinct
      rw [← List.dropLast_append_getLast? last hlast, List.map_append, List.nodup_append] at hids
      have hne := hids.2.2 _ (List.mem_map_of_mem hentry) _ (List.mem_singleton_self _)
      exact ⟨waiter, (Tracker.waitersFor_unregister_of_ne hne).trans hwaiter, htoken⟩
  | awaitResponse =>
      cases reply with
      | error =>
          cases htracks
          exact halone.sole
      | ok message =>
          obtain ⟨ticket, _, htake⟩ := htracks
          obtain ⟨waiter, hreplaces, _⟩ := Tracker.take_eq_some htake
          exact (halone.replaces hreplaces).sole
  | _ =>
      cases htracks
      exact halone.sole

end Alone

/-! ## Runs with one request outstanding -/

namespace Machine

variable [DecidableEq β] {config : Config} {events : List (Event H β)} {machine next : Machine H β}
  {event : Event H β} {stages later : Nat → AskStage} {thread : Nat}

/-- A call that has returned stays so. -/
theorem Advances.result? (hadvances : Advances askConduct machine stages event next later)
    {result : Except CallError Reply} (hresult : machine.result? thread = some result) :
    next.result? thread = some result := by
  have hdone := getElem?_of_result? hresult
  suffices hstill : next.threads[thread]? = some (.done result) by
    rw [Machine.result?, hstill]
  cases hadvances with
  | begun => exact (List.getElem?_append_left (lt_of_getElem? hdone)).trans hdone
  | @performed performer _ _ _ _ _ hperformer =>
      refine (List.getElem?_set_ne ?_).trans hdone
      rintro rfl
      cases hdone.symm.trans hperformer
  | routed | changed => exact hdone

/-- Every call holds a part of what it expects, and some call owns every waiter. -/
structure Registered (events : List (Event H β)) (machine : Machine H β)
    (stages : Nat → AskStage) : Prop where
  expects : ∀ thread call, (calls events)[thread]? = some call →
    (stages thread).held.map Prod.snd <+: call.expects
  owned : ∀ messageId, ∀ waiter ∈ machine.session.tracker.waitersFor messageId,
    ∃ thread, (stages thread).Owns ⟨messageId, waiter.token⟩

namespace Registered

theorem owned_step (hregistered : Registered events machine stages)
    (hconducted : Conducted askConduct config events machine stages)
    (hadvances : Advances askConduct machine stages event next later) {messageId : UInt8}
    {waiter : Waiter} (hwaiter : waiter ∈ next.session.tracker.waitersFor messageId) :
    ∃ thread, (later thread).Owns ⟨messageId, waiter.token⟩ := by
  cases hadvances with
  | begun =>
      rw [hconducted.update_begun]
      exact hregistered.owned messageId waiter hwaiter
  | @performed performer written op rest reply session hperformer hexec =>
      obtain ⟨call, _, hallows, _⟩ := hconducted.allows hperformer
      rcases AskStage.owns_next hallows (Op.exec_tracker hexec) hwaiter with
        howns | ⟨hforeign, old, hold, htoken⟩
      · exact ⟨performer, by rwa [Function.update_self]⟩
      · obtain ⟨owner, howner⟩ := hregistered.owned messageId old hold
        rw [htoken] at howner
        refine ⟨owner, ?_⟩
        rw [Function.update_of_ne]
        · exact howner
        · rintro rfl
          exact hforeign howner
  | routed message =>
      rcases machine.session.route_tracker_cases message with hsame | ⟨_, _, _, _, hreplaces, _⟩
      · exact hregistered.owned messageId waiter (hsame ▸ hwaiter)
      · obtain ⟨old, hold, htoken⟩ := hreplaces.thins.waiters messageId waiter hwaiter
        exact htoken ▸ hregistered.owned messageId old hold
  | changed _ _ _ htracker =>
      refine hregistered.owned messageId waiter ?_
      rcases htracker with hsame | hclosed
      · exact hsame ▸ hwaiter
      · change waiter ∈ Tracker.waitersFor _ messageId at hwaiter
        rw [hclosed] at hwaiter
        exact hwaiter

theorem step (hregistered : Registered events machine stages)
    (hconducted : Conducted askConduct config events machine stages)
    (hadvances : Advances askConduct machine stages event next later) :
    Registered (events ++ [event]) next later where
  expects thread call hcall := by
    rcases Nat.lt_or_ge thread (calls events).length with hlt | hge
    · rw [calls_concat, List.getElem?_append_left hlt] at hcall
      have hold := hregistered.expects thread call hcall
      cases hconducted.view hadvances hcall with
      | @own _ _ _ reply _ _ hallows _ hlater =>
          rw [hlater]
          exact AskStage.expects_next hallows hold reply
      | other _ _ _ hlater | routed _ hlater | kept _ _ hlater => rwa [hlater]
    · rw [hconducted.later_of_begun hadvances hge]
      exact List.nil_prefix
  owned _ _ hwaiter := hregistered.owned_step hconducted hadvances hwaiter

end Registered

omit [DecidableEq β] in
theorem Registered.fresh (config : Config) :
    Registered [] (start config : Machine H β) fun _ => {} := ⟨nofun, nofun⟩

theorem exists_registered (hrun : (start config).run events = some machine) :
    ∃ stages, Conducted askConduct config events machine stages ∧
      Registered events machine stages := by
  refine Conducted.run (Call.asks config) Registered (.fresh askConduct config) (.fresh config) ?_
    hrun
  intro earlier middle event next current later _ hconducted hregistered _ hadvances
  exact hregistered.step hconducted hadvances

/-- Of all threads only one may still hold a ticket, and every waiter is its own. -/
structure Undisturbed (config : Config) (events : List (Event H β)) (thread : Nat) (call : Call)
    (machine : Machine H β) (stages : Nat → AskStage) : Prop where
  begun : (calls events)[thread]? = some call
  quiet : ∀ other caller, other ≠ thread → (calls events)[other]? = some caller →
    (∃ result, machine.result? other = some result) ∨
      caller.expects = [] ∧ (stages other).held = []
  attends : Attends (Hears config events thread) call machine.session.tracker (stages thread)
  alone : Alone machine.session.tracker (stages thread)

namespace Undisturbed

/-- Whoever else performs an operation expects nothing. -/
theorem quiet_of_perform (hundisturbed : Undisturbed config events thread call machine stages)
    {performer : Nat} (hother : performer ≠ thread) {caller : Call}
    (hcaller : (calls events)[performer]? = some caller) {op : Op}
    {rest : op.Reply → Program (Except CallError Reply)}
    (hperformer : machine.threads[performer]? = some (.perform op rest)) :
    caller.expects = [] ∧ (stages performer).held = [] := by
  rcases hundisturbed.quiet performer caller hother hcaller with ⟨result, hresult⟩ | hquiet
  · cases hperformer.symm.trans (getElem?_of_result? hresult)
  · exact hquiet

theorem tracker_of_other (hundisturbed : Undisturbed config events thread call machine stages)
    (hconducted : Conducted askConduct config events machine stages) {performer : Nat}
    (hother : performer ≠ thread) {op : Op}
    {rest : op.Reply → Program (Except CallError Reply)} {reply : op.Reply}
    {session : Session H β} {link : Except TransportError Unit}
    (hperformer : machine.threads[performer]? = some (.perform op rest))
    (hexec : op.exec machine.now link machine.session = some (reply, session)) :
    session.tracker = machine.session.tracker := by
  obtain ⟨caller, hcaller, hallows, _⟩ := hconducted.allows hperformer
  obtain ⟨hexpects, hheld⟩ := hundisturbed.quiet_of_perform hother hcaller hperformer
  exact (AskStage.quiet_next hexpects hheld hallows (Op.exec_tracker hexec)).2

/-- Only the one call registers anything, and what it registers is new. -/
theorem distinct (hundisturbed : Undisturbed config events thread call machine stages)
    (hconducted : Conducted askConduct config events machine stages)
    (hdistinct : (call.expects.map Expectation.messageId).Nodup) :
    machine.Distinct (stages thread).held := by
  intro performer messageId channel rest hperformer
  obtain ⟨caller, hcaller, hallows, _⟩ := hconducted.allows hperformer
  by_cases hsame : performer = thread
  · subst hsame
    cases hcaller.symm.trans hundisturbed.begun
    have hfree := hundisturbed.attends.ne_of_register hdistinct hallows
    refine ⟨fun waiter hwaiter => ?_, fun entry hentry hticket => ?_⟩
    · rw [hundisturbed.alone.waitersFor_eq_nil hfree] at hwaiter
      cases hwaiter
    · exact hfree entry hentry (congrArg Ticket.messageId hticket)
  · obtain ⟨hexpects, _⟩ := hundisturbed.quiet_of_perform hsame hcaller hperformer
    have hregistered := List.prefix_nil.mp (hexpects ▸ hallows.2)
    exact absurd hregistered (List.append_ne_nil_of_right_ne_nil _ (List.cons_ne_nil _ _))

theorem alone_step (hundisturbed : Undisturbed config events thread call machine stages)
    (hconducted : Conducted askConduct config events machine stages)
    (hdistinct : (call.expects.map Expectation.messageId).Nodup)
    (hadvances : Advances askConduct machine stages event next later) :
    Alone next.session.tracker (later thread) := by
  cases hconducted.view hadvances hundisturbed.begun with
  | own _ hallows hexec hlater =>
      rw [hlater]
      exact hundisturbed.alone.own hundisturbed.attends hdistinct hallows (Op.exec_tracker hexec)
  | @other performer _ _ _ _ session hother hperformer hexec hlater =>
      rw [hlater]
      change Alone session.tracker _
      rw [hundisturbed.tracker_of_other hconducted hother hperformer hexec]
      exact hundisturbed.alone
  | routed message hlater =>
      rw [hlater]
      rcases machine.session.route_tracker_cases message with hsame | ⟨_, _, _, _, hreplaces, _⟩
      · exact hundisturbed.alone.of_waitersFor fun _ => by rw [hsame]
      · exact hundisturbed.alone.replaces hreplaces
  | kept _ htracker hlater =>
      rw [hlater]
      refine hundisturbed.alone.of_waitersFor fun messageId => ?_
      rcases htracker with hsame | hclosed
      · rw [hsame]
      · rw [hclosed]
        rfl

theorem quiet_step (hundisturbed : Undisturbed config events thread call machine stages)
    (hconducted : Conducted askConduct config events machine stages)
    (hadvances : Advances askConduct machine stages event next later)
    (hbegun : ∀ caller ∈ event.call?, caller.expects = []) {other : Nat} {caller : Call}
    (hother : other ≠ thread) (hcaller : (calls (events ++ [event]))[other]? = some caller) :
    (∃ result, next.result? other = some result) ∨
      caller.expects = [] ∧ (later other).held = [] := by
  rcases Nat.lt_or_ge other (calls events).length with hlt | hge
  · rw [calls_concat, List.getElem?_append_left hlt] at hcaller
    have hquiet : (∃ result, next.result? other = some result) ∨
        caller.expects = [] ∧ (stages other).held = [] := by
      refine (hundisturbed.quiet other caller hother hcaller).imp_left ?_
      rintro ⟨result, hresult⟩
      exact ⟨result, hadvances.result? hresult⟩
    cases hconducted.view hadvances hcaller with
    | own hperformer hallows hexec hlater =>
        obtain ⟨hexpects, hheld⟩ := hundisturbed.quiet_of_perform hother hcaller hperformer
        rw [hlater]
        exact .inr ⟨hexpects,
          (AskStage.quiet_next hexpects hheld hallows (Op.exec_tracker hexec)).1⟩
    | other _ _ _ hlater | routed _ hlater | kept _ _ hlater => rwa [hlater]
  · rw [calls_concat, List.getElem?_append_right hge] at hcaller
    rw [hconducted.later_of_begun hadvances hge]
    exact .inr ⟨hbegun caller (Option.mem_toList.mp (List.mem_of_getElem? hcaller)), rfl⟩

/-- As long as no other request begins, a call stays undisturbed. -/
theorem step (hundisturbed : Undisturbed config events thread call machine stages)
    (hconducted : Conducted askConduct config events machine stages)
    (hdistinct : (call.expects.map Expectation.messageId).Nodup)
    (hadvances : Advances askConduct machine stages event next later)
    (hbegun : ∀ caller ∈ event.call?, caller.expects = []) :
    Undisturbed config (events ++ [event]) thread call next later where
  begun := by
    rw [calls_concat, List.getElem?_append_left (List.getElem?_eq_some_iff.mp hundisturbed.begun).1]
    exact hundisturbed.begun
  quiet _ _ := hundisturbed.quiet_step hconducted hadvances hbegun
  attends := hconducted.attends_step hadvances hundisturbed.begun
    (fun _ => hundisturbed.distinct hconducted hdistinct) hundisturbed.attends
  alone := hundisturbed.alone_step hconducted hdistinct hadvances

end Undisturbed

/-- A call begins when every request before it has returned, and no other begins after it. -/
structure OnlyRequest (config : Config) (before : List (Event H β)) (call : Call) (onRouter : Bool)
    (after : List (Event H β)) (machine : Machine H β) : Prop where
  reached : (start config).run (before ++ .begin call onRouter :: after) = some machine
  returned : ∀ first, (start config).run before = some first → ∀ other caller,
    (calls before)[other]? = some caller → caller.expects ≠ [] →
    ∃ result, first.result? other = some result
  later : ∀ caller ∈ calls after, caller.expects = []

namespace OnlyRequest

variable {before after : List (Event H β)} {onRouter : Bool}

/-- Only the last of some calls may hold anything yet, and it has registered nothing. -/
theorem undisturbed_of_begun {first : Machine H β}
    (hconducted : Conducted askConduct config before first stages)
    (hregistered : Registered before first stages)
    (hreturned : ∀ other caller, (calls before)[other]? = some caller → caller.expects ≠ [] →
      ∃ result, first.result? other = some result)
    (hbegin : first.step (.begin call onRouter) = some next) :
    Undisturbed config (before ++ [.begin call onRouter]) (calls before).length call next
      stages := by
  have hheld : ∀ other, (stages other).held = [] := by
    intro other
    rcases Nat.lt_or_ge other (calls before).length with hlt | hge
    · have hcaller := List.getElem?_eq_getElem hlt
      by_cases hexpects : (calls before)[other].expects = []
      · exact List.map_eq_nil_iff.mp
          (List.prefix_nil.mp (hexpects ▸ hregistered.expects other _ hcaller))
      · obtain ⟨result, hresult⟩ := hreturned other _ hcaller hexpects
        exact (hconducted.ends hcaller hresult).1
    · rw [hconducted.idle other (hconducted.length ▸ hge)]
      rfl
  have hidle := hconducted.idle (calls before).length (Nat.le_of_eq hconducted.length)
  cases hbegin
  refine ⟨?_, fun other caller hother hcaller => ?_, ?_, ?_⟩
  · rw [calls_concat]
    exact List.getElem?_concat_length
  · rw [calls_concat] at hcaller
    change (calls before ++ [call])[other]? = _ at hcaller
    rw [getElem?_concat_of_ne hother] at hcaller
    by_cases hexpects : caller.expects = []
    · exact .inr ⟨hexpects, hheld other⟩
    · obtain ⟨result, hresult⟩ := hreturned other caller hcaller hexpects
      have hthread := getElem?_of_result? hresult
      refine .inl ⟨result, ?_⟩
      rw [Machine.result?, List.getElem?_append_left (lt_of_getElem? hthread), hthread]
  · rw [hidle]
    exact .fresh call _
  · rw [hidle]
    -- A waiter would have an owner, but nobody holds anything.
    refine ⟨fun messageId waiter hwaiter => ?_, fun _ hmem => absurd hmem List.not_mem_nil⟩
    obtain ⟨owner, howner⟩ := hregistered.owned messageId waiter hwaiter
    rw [AskStage.Owns, hheld owner] at howner
    cases howner

theorem exists_undisturbed (honly : OnlyRequest config before call onRouter after machine)
    (hdistinct : (call.expects.map Expectation.messageId).Nodup) :
    ∃ stages, Conducted askConduct config (before ++ .begin call onRouter :: after) machine stages ∧
      Undisturbed config (before ++ .begin call onRouter :: after) (calls before).length call
        machine stages := by
  have hreached := honly.reached
  rw [run_append] at hreached
  obtain ⟨first, hfirst, hrest⟩ := Option.bind_eq_some_iff.mp hreached
  obtain ⟨second, hsecond, hafter⟩ := Option.bind_eq_some_iff.mp hrest
  obtain ⟨stages, hconducted, hregistered⟩ := exists_registered hfirst
  obtain ⟨later, hadvances⟩ := exists_advances askConduct hsecond stages
  have hbegun := hconducted.step (Call.asks config) hsecond hadvances
  have hlater : later = stages := by
    cases hadvances with
    | begun => exact hconducted.update_begun call
    | changed hnone => cases hnone
  subst hlater
  rw [List.append_cons]
  refine Conducted.run (Call.asks config) (fun events machine stages =>
    Undisturbed config events (calls before).length call machine stages) hbegun
    (undisturbed_of_begun hconducted hregistered (honly.returned first hfirst) hsecond) ?_ hafter
  intro earlier middle event next current later hmem hconducted hundisturbed _ hadvances
  exact hundisturbed.step hconducted hdistinct hadvances fun caller hcaller =>
    honly.later caller (List.mem_filterMap.mpr ⟨event, hmem, hcaller⟩)

end OnlyRequest

/-- A call hears what is routed after it began. -/
theorem Heard.mem_of_begun {before after : List (Event H β)} {onRouter : Bool} {message : Message}
    (hheard : Heard config (before ++ .begin call onRouter :: after) (calls before).length
      message) : .route message ∈ after := by
  obtain ⟨earlier, later, middle, hsplit, hreached, op, rest, hthread⟩ := hheard
  obtain ⟨stages, hconducted, _⟩ := exists_registered hreached
  have hlt := lt_of_getElem? hthread
  rw [hconducted.length] at hlt
  rcases List.append_eq_append_iff.mp hsplit with
    ⟨between, _, hbegin⟩ | ⟨between, rfl, _⟩
  · cases between with
    | nil => cases hbegin
    | cons head tail =>
        cases hbegin
        exact List.mem_append_right _ List.mem_cons_self
  · rw [calls, calls, List.filterMap_append, List.length_append] at hlt
    exact absurd hlt (Nat.not_lt.mpr (Nat.le_add_right _ _))

end Machine

end AntHost
