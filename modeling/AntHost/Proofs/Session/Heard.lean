import AntHost.Proofs.Session.Waiting
/-!
# What calls hear

As long as tokens do not repeat, no two registrations are taken for each other. So in every
interleaving a call takes only messages that were routed while it was in progress and that meet what
it registered.
-/

namespace AntHost

variable {H β : Type}

/-! ## Tokens tell registrations apart -/

namespace Machine

/-- Whether an event is a registration. -/
def registers (machine : Machine H β) : Event H β → Bool
  | .perform thread _ =>
      match machine.threads[thread]? with
      | some (.perform (.register _ _) _) => true
      | _ => false
  | _ => false

variable {machine : Machine H β} {stages later : Nat → AskStage} {thread : Nat}

theorem registers_of_changed {event : Event H β}
    (hperform : ∀ thread link, event ≠ .perform thread link) : machine.registers event = false := by
  cases event with
  | perform thread link => exact absurd rfl (hperform thread link)
  | _ => rfl

/-- A registration that a thread is about to make will be told apart from what is held and from what
is waiting. -/
def Distinct (machine : Machine H β) (held : List (Ticket × Expectation)) : Prop :=
  ∀ (performer : Nat) (messageId : UInt8) (channel : Option UInt8) rest,
    machine.threads[performer]? = some (Program.perform (.register messageId channel) rest) →
    machine.session.tracker.Fresh messageId held

/-- Every token in use is the number of an earlier registration. -/
structure Counted (count : Nat) (tracker : Tracker) (stages : Nat → AskStage) : Prop where
  nextToken : tracker.nextToken = .ofNat count
  waiters : ∀ messageId, ∀ waiter ∈ tracker.waitersFor messageId,
    ∃ number < count, waiter.token = .ofNat number
  held : ∀ thread, ∀ entry ∈ (stages thread).held, ∃ number < count, entry.1.token = .ofNat number

namespace Counted

variable {count : Nat} {before after : Tracker}

theorem fresh : Counted 0 {} fun _ => {} := ⟨rfl, nofun, nofun⟩

theorem thins (hcounted : Counted count before stages) (hthins : before.Thins after)
    (hheld : ∀ thread, ∀ entry ∈ (later thread).held, entry ∈ (stages thread).held) :
    Counted count after later where
  nextToken := hthins.nextToken.trans hcounted.nextToken
  waiters messageId waiter hwaiter := by
    obtain ⟨old, hold, htoken⟩ := hthins.waiters messageId waiter hwaiter
    exact htoken ▸ hcounted.waiters messageId old hold
  held thread entry hentry := hcounted.held thread entry (hheld thread entry hentry)

theorem register (hcounted : Counted count before stages) {messageId : UInt8}
    {channel : Option UInt8}
    (hheld : ∀ thread, ∀ entry ∈ (later thread).held, entry ∈ (stages thread).held ∨
      entry.1.token = before.nextToken) :
    Counted (count + 1) (before.register messageId channel).2 later where
  nextToken := by
    change before.nextToken + 1 = _
    rw [hcounted.nextToken, UInt64.ofNat_add]
    rfl
  waiters other waiter hwaiter := by
    rcases Tracker.mem_register hwaiter with hold | ⟨_, rfl⟩
    · obtain ⟨number, hlt, htoken⟩ := hcounted.waiters other waiter hold
      exact ⟨number, Nat.lt_succ_of_lt hlt, htoken⟩
    · exact ⟨count, Nat.lt_succ_self count, hcounted.nextToken⟩
  held thread entry hentry := by
    rcases hheld thread entry hentry with hold | hnew
    · obtain ⟨number, hlt, htoken⟩ := hcounted.held thread entry hold
      exact ⟨number, Nat.lt_succ_of_lt hlt, htoken⟩
    · exact ⟨count, Nat.lt_succ_self count, hnew.trans hcounted.nextToken⟩

/-- As long as tokens do not repeat, the next one is new. -/
theorem ne_nextToken (hcounted : Counted count before stages) (hfew : count < UInt64.size)
    {number : Nat} (hlt : number < count) : UInt64.ofNat number ≠ before.nextToken := by
  intro heq
  rw [hcounted.nextToken] at heq
  have hsame := congrArg UInt64.toNat heq
  rw [UInt64.toNat_ofNat_of_lt' (Nat.lt_trans hlt hfew), UInt64.toNat_ofNat_of_lt' hfew] at hsame
  exact Nat.ne_of_lt hlt hsame

theorem distinct (hcounted : Counted count machine.session.tracker stages)
    (hfew : count < UInt64.size) : machine.Distinct (stages thread).held := by
  have hnew : ∀ number < count, UInt64.ofNat number ≠ machine.session.tracker.nextToken :=
    fun _ hlt => hcounted.ne_nextToken hfew hlt
  intro performer messageId channel rest _
  refine ⟨fun waiter hwaiter => ?_, fun entry hentry heq => ?_⟩
  · obtain ⟨number, hlt, htoken⟩ := hcounted.waiters messageId waiter hwaiter
    exact htoken ▸ hnew number hlt
  · obtain ⟨number, hlt, htoken⟩ := hcounted.held thread entry hentry
    exact hnew number hlt (htoken.symm.trans (congrArg Ticket.token heq))

/-- A registration uses the next number, and no other operation brings in a new ticket. -/
theorem performed {performer : Nat}
    (hcounted : Counted count machine.session.tracker stages) {op : Op} {reply : op.Reply}
    {rest : op.Reply → Program (Except CallError Reply)}
    (hperformer : machine.threads[performer]? = some (.perform op rest))
    (htracks : op.Tracks reply machine.session.tracker after)
    (link : Except TransportError Unit) :
    Counted (count + if machine.registers (.perform performer link) then 1 else 0) after
      (Function.update stages performer ((stages performer).next op reply)) := by
  have hheld : ∀ thread, ∀ entry ∈
      (Function.update stages performer ((stages performer).next op reply) thread).held,
      entry ∈ (stages thread).held ∨ ∃ messageId channel, op = .register messageId channel ∧
        entry.1 = ⟨messageId, machine.session.tracker.nextToken⟩ := by
    intro thread entry hentry
    by_cases hsame : thread = performer
    · subst hsame
      rw [Function.update_self] at hentry
      exact AskStage.mem_held_next htracks hentry
    · rw [Function.update_of_ne hsame] at hentry
      exact .inl hentry
  rw [registers, hperformer]
  by_cases hregister : ∃ messageId channel, op = .register messageId channel
  · obtain ⟨messageId, channel, rfl⟩ := hregister
    have hafter : (machine.session.tracker.register messageId channel).2 = after :=
      congrArg Prod.snd htracks
    subst hafter
    refine hcounted.register fun thread entry hentry => (hheld thread entry hentry).imp_right ?_
    rintro ⟨_, _, _, hticket⟩
    rw [hticket]
  · have hop : ∀ messageId channel, op ≠ .register messageId channel :=
      fun messageId channel heq => hregister ⟨messageId, channel, heq⟩
    have hthins := hcounted.thins (htracks.thins hop) fun thread entry hentry =>
      (hheld thread entry hentry).resolve_right fun ⟨_, _, heq, _⟩ => hop _ _ heq
    cases op with
    | register messageId channel => exact absurd rfl (hop messageId channel)
    | _ => exact hthins

end Counted

/-! ## Messages that a thread hears -/

variable [DecidableEq β] {config : Config} {events : List (Event H β)} {next : Machine H β}
  {event : Event H β} {message : Message}

/-- The number of registrations among some events. -/
def registrations (machine : Machine H β) : List (Event H β) → Nat
  | [] => 0
  | event :: rest =>
      (if machine.registers event then 1 else 0) +
        match machine.step event with
        | some next => next.registrations rest
        | none => 0

theorem registrations_concat {first last : Machine H β} (hrun : first.run events = some last)
    (event : Event H β) :
    first.registrations (events ++ [event]) =
      first.registrations events + if last.registers event then 1 else 0 := by
  induction events generalizing first with
  | nil =>
      cases hrun
      rw [List.nil_append, registrations, registrations, Nat.zero_add]
      cases last.step event <;> rfl
  | cons head rest ih =>
      obtain ⟨next, hstep, hrest⟩ := Option.bind_eq_some_iff.mp hrun
      rw [List.cons_append, registrations, registrations, hstep]
      dsimp only
      rw [ih hrest, Nat.add_assoc]

/-- A message was routed while the call of a thread was in progress. -/
def Heard (config : Config) (events : List (Event H β)) (thread : Nat) (message : Message) : Prop :=
  ∃ before after middle, events = before ++ .route message :: after ∧
    (start config).run before = some middle ∧ middle.InProgress thread

theorem Heard.concat (hheard : Heard config events thread message) (event : Event H β) :
    Heard config (events ++ [event]) thread message := by
  obtain ⟨before, after, middle, rfl, hreached, hprogress⟩ := hheard
  exact ⟨before, after ++ [event], middle, by simp, hreached, hprogress⟩

theorem Heard.mem (hheard : Heard config events thread message) : .route message ∈ events := by
  obtain ⟨before, after, _, rfl, _⟩ := hheard
  exact List.mem_append_right _ List.mem_cons_self

/-- A message that a thread hears and that is one of those an expectation is for. -/
def Hears (config : Config) (events : List (Event H β)) (thread : Nat) (expectation : Expectation)
    (message : Message) : Prop :=
  expectation.MetBy message ∧ Heard config events thread message

namespace Conducted

/-- A thread whose call has just begun is where idle threads are. -/
theorem update_begun (hconducted : Conducted askConduct config events machine stages)
    (call : Call) :
    Function.update stages machine.threads.length (askConduct.enter call) = stages :=
  hconducted.update_idle

/-- A thread that had no call before an event has done nothing after it. -/
theorem later_of_begun (hconducted : Conducted askConduct config events machine stages)
    (hadvances : Advances askConduct machine stages event next later)
    (hnew : (calls events).length ≤ thread) : later thread = {} := by
  have hidle := hconducted.idle thread (hconducted.length ▸ hnew)
  cases hadvances with
  | begun => rwa [hconducted.update_begun]
  | @performed performer _ _ _ _ _ hperformer =>
      have hlt := lt_of_getElem? hperformer
      rw [hconducted.length] at hlt
      rwa [Function.update_of_ne (Nat.ne_of_gt (Nat.lt_of_lt_of_le hlt hnew))]
  | routed | changed => exact hidle

/-- Who holds a ticket has not returned. -/
theorem inProgress_of_held (hconducted : Conducted askConduct config events machine stages)
    (hheld : (stages thread).held ≠ []) : machine.InProgress thread := by
  have hlt : thread < machine.threads.length := by
    by_contra hge
    rw [hconducted.idle thread (Nat.le_of_not_lt hge)] at hheld
    exact hheld rfl
  have hcall := List.getElem?_eq_getElem (hconducted.length ▸ hlt)
  rcases inProgress_or_result hlt with hprogress | ⟨result, hresult⟩
  · exact hprogress
  · exact absurd (hconducted.ends hcall hresult).1 hheld

/-- What a call takes, it has heard: every event keeps its part in order. -/
theorem attends_step (hconducted : Conducted askConduct config events machine stages)
    (hadvances : Advances askConduct machine stages event next later) {call : Call}
    (hcall : (calls events)[thread]? = some call)
    (hfresh : machine.registers event = true → machine.Distinct (stages thread).held)
    (hattends : Attends (Hears config events thread) call machine.session.tracker
      (stages thread)) :
    Attends (Hears config (events ++ [event]) thread) call next.session.tracker
      (later thread) := by
  have hmore : Attends (Hears config (events ++ [event]) thread) call machine.session.tracker
      (stages thread) := hattends.mono fun _ _ hhears => ⟨hhears.1, hhears.2.concat event⟩
  have hnew : ∀ {performer op rest} (link : Except TransportError Unit),
      event = .perform performer link →
      machine.threads[performer]? = some (.perform op rest) → ∀ messageId channel,
      op = .register messageId channel →
      machine.session.tracker.Fresh messageId (stages thread).held := by
    rintro performer op rest link rfl hperformer messageId channel rfl
    exact hfresh (by rw [registers, hperformer]) performer messageId channel rest hperformer
  cases hconducted.view hadvances hcall with
  | own hthread hallows hexec hlater =>
      rw [hlater]
      exact hmore.own hallows (Op.exec_tracker hexec) (hnew _ rfl hthread)
  | other _ hperformer hexec hlater =>
      rw [hlater]
      exact hmore.other (Op.exec_tracker hexec) (hnew _ rfl hperformer)
  | routed message hlater =>
      rw [hlater]
      refine hmore.of_serves fun entry hentry hserves => ?_
      rcases machine.session.route_tracker_cases message with
        hsame | ⟨messageId, channel, waiter, hoffered, hreplaces, hchannel⟩
      · change Tracker.Serves (machine.session.route message).2.tracker _ entry
        rw [hsame]
        exact hserves
      · refine hserves.replaces hreplaces ?_
        -- Only a call in progress holds an entry, so the message that fills its waiter is heard.
        rintro _ ⟨⟩ hid hscope
        have hprogress := hconducted.inProgress_of_held (List.ne_nil_of_mem hentry)
        refine ⟨⟨channel, ?_, hscope ▸ hchannel⟩, events, [], machine, rfl, hconducted.reached,
          hprogress⟩
        rw [hoffered, ← hid, hserves.messageId]
  | kept _ htracker hlater =>
      rw [hlater]
      refine hmore.of_serves fun entry _ hserves => ?_
      rcases htracker with hsame | hclosed
      · exact hsame ▸ hserves
      · exact hclosed ▸ ⟨hserves.messageId, hserves.waiters⟩

end Conducted

theorem Counted.step {count : Nat} (hcounted : Counted count machine.session.tracker stages)
    (hconducted : Conducted askConduct config events machine stages)
    (hadvances : Advances askConduct machine stages event next later) :
    Counted (count + if machine.registers event then 1 else 0) next.session.tracker later := by
  cases hadvances with
  | begun call onRouter =>
      rw [hconducted.update_begun]
      exact hcounted
  | performed hperformer hexec => exact hcounted.performed hperformer (Op.exec_tracker hexec) _
  | routed message =>
      refine hcounted.thins ?_ fun _ _ hentry => hentry
      rcases machine.session.route_tracker_cases message with hsame | ⟨_, _, _, _, hreplaces, _⟩
      · exact hsame ▸ .refl _
      · exact hreplaces.thins
  | changed _ hperform _ htracker =>
      rw [registers_of_changed hperform, if_neg Bool.false_ne_true, Nat.add_zero]
      rcases htracker with hsame | hclosed
      · exact hsame ▸ hcounted
      · exact hclosed ▸ ⟨hcounted.nextToken, hcounted.waiters, hcounted.held⟩

/-! ## Every call at once -/

/-- Every call's part of the tracker is in order. -/
def Attended (config : Config) (events : List (Event H β)) (machine : Machine H β)
    (stages : Nat → AskStage) : Prop :=
  ∀ thread call, (calls events)[thread]? = some call →
    Attends (Hears config events thread) call machine.session.tracker (stages thread)

theorem Attended.step (hattended : Attended config events machine stages)
    (hconducted : Conducted askConduct config events machine stages)
    (hadvances : Advances askConduct machine stages event next later)
    (hfresh : ∀ thread, machine.registers event = true →
      machine.Distinct (stages thread).held) :
    Attended config (events ++ [event]) next later := by
  intro thread call hcall
  rcases Nat.lt_or_ge thread (calls events).length with hlt | hge
  · rw [calls_concat, List.getElem?_append_left hlt] at hcall
    exact hconducted.attends_step hadvances hcall (hfresh thread) (hattended thread call hcall)
  · -- The call has just begun, and nothing is registered for it yet.
    rw [hconducted.later_of_begun hadvances hge]
    exact .fresh call _

theorem exists_attended (hrun : (start config).run events = some machine)
    (hfew : (start config : Machine H β).registrations events < UInt64.size) :
    ∃ stages, Conducted askConduct config events machine stages ∧
      Attended config events machine stages := by
  suffices hinvariant : ∃ stages, Conducted askConduct config events machine stages ∧
      Counted ((start config : Machine H β).registrations events) machine.session.tracker stages ∧
      ((start config : Machine H β).registrations events < UInt64.size →
        Attended config events machine stages) by
    obtain ⟨stages, hconducted, _, hattended⟩ := hinvariant
    exact ⟨stages, hconducted, hattended hfew⟩
  -- The count goes on when tokens repeat, the calls' parts are in order only until then.
  refine Conducted.run (Call.asks config) (fun events machine stages =>
    Counted ((start config : Machine H β).registrations events) machine.session.tracker stages ∧
      ((start config : Machine H β).registrations events < UInt64.size →
        Attended config events machine stages))
    (Conducted.fresh askConduct config) ⟨.fresh, nofun⟩ ?_ hrun
  rintro earlier middle event next current later _ hconducted ⟨hcounted, hattended⟩ _ hadvances
  rw [registrations_concat hconducted.reached]
  refine ⟨hcounted.step hconducted hadvances, fun hless => ?_⟩
  have hcount := Nat.lt_of_le_of_lt (Nat.le_add_right _ _) hless
  exact (hattended hcount).step hconducted hadvances fun thread _ => hcounted.distinct hcount

end Machine

end AntHost
