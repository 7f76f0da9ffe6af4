import AntHost.Proofs.Session.Expecting
/-!
# What calls take from the tracker

Every waiter belongs to a call that has not given it up. As long as no other waiter carries the same
ticket, a call takes only messages that were routed while it was in progress and that meet what it
registered.
-/

namespace AntHost

/-! ## Messages that are offered -/

namespace Message

/-- The identifier and the channel under which a message is offered to the calls. -/
def offered? (message : Message) : Option (UInt8 × UInt8) :=
  match message.route? with
  | some (.response channel messageId) | some (.other channel messageId) =>
      some (messageId, channel)
  | _ => none

/-- A response is offered under the command it answers, any other message under its own
identifier, and events and data not at all. -/
theorem offered?_eq_some_iff {message : Message} {messageId channel : UInt8} :
    message.offered? = some (messageId, channel) ↔
      message.payload ≠ [] ∧ message.byteAt 0 &&& 0x1F = channel ∧
        (message.id = 0x40 ∧ message.byteAt 1 = messageId ∧ messageId ≠ 1 ∨
          message.id = messageId ∧ messageId ≠ 0x40 ∧ message.dataDelivery? = none) := by
  by_cases hpayload : message.payload = []
  · simp [offered?, route?, hpayload]
  · by_cases hid : message.id = 0x40
    · have hother : ¬ (message.id = messageId ∧ messageId ≠ 0x40 ∧
          message.dataDelivery? = none) := by
        rintro ⟨rfl, hne, _⟩
        exact hne hid
      rw [offered?, route?_of_channelEvent hpayload hid]
      by_cases hevent : message.byteAt 1 = 1
      · rw [if_pos hevent]
        simp only [reduceCtorEq, false_iff]
        rintro ⟨_, _, ⟨_, rfl, hne⟩ | hraw⟩
        · exact hne hevent
        · exact hother hraw
      · rw [if_neg hevent]
        simp only [Option.some.injEq, Prod.mk.injEq, hother, or_false]
        constructor
        · rintro ⟨rfl, rfl⟩
          exact ⟨hpayload, rfl, hid, rfl, hevent⟩
        · rintro ⟨_, rfl, _, rfl, _⟩
          exact ⟨rfl, rfl⟩
    · cases hdata : message.dataDelivery? with
      | none =>
          rw [offered?, route?_of_other hpayload hid hdata]
          simp only [Option.some.injEq, Prod.mk.injEq, hid, false_and, false_or]
          constructor
          · rintro ⟨rfl, rfl⟩
            exact ⟨hpayload, rfl, rfl, hid, trivial⟩
          · rintro ⟨_, rfl, rfl, _, _⟩
            exact ⟨rfl, rfl⟩
      | some delivery =>
          obtain ⟨event, _, hroute⟩ := route?_of_data hpayload hdata
          rw [offered?, hroute]
          simp [hid]

end Message

/-- Whether a message is one of those that were registered for. -/
def Expectation.MetBy (expectation : Expectation) (message : Message) : Prop :=
  ∃ channel, message.offered? = some (expectation.messageId, channel) ∧
    (expectation.channel = none ∨ expectation.channel = some channel)

section Route

variable {H β : Type} [DecidableEq β]

theorem Session.deliver_tracker (session : Session H β) (slot? : Option (Slot H β))
    (channel code : UInt8) (data : List UInt8) :
    (session.deliver slot? channel code data).2.tracker = session.tracker := by
  cases slot? <;> rfl

theorem Session.offerResponse_tracker (session : Session H β) (messageId channel code : UInt8)
    (message : Message) :
    (session.offerResponse messageId channel code message).2.tracker =
      (session.tracker.offer messageId channel message).2 := by
  rw [offerResponse]
  rcases session.tracker.offer_cases messageId channel message with
    ⟨_, hoffer⟩ | ⟨after, _, hoffer⟩
  · rw [hoffer]
    exact session.deliver_tracker ..
  · rw [hoffer]

/-- Routing offers a message to the waiters, or leaves them alone. -/
theorem Session.route_tracker (session : Session H β) (message : Message) :
    (session.route message).2.tracker =
      match message.offered? with
      | some (messageId, channel) => (session.tracker.offer messageId channel message).2
      | none => session.tracker := by
  rw [route, Message.offered?]
  cases message.route? with
  | none => rfl
  | some route =>
      cases route with
      | response | other => exact session.offerResponse_tracker ..
      | channelEvent | data => exact Session.deliver_tracker ..

/-- The response handler is called with a message's own identifier. -/
theorem Session.route_of_offered {session : Session H β} {message : Message}
    {messageId channel : UInt8} (hoffered : message.offered? = some (messageId, channel)) :
    session.route message = session.offerResponse messageId channel message.id message := by
  obtain ⟨hpayload, hchannel, ⟨hid, hresponse, hcommand⟩ | ⟨hid, hne, hdata⟩⟩ :=
    Message.offered?_eq_some_iff.mp hoffered
  · have hevent : message.byteAt 1 ≠ 1 := hresponse ▸ hcommand
    have hroute := Message.route?_of_channelEvent hpayload hid
    rw [if_neg hevent, hresponse] at hroute
    rw [route, hroute, hid]
    exact hchannel ▸ rfl
  · have hroute := Message.route?_of_other hpayload (hid ▸ hne) hdata
    rw [route, hroute, ← hid]
    exact hchannel ▸ rfl

/-- What routing can do to the waiters: one that was empty and accepts the message takes it. -/
theorem Session.route_tracker_cases (session : Session H β) (message : Message) :
    (session.route message).2.tracker = session.tracker ∨
      ∃ messageId channel waiter, message.offered? = some (messageId, channel) ∧
        session.tracker.Replaces messageId waiter (some message)
          (session.route message).2.tracker ∧
        (waiter.channel = none ∨ waiter.channel = some channel) := by
  rw [route_tracker]
  cases hoffered : message.offered? with
  | none => exact .inl rfl
  | some offered =>
      obtain ⟨messageId, channel⟩ := offered
      rcases session.tracker.offer_cases messageId channel message with
        ⟨_, hoffer⟩ | ⟨after, htakes, hoffer⟩
      · exact .inl (congrArg Prod.snd hoffer)
      · obtain ⟨waiter, hreplaces, _, hchannel⟩ := Tracker.replaces_of_takes htakes
        have hafter : (session.tracker.offer messageId channel message).2 = after :=
          congrArg Prod.snd hoffer
        rw [← hafter] at hreplaces
        exact .inr ⟨messageId, channel, waiter, rfl, hreplaces, hchannel⟩

theorem Session.tracker_closed_route (session : Session H β) (message : Message) :
    (session.route message).2.tracker.closed = session.tracker.closed := by
  rcases session.route_tracker_cases message with hsame | ⟨_, _, _, _, hreplaces, _⟩
  · rw [hsame]
  · exact hreplaces.closed

end Route

/-! ## Waiters of one ticket -/

namespace Tracker

variable {before after : Tracker} {hears : Expectation → Message → Prop}
  {entry : Ticket × Expectation} {messageId : UInt8} {channel : Option UInt8}

/-- Every waiter that carries an entry's ticket is for what the entry expects and holds only what
it may. -/
structure Serves (tracker : Tracker) (hears : Expectation → Message → Prop)
    (entry : Ticket × Expectation) : Prop where
  messageId : entry.1.messageId = entry.2.messageId
  waiters : ∀ waiter ∈ tracker.waitersFor entry.1.messageId, waiter.token = entry.1.token →
    waiter.channel = entry.2.channel ∧ ∀ message ∈ waiter.response, hears entry.2 message

theorem Serves.mono {hearsMore : Expectation → Message → Prop}
    (hserves : before.Serves hears entry)
    (hmore : ∀ message, hears entry.2 message → hearsMore entry.2 message) :
    before.Serves hearsMore entry where
  messageId := hserves.messageId
  waiters waiter hwaiter htoken :=
    (hserves.waiters waiter hwaiter htoken).imp_right fun hheard message hmessage =>
      hmore message (hheard message hmessage)

theorem Serves.of_waitersFor (hserves : before.Serves hears entry)
    (hsame : ∀ waiter ∈ after.waitersFor entry.1.messageId, waiter.token = entry.1.token →
      waiter ∈ before.waitersFor entry.1.messageId) : after.Serves hears entry where
  messageId := hserves.messageId
  waiters waiter hwaiter htoken := hserves.waiters waiter (hsame waiter hwaiter htoken) htoken

theorem Serves.replaces {waiter : Waiter} {response : Option Message}
    (hserves : before.Serves hears entry)
    (hreplaces : before.Replaces messageId waiter response after)
    (hheard : ∀ message ∈ response, entry.1.messageId = messageId →
      waiter.channel = entry.2.channel → hears entry.2 message) : after.Serves hears entry where
  messageId := hserves.messageId
  waiters other hother htoken := by
    rcases hreplaces.mem hother with hbefore | ⟨hid, rfl⟩
    · exact hserves.waiters other hbefore htoken
    · have hwaiter : waiter ∈ before.waitersFor entry.1.messageId := by
        rw [hid]
        exact hreplaces.mem_self
      have hchannel := (hserves.waiters waiter hwaiter htoken).1
      exact ⟨hchannel, fun message hmessage => hheard message hmessage hid hchannel⟩

/-- No waiter and no entry carries the ticket of the next registration. -/
structure Fresh (tracker : Tracker) (messageId : UInt8) (held : List (Ticket × Expectation)) :
    Prop where
  waiters : ∀ waiter ∈ tracker.waitersFor messageId, waiter.token ≠ tracker.nextToken
  held : ∀ entry ∈ held, entry.1 ≠ ⟨messageId, tracker.nextToken⟩

theorem Serves.register (hserves : before.Serves hears entry)
    (hfresh : entry.1 ≠ ⟨messageId, before.nextToken⟩) :
    (before.register messageId channel).2.Serves hears entry := by
  refine hserves.of_waitersFor fun waiter hwaiter htoken => ?_
  rcases mem_register hwaiter with hbefore | ⟨hid, rfl⟩
  · exact hbefore
  · refine absurd ?_ hfresh
    obtain ⟨⟨id, token⟩, expectation⟩ := entry
    cases hid
    cases htoken
    rfl

theorem serves_registered
    (hfresh : ∀ waiter ∈ before.waitersFor messageId, waiter.token ≠ before.nextToken) :
    (before.register messageId channel).2.Serves hears
      ((before.register messageId channel).1, ⟨messageId, channel⟩) where
  messageId := rfl
  waiters waiter hwaiter htoken := by
    rcases mem_register hwaiter with hbefore | ⟨_, rfl⟩
    · exact absurd htoken (hfresh waiter hbefore)
    · exact ⟨rfl, nofun⟩

end Tracker

/-! ## One call's part in the tracker -/

variable {hears : Expectation → Message → Prop} {call : Call} {before after : Tracker}
  {stage : AskStage} {op : Op} {reply : op.Reply}

/-- Only a registration adds to what a call holds. -/
theorem AskStage.mem_held_next {entry : Ticket × Expectation}
    (htracks : op.Tracks reply before after) (hentry : entry ∈ (stage.next op reply).held) :
    entry ∈ stage.held ∨ ∃ messageId channel, op = .register messageId channel ∧
      entry.1 = ⟨messageId, before.nextToken⟩ := by
  cases op with
  | register messageId channel =>
      refine (List.mem_append.mp hentry).imp_right fun hnew => ⟨messageId, channel, rfl, ?_⟩
      rw [List.mem_singleton.mp hnew]
      exact (congrArg Prod.fst htracks).symm
  | unregister => exact .inl ((List.dropLast_prefix stage.held).subset hentry)
  | awaitResponse => cases reply <;> exact .inl hentry
  | _ => exact .inl hentry

theorem AskStage.expects_next (hallows : stage.Allows call op)
    (hexpects : stage.held.map Prod.snd <+: call.expects) (reply : op.Reply) :
    (stage.next op reply).held.map Prod.snd <+: call.expects := by
  cases op with
  | register messageId channel =>
      change (stage.held ++ [_]).map Prod.snd <+: _
      rw [List.map_append]
      exact hallows.2
  | unregister => exact ((List.dropLast_prefix stage.held).map Prod.snd).trans hexpects
  | awaitResponse => cases reply <;> exact hexpects
  | _ => exact hexpects

/-- What a call holds is served, and every message it took met what it was waiting for then, which
was because the messages before left it undecided. -/
structure Attends (hears : Expectation → Message → Prop) (call : Call) (tracker : Tracker)
    (stage : AskStage) : Prop where
  expects : stage.held.map Prod.snd <+: call.expects
  serves : ∀ entry ∈ stage.held, tracker.Serves hears entry
  taken : ∀ index message, stage.taken[index]? = some message →
    ∃ expectation ∈ call.expects.take (call.expects.length - index), hears expectation message
  undecided : ∀ index < stage.taken.length, call.verdict? (stage.taken.take index) = none

namespace Attends

theorem fresh (call : Call) (tracker : Tracker) : Attends hears call tracker {} where
  expects := List.nil_prefix
  serves _ hentry := nomatch hentry
  taken _ _ htaken := nomatch htaken
  undecided _ hlt := nomatch hlt

theorem mono {hearsMore : Expectation → Message → Prop}
    (hattends : Attends hears call before stage)
    (hmore : ∀ expectation message, hears expectation message →
      hearsMore expectation message) : Attends hearsMore call before stage where
  expects := hattends.expects
  serves entry hentry := (hattends.serves entry hentry).mono (hmore entry.2)
  taken index message htaken := by
    obtain ⟨expectation, hmem, hheard⟩ := hattends.taken index message htaken
    exact ⟨expectation, hmem, hmore expectation message hheard⟩
  undecided := hattends.undecided

theorem of_serves (hattends : Attends hears call before stage)
    (hserves : ∀ entry ∈ stage.held, before.Serves hears entry → after.Serves hears entry) :
    Attends hears call after stage where
  expects := hattends.expects
  serves entry hentry := hserves entry hentry (hattends.serves entry hentry)
  taken := hattends.taken
  undecided := hattends.undecided

/-- A message that a wait finds was given to what the call holds. -/
theorem heard_of_take (hattends : Attends hears call before stage) {ticket : Ticket}
    {message : Message} (hticket : ticket ∈ stage.held.map Prod.fst)
    (htake : before.take ticket = some (message, after)) :
    ∃ expectation ∈ stage.held.map Prod.snd, hears expectation message := by
  obtain ⟨entry, hentry, rfl⟩ := List.mem_map.mp hticket
  obtain ⟨waiter, hreplaces, htoken, hresponse⟩ := Tracker.take_eq_some htake
  have hserved := (hattends.serves entry hentry).waiters waiter hreplaces.mem_self htoken
  exact ⟨entry.2, List.mem_map_of_mem hentry, hserved.2 message hresponse⟩

/-- What others do with the tracker takes nothing from a call. -/
theorem other (hattends : Attends hears call before stage)
    (htracks : op.Tracks reply before after)
    (hfresh : ∀ messageId channel, op = .register messageId channel →
      before.Fresh messageId stage.held) : Attends hears call after stage := by
  refine hattends.of_serves fun entry hentry hserves => ?_
  cases op with
  | register messageId channel =>
      cases congrArg Prod.snd htracks
      exact hserves.register ((hfresh messageId channel rfl).held entry hentry)
  | unregister ticket =>
      cases htracks
      exact hserves.of_waitersFor fun waiter hwaiter _ => (Tracker.mem_unregister.mp hwaiter).1
  | awaitResponse first second policy deadline =>
      cases reply with
      | error error =>
          cases htracks
          exact hserves
      | ok message =>
          obtain ⟨ticket, _, htake⟩ := htracks
          obtain ⟨waiter, hreplaces, _⟩ := Tracker.take_eq_some htake
          exact hserves.replaces hreplaces nofun
  | _ =>
      cases htracks
      exact hserves

theorem awaited (hattends : Attends hears call after stage) {message : Message}
    (hcount : stage.held.length + stage.taken.length = call.expects.length)
    (hverdict : call.verdict? stage.taken = none)
    (hheard : ∃ expectation ∈ stage.held.map Prod.snd, hears expectation message) :
    Attends hears call after { stage with taken := stage.taken ++ [message] } where
  expects := hattends.expects
  serves := hattends.serves
  taken index other htaken := by
    rcases Nat.lt_or_ge index stage.taken.length with hlt | hge
    · rw [List.getElem?_append_left hlt] at htaken
      exact hattends.taken index other htaken
    · rw [List.getElem?_append_right hge, List.getElem?_singleton] at htaken
      split at htaken
      next hzero =>
        cases htaken
        have hindex : call.expects.length - index = (stage.held.map Prod.snd).length := by
          rw [List.length_map]
          omega
        rw [hindex, ← List.prefix_iff_eq_take.mp hattends.expects]
        exact hheard
      next => cases htaken
  undecided index hlt := by
    rw [List.length_append] at hlt
    rw [List.take_append_of_le_length (Nat.le_of_lt_succ hlt)]
    rcases Nat.lt_or_ge index stage.taken.length with hearlier | hlast
    · exact hattends.undecided index hearlier
    · rwa [List.take_of_length_le hlast]

/-- What a call does itself keeps its part in order. -/
theorem own (hattends : Attends hears call before stage) (hallows : stage.Allows call op)
    (htracks : op.Tracks reply before after)
    (hfresh : ∀ messageId channel, op = .register messageId channel →
      before.Fresh messageId stage.held) :
    Attends hears call after (stage.next op reply) := by
  have hafter := hattends.other htracks hfresh
  have hexpects := AskStage.expects_next hallows hattends.expects reply
  cases op with
  | register messageId channel =>
      have hticket := congrArg Prod.fst htracks
      have htracker := congrArg Prod.snd htracks
      cases hticket
      cases htracker
      refine ⟨hexpects, fun entry hentry => ?_, hafter.taken, hafter.undecided⟩
      rcases List.mem_append.mp hentry with hold | hnew
      · exact hafter.serves entry hold
      · rw [List.mem_singleton.mp hnew]
        exact Tracker.serves_registered (hfresh messageId channel rfl).waiters
  | unregister ticket =>
      have hsubset := (List.dropLast_prefix stage.held).subset
      exact ⟨hexpects, fun entry hentry => hafter.serves entry (hsubset hentry), hafter.taken,
        hafter.undecided⟩
  | awaitResponse first second policy deadline =>
      cases reply with
      | error error => exact ⟨hexpects, hafter.serves, hafter.taken, hafter.undecided⟩
      | ok message =>
          -- A wait names all the tickets that are held, so what it takes was given to one of them.
          obtain ⟨hheld, hcount, hverdict, _⟩ := hallows
          obtain ⟨ticket, hticket, htake⟩ := htracks
          refine hafter.awaited hcount hverdict (hattends.heard_of_take ?_ htake)
          rw [hheld, List.mem_cons, Option.mem_toList]
          exact hticket
  | _ => exact ⟨hexpects, hafter.serves, hafter.taken, hafter.undecided⟩

end Attends

end AntHost
