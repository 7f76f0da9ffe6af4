import AntHost.Proofs.Tracker.Offer
import AntHost.Session.State
/-!
# What operations do to the waiters

A registration adds one waiter, an offer or a look replaces the response of one, and giving up a
ticket removes what carries it. Every other operation of a call leaves the tracker alone.
-/

namespace AntHost

/-- Takes a response from the first waiter that carries the token. -/
theorem takeFirst_eq_some {token : UInt64} {message : Message} {waiters rest : List Waiter}
    (htake : takeFirst token waiters = some (message, rest)) :
    ∃ earlier waiter later, waiters = earlier ++ waiter :: later ∧ waiter.token = token ∧
      waiter.response = some message ∧
      rest = earlier ++ { waiter with response := none } :: later := by
  induction waiters generalizing rest with
  | nil => cases htake
  | cons first others ih =>
      rw [takeFirst] at htake
      split at htake
      next htoken =>
        obtain ⟨own, hown, heq⟩ := Option.map_eq_some_iff.mp htake
        cases heq
        exact ⟨[], first, others, rfl, htoken, hown, rfl⟩
      next =>
        obtain ⟨⟨own, tail⟩, htail, heq⟩ := Option.map_eq_some_iff.mp htake
        cases heq
        obtain ⟨earlier, waiter, later, rfl, htoken, hresponse, rfl⟩ := ih htail
        exact ⟨first :: earlier, waiter, later, rfl, htoken, hresponse, rfl⟩

namespace Tracker

variable {before after : Tracker} {messageId other channel : UInt8} {scope : Option UInt8}
  {message : Message} {ticket : Ticket} {waiter : Waiter} {response : Option Message}

/-! ## Registering and giving up -/

theorem waitersFor_register :
    (before.register messageId scope).2.waitersFor other =
      if other = messageId then
        before.waitersFor messageId ++ [{ token := before.nextToken, channel := scope }]
      else before.waitersFor other :=
  waitersFor_setWaiters before messageId other _

theorem mem_register (hwaiter : waiter ∈ (before.register messageId scope).2.waitersFor other) :
    waiter ∈ before.waitersFor other ∨
      other = messageId ∧ waiter = { token := before.nextToken, channel := scope } := by
  rw [waitersFor_register] at hwaiter
  split at hwaiter
  next heq =>
    subst heq
    exact (List.mem_append.mp hwaiter).imp_right fun hnew => ⟨rfl, List.mem_singleton.mp hnew⟩
  next => exact .inl hwaiter

theorem waitersFor_unregister_of_ne (hne : other ≠ ticket.messageId) :
    (before.unregister ticket).waitersFor other = before.waitersFor other := by
  rw [unregister, waitersFor_setWaiters, if_neg hne]

/-- What carries the ticket is gone. -/
theorem mem_unregister :
    waiter ∈ (before.unregister ticket).waitersFor other ↔
      waiter ∈ before.waitersFor other ∧ ⟨other, waiter.token⟩ ≠ ticket := by
  by_cases hother : other = ticket.messageId
  · subst hother
    rw [unregister, waitersFor_setWaiters, if_pos rfl, List.mem_filter]
    obtain ⟨messageId, token⟩ := ticket
    simp
  · rw [waitersFor_unregister_of_ne hother, iff_self_and]
    rintro _ rfl
    exact hother rfl

/-- Nothing waits that did not wait before. -/
structure Thins (before after : Tracker) : Prop where
  nextToken : after.nextToken = before.nextToken
  waiters : ∀ messageId, ∀ waiter ∈ after.waitersFor messageId,
    ∃ old ∈ before.waitersFor messageId, old.token = waiter.token

theorem Thins.refl (tracker : Tracker) : tracker.Thins tracker :=
  ⟨rfl, fun _ waiter hwaiter => ⟨waiter, hwaiter, rfl⟩⟩

theorem thins_unregister : before.Thins (before.unregister ticket) :=
  ⟨rfl, fun _ waiter hwaiter => ⟨waiter, (mem_unregister.mp hwaiter).1, rfl⟩⟩

/-! ## Replacing a response -/

/-- The response of one waiter is replaced, and nothing else changes. -/
structure Replaces (before : Tracker) (messageId : UInt8) (waiter : Waiter)
    (response : Option Message) (after : Tracker) : Prop where
  split : ∃ earlier later, before.waitersFor messageId = earlier ++ waiter :: later ∧
    after.waitersFor messageId = earlier ++ { waiter with response } :: later
  other : ∀ other, other ≠ messageId → after.waitersFor other = before.waitersFor other
  nextToken : after.nextToken = before.nextToken
  closed : after.closed = before.closed

namespace Replaces

variable {sole : Waiter}

theorem mem_self (hreplaces : before.Replaces messageId waiter response after) :
    waiter ∈ before.waitersFor messageId := by
  obtain ⟨earlier, later, hbefore, _⟩ := hreplaces.split
  rw [hbefore]
  exact List.mem_append_right _ List.mem_cons_self

theorem mem (hreplaces : before.Replaces messageId waiter response after)
    (hsole : sole ∈ after.waitersFor other) :
    sole ∈ before.waitersFor other ∨ other = messageId ∧ sole = { waiter with response } := by
  by_cases hother : other = messageId
  · subst hother
    obtain ⟨earlier, later, hbefore, hafter⟩ := hreplaces.split
    rw [hafter, List.mem_append, List.mem_cons] at hsole
    rw [hbefore, List.mem_append, List.mem_cons]
    rcases hsole with hearlier | rfl | hlater
    · exact .inl (.inl hearlier)
    · exact .inr ⟨rfl, rfl⟩
    · exact .inl (.inr (.inr hlater))
  · rw [hreplaces.other other hother] at hsole
    exact .inl hsole

theorem thins (hreplaces : before.Replaces messageId waiter response after) :
    before.Thins after where
  nextToken := hreplaces.nextToken
  waiters other sole hsole := by
    rcases hreplaces.mem hsole with hbefore | ⟨rfl, rfl⟩
    · exact ⟨sole, hbefore, rfl⟩
    · exact ⟨waiter, hreplaces.mem_self, rfl⟩

/-- Where one waiter stands alone, it is the one, or it stays. -/
theorem of_sole (hreplaces : before.Replaces messageId waiter response after)
    (hsole : before.waitersFor other = [sole]) :
    other ≠ messageId ∧ after.waitersFor other = [sole] ∨
      other = messageId ∧ sole = waiter ∧ after.waitersFor other = [{ waiter with response }] := by
  by_cases hother : other = messageId
  · subst hother
    obtain ⟨earlier, later, hbefore, hafter⟩ := hreplaces.split
    rw [hsole] at hbefore
    obtain ⟨rfl, heq⟩ : earlier = [] ∧ sole :: [] = waiter :: later := by
      cases earlier with
      | nil => exact ⟨rfl, hbefore⟩
      | cons head tail => simp at hbefore
    cases heq
    exact .inr ⟨rfl, rfl, hafter⟩
  · exact .inl ⟨hother, (hreplaces.other other hother).trans hsole⟩

end Replaces

theorem replaces_of_takes (htakes : before.Takes messageId channel message after) :
    ∃ waiter, before.Replaces messageId waiter (some message) after ∧ waiter.response = none ∧
      (waiter.channel = none ∨ waiter.channel = some channel) := by
  obtain ⟨_, earlier, waiter, later, hbefore, _, hresponse, hchannel, hafter, hother, htoken,
    hclosed⟩ := htakes
  exact ⟨waiter, ⟨⟨earlier, later, hbefore, hafter⟩, hother, htoken, hclosed⟩, hresponse, hchannel⟩

theorem take_eq_some (htake : before.take ticket = some (message, after)) :
    ∃ waiter, before.Replaces ticket.messageId waiter none after ∧ waiter.token = ticket.token ∧
      waiter.response = some message := by
  obtain ⟨⟨own, waiters⟩, hfirst, heq⟩ := Option.map_eq_some_iff.mp htake
  cases heq
  obtain ⟨earlier, waiter, later, hbefore, htoken, hresponse, rfl⟩ := takeFirst_eq_some hfirst
  refine ⟨waiter, ⟨⟨earlier, later, hbefore, ?_⟩, fun other hother => ?_, rfl, rfl⟩, htoken,
    hresponse⟩
  · rw [waitersFor_setWaiters, if_pos rfl]
  · rw [waitersFor_setWaiters, if_neg hother]

/-- A ticket whose waiter stands alone finds just that waiter's response. -/
theorem take_of_sole (hsole : before.waitersFor ticket.messageId = [waiter])
    (htoken : waiter.token = ticket.token) :
    (before.take ticket).map Prod.fst = waiter.response := by
  rw [take, hsole, takeFirst, if_pos htoken]
  cases waiter.response <;> rfl

/-! ## Waiting -/

/-- What a wait finds, it took for one of its tickets; if it finds none, nothing has changed. -/
theorem lookFor_cases (before : Tracker) (first : Ticket) (second : Option Ticket) :
    (∃ ticket message, (ticket = first ∨ ticket ∈ second) ∧
        before.take ticket = some (message, (before.lookFor first second).2) ∧
        (before.lookFor first second).1 = some (.ok message)) ∨
      before.take first = none ∧ (∀ ticket ∈ second, before.take ticket = none) ∧
        before.lookFor first second =
          (if before.closed then some (.error .closed) else none, before) := by
  have hlook : ∀ ticket : Ticket, (∃ message, before.take ticket =
        some (message, (before.look ticket).2) ∧ (before.look ticket).1 = some (.ok message)) ∨
      before.take ticket = none ∧ before.look ticket =
        (if before.closed then some (.error .closed) else none, before) := by
    intro ticket
    cases htake : before.take ticket with
    | some found => exact .inl ⟨found.1, by simp [look, htake]⟩
    | none => exact .inr ⟨rfl, by simp [look, htake]⟩
  cases second with
  | none =>
      rcases hlook first with ⟨message, htake, hfound⟩ | ⟨hnone, hfound⟩
      · exact .inl ⟨first, message, .inl rfl, htake, hfound⟩
      · exact .inr ⟨hnone, nofun, hfound⟩
  | some second =>
      cases htake : before.take first with
      | some found =>
          refine .inl ⟨first, found.1, .inl rfl, ?_, ?_⟩
          · simp [lookFor, lookEither, htake]
          · simp [lookFor, lookEither, htake]
      | none =>
          have hsecond : before.lookFor first (some second) = before.look second := by
            rw [lookFor, lookEither, htake]
          rw [hsecond]
          rcases hlook second with ⟨message, hother, hfound⟩ | ⟨hnone, hfound⟩
          · exact .inl ⟨second, message, .inr rfl, hother, hfound⟩
          · refine .inr ⟨rfl, ?_, hfound⟩
            rintro _ ⟨⟩
            exact hnone

end Tracker

/-! ## Operations of calls -/

/-- What an operation makes of the tracker. -/
def Op.Tracks : (op : Op) → op.Reply → Tracker → Tracker → Prop
  | register messageId channel, ticket, before, after =>
      before.register messageId channel = (ticket, after)
  | unregister ticket, _, before, after => after = before.unregister ticket
  | awaitResponse first second _ _, .ok message, before, after =>
      ∃ ticket, (ticket = first ∨ ticket ∈ second) ∧ before.take ticket = some (message, after)
  | _, _, before, after => after = before

/-- A wait answers a message only if it found it, and else leaves the tracker alone. -/
theorem Tracker.tracks_of_check {tracker : Tracker} {first : Ticket} {second : Option Ticket}
    {policy : WaitPolicy} {deadline : Option Nat} {raised : Bool} {now : Nat}
    {result : Except WaitError Message}
    (hcheck : policy.check raised deadline now (tracker.lookFor first second).1 = some result) :
    (Op.awaitResponse first second policy deadline).Tracks result tracker
      (tracker.lookFor first second).2 := by
  rcases tracker.lookFor_cases first second with
    ⟨ticket, message, hticket, htake, hfound⟩ | ⟨_, _, hlook⟩
  · rw [hfound] at hcheck
    cases hcheck
    exact ⟨ticket, hticket, htake⟩
  · rw [hlook] at hcheck ⊢
    cases result with
    | error error => rfl
    | ok message =>
        cases hclosed : tracker.closed with
        | true =>
            rw [hclosed] at hcheck
            cases hcheck
        | false =>
            rw [hclosed] at hcheck
            obtain ⟨_, _, herror⟩ := Option.map_eq_some_iff.mp hcheck
            cases herror

variable {H β : Type}

theorem Op.exec_tracker {op : Op} {reply : op.Reply} {session next : Session H β} {now : Nat}
    {written : Except TransportError Unit}
    (hexec : op.exec now written session = some (reply, next)) :
    op.Tracks reply session.tracker next.tracker := by
  cases op with
  | register messageId channel =>
      cases hexec
      rfl
  | awaitResponse first second policy deadline =>
      obtain ⟨result, hcheck, heq⟩ := Option.map_eq_some_iff.mp hexec
      cases heq
      exact Tracker.tracks_of_check hcheck
  | beginTransfer | awaitOutcome =>
      obtain ⟨result, _, heq⟩ := Option.map_eq_some_iff.mp hexec
      cases heq
      rfl
  | awaitStopped | joinRouter =>
      rw [exec] at hexec
      split at hexec
      next =>
        cases hexec
        rfl
      next => cases hexec
  | _ =>
      cases hexec
      rfl

theorem Op.Tracks.closed {op : Op} {reply : op.Reply} {before after : Tracker}
    (htracks : op.Tracks reply before after) : after.closed = before.closed := by
  cases op with
  | awaitResponse first second policy deadline =>
      cases reply with
      | error error => exact congrArg Tracker.closed htracks
      | ok message =>
          obtain ⟨ticket, _, htake⟩ := htracks
          obtain ⟨waiter, hreplaces, _⟩ := Tracker.take_eq_some htake
          exact hreplaces.closed
  | register | unregister =>
      cases htracks
      rfl
  | _ => exact congrArg Tracker.closed htracks

/-- Only a registration adds a waiter. -/
theorem Op.Tracks.thins {op : Op} {reply : op.Reply} {before after : Tracker}
    (htracks : op.Tracks reply before after)
    (hop : ∀ messageId channel, op ≠ .register messageId channel) : before.Thins after := by
  cases op with
  | register messageId channel => exact absurd rfl (hop messageId channel)
  | unregister ticket =>
      cases htracks
      exact Tracker.thins_unregister
  | awaitResponse first second policy deadline =>
      cases reply with
      | error error =>
          cases htracks
          exact .refl _
      | ok message =>
          obtain ⟨ticket, _, htake⟩ := htracks
          obtain ⟨waiter, hreplaces, _⟩ := Tracker.take_eq_some htake
          exact hreplaces.thins
  | _ =>
      cases htracks
      exact .refl _

end AntHost
