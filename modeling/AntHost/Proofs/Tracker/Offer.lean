import AntHost.Tracker
/-!
# Offering responses

An offer gives a message to the oldest waiter that accepts it, or leaves every waiter as it is.
-/

namespace AntHost

theorem Waiter.accepts_iff {waiter : Waiter} {channel : UInt8} :
    waiter.accepts channel = true ↔
      waiter.response = none ∧ (waiter.channel = none ∨ waiter.channel = some channel) := by
  cases hchannel : waiter.channel <;> simp [accepts, hchannel, Option.isNone_iff_eq_none]

theorem answerFirst_eq_none_iff {channel : UInt8} {message : Message} {waiters : List Waiter} :
    answerFirst channel message waiters = none ↔
      ∀ waiter ∈ waiters, waiter.accepts channel = false := by
  induction waiters with
  | nil => simp [answerFirst]
  | cons waiter rest ih =>
      rw [answerFirst, List.forall_mem_cons]
      split
      next haccepts => simp [haccepts]
      next haccepts => simp [haccepts, ih]

theorem answerFirst_eq_some {channel : UInt8} {message : Message}
    {waiters answered : List Waiter}
    (hanswer : answerFirst channel message waiters = some answered) :
    ∃ earlier waiter later, waiters = earlier ++ waiter :: later ∧
      (∀ other ∈ earlier, other.accepts channel = false) ∧ waiter.accepts channel = true ∧
      answered = earlier ++ { waiter with response := some message } :: later := by
  induction waiters generalizing answered with
  | nil => cases hanswer
  | cons first rest ih =>
      rw [answerFirst] at hanswer
      split at hanswer
      next haccepts =>
        cases hanswer
        exact ⟨[], first, rest, rfl, by simp, haccepts, rfl⟩
      next haccepts =>
        obtain ⟨tail, htail, rfl⟩ := Option.map_eq_some_iff.mp hanswer
        obtain ⟨earlier, waiter, later, rfl, hearlier, hwaiter, rfl⟩ := ih htail
        refine ⟨first :: earlier, waiter, later, rfl, ?_, hwaiter, rfl⟩
        rw [List.forall_mem_cons]
        exact ⟨Bool.not_eq_true _ ▸ haccepts, hearlier⟩

namespace Tracker

theorem waitersFor_setWaiters (tracker : Tracker) (messageId other : UInt8)
    (waiters : List Waiter) :
    (tracker.setWaiters messageId waiters).waitersFor other =
      if other = messageId then waiters else tracker.waitersFor other := by
  unfold setWaiters waitersFor
  rw [KeyedList.get?_set]
  split <;> rfl

/-- The tracker is open and the oldest waiter that accepts the channel takes the message. Every
other waiter of every identifier stays as it is. -/
def Takes (before : Tracker) (messageId channel : UInt8) (message : Message) (after : Tracker) :
    Prop :=
  before.closed = false ∧ ∃ earlier waiter later,
    before.waitersFor messageId = earlier ++ waiter :: later ∧
      (∀ other ∈ earlier, other.accepts channel = false) ∧
      waiter.response = none ∧ (waiter.channel = none ∨ waiter.channel = some channel) ∧
      after.waitersFor messageId = earlier ++ { waiter with response := some message } :: later ∧
      (∀ other, other ≠ messageId → after.waitersFor other = before.waitersFor other) ∧
      after.nextToken = before.nextToken ∧ after.closed = before.closed

/-- No waiter may take a message. -/
def Refuses (tracker : Tracker) (messageId channel : UInt8) : Prop :=
  tracker.closed = true ∨
    ∀ waiter ∈ tracker.waitersFor messageId, waiter.accepts channel = false

/-- Everything an offer can do. -/
theorem offer_cases (tracker : Tracker) (messageId channel : UInt8) (message : Message) :
    (tracker.Refuses messageId channel ∧
        tracker.offer messageId channel message = (false, tracker)) ∨
      ∃ after, tracker.Takes messageId channel message after ∧
        tracker.offer messageId channel message = (true, after) := by
  cases hclosed : tracker.closed with
  | true => exact .inl ⟨.inl hclosed, by simp [offer, hclosed]⟩
  | false =>
      cases hanswer : answerFirst channel message (tracker.waitersFor messageId) with
      | none =>
          refine .inl ⟨.inr (answerFirst_eq_none_iff.mp hanswer), ?_⟩
          simp [offer, hclosed, hanswer]
      | some answered =>
          obtain ⟨earlier, waiter, later, hwaiters, hearlier, haccepts, rfl⟩ :=
            answerFirst_eq_some hanswer
          obtain ⟨hresponse, hchannel⟩ := Waiter.accepts_iff.mp haccepts
          have hoffer : tracker.offer messageId channel message =
              (true, tracker.setWaiters messageId
                (earlier ++ { waiter with response := some message } :: later)) := by
            simp [offer, hclosed, hanswer]
          refine .inr ⟨_, ⟨hclosed, ?_⟩, hoffer⟩
          refine ⟨earlier, waiter, later, hwaiters, hearlier, hresponse, hchannel,
            ?_, ?_, rfl, rfl⟩
          · rw [waitersFor_setWaiters, if_pos rfl]
          · intro other hother
            rw [waitersFor_setWaiters, if_neg hother]

end Tracker

end AntHost
