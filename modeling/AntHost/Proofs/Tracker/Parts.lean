import AntHost.Proofs.Tracker.Waiters
/-!
# Trackers without some tickets

Leaving out the waiters of some tickets gives a smaller tracker. What is done for other tickets can
be done to the smaller tracker as well, with the same answers, and what is done for the tickets left
out does not show there at all.
-/

namespace AntHost

section Lists

variable {keep : UInt64 → Bool} {channel : UInt8} {message : Message} {waiters : List Waiter}

theorem takeFirst_filter {token : UInt64} (hkept : keep token = true) (waiters : List Waiter) :
    takeFirst token (waiters.filter fun waiter => keep waiter.token) =
      (takeFirst token waiters).map fun (message, rest) =>
        (message, rest.filter fun waiter => keep waiter.token) := by
  induction waiters with
  | nil => rfl
  | cons waiter rest ih =>
      by_cases htoken : waiter.token = token
      · cases hresponse : waiter.response <;> simp [takeFirst, htoken, hresponse, hkept]
      · cases hkeep : keep waiter.token <;> simp [takeFirst, htoken, hkeep, ih, Function.comp_def]

theorem find?_filter_of_kept
    (hkept : ∀ waiter ∈ waiters.find? fun waiter => waiter.accepts channel,
      keep waiter.token = true) :
    (waiters.filter fun waiter => keep waiter.token).find? (fun waiter => waiter.accepts channel) =
      waiters.find? fun waiter => waiter.accepts channel := by
  induction waiters with
  | nil => rfl
  | cons waiter rest ih =>
      cases haccepts : waiter.accepts channel with
      | true => simp [hkept waiter (by simp [haccepts]), haccepts]
      | false =>
          have hrest := ih (by simpa [List.find?_cons, haccepts] using hkept)
          cases hkeep : keep waiter.token <;> simp [hkeep, haccepts, hrest]

/-- A message for a waiter that is kept is given to it among those that are kept. -/
theorem answerFirst_filter_of_kept
    (hkept : ∀ waiter ∈ waiters.find? fun waiter => waiter.accepts channel,
      keep waiter.token = true) :
    answerFirst channel message (waiters.filter fun waiter => keep waiter.token) =
      (answerFirst channel message waiters).map fun rest =>
        rest.filter fun waiter => keep waiter.token := by
  induction waiters with
  | nil => rfl
  | cons waiter rest ih =>
      cases haccepts : waiter.accepts channel with
      | true => simp [answerFirst, hkept waiter (by simp [haccepts]), haccepts]
      | false =>
          have hrest := ih (by simpa [List.find?_cons, haccepts] using hkept)
          cases hkeep : keep waiter.token <;>
            simp [answerFirst, hkeep, haccepts, hrest, Function.comp_def]

/-- A message for a waiter that is left out changes none of those that are kept. -/
theorem filter_answerFirst_of_dropped {rest : List Waiter}
    (hdropped : ∀ waiter ∈ waiters.find? fun waiter => waiter.accepts channel,
      keep waiter.token = false)
    (hanswer : answerFirst channel message waiters = some rest) :
    (rest.filter fun waiter => keep waiter.token) =
      waiters.filter fun waiter => keep waiter.token := by
  induction waiters generalizing rest with
  | nil => cases hanswer
  | cons waiter others ih =>
      cases haccepts : waiter.accepts channel with
      | true =>
          simp only [answerFirst, haccepts, if_true, Option.some.injEq] at hanswer
          subst rest
          simp [hdropped waiter (by simp [haccepts])]
      | false =>
          simp only [answerFirst, haccepts, Bool.false_eq_true, if_false] at hanswer
          obtain ⟨tail, htail, rfl⟩ := Option.map_eq_some_iff.mp hanswer
          have hrest := ih (by simpa [List.find?_cons, haccepts] using hdropped) htail
          cases hkeep : keep waiter.token <;> simp [hkeep, hrest]

end Lists

namespace Tracker

variable {tickets : List Ticket} {whole part : Tracker} {ticket first : Ticket}
  {second : Option Ticket} {messageId channel : UInt8} {scope : Option UInt8} {message : Message}

/-- The ticket of the waiter that an offered message goes to. -/
def taker? (tracker : Tracker) (messageId channel : UInt8) : Option Ticket :=
  if tracker.closed then none
  else
    ((tracker.waitersFor messageId).find? fun waiter => waiter.accepts channel).map fun waiter =>
      ⟨messageId, waiter.token⟩

theorem taker?_of_takes {tracker after : Tracker}
    (htakes : tracker.Takes messageId channel message after) :
    ∃ waiter ∈ tracker.waitersFor messageId,
      tracker.taker? messageId channel = some ⟨messageId, waiter.token⟩ := by
  obtain ⟨hopen, earlier, waiter, later, hwaiters, hearlier, hempty, hscope, _⟩ := htakes
  refine ⟨waiter, by simp [hwaiters], ?_⟩
  have haccepts : waiter.accepts channel = true := Waiter.accepts_iff.mpr ⟨hempty, hscope⟩
  have hnone : earlier.find? (fun waiter => waiter.accepts channel) = none := by
    simpa using hearlier
  simp [taker?, hopen, hwaiters, hnone, haccepts]

/-- Starts to expect a message under a ticket. -/
def enroll (tracker : Tracker) (ticket : Ticket) (channel : Option UInt8) : Tracker :=
  let waiters := tracker.waitersFor ticket.messageId ++ [{ token := ticket.token, channel }]
  { tracker.setWaiters ticket.messageId waiters with nextToken := ticket.token + 1 }

theorem waitersFor_enroll (tracker : Tracker) (ticket : Ticket) (scope : Option UInt8)
    (messageId : UInt8) :
    (tracker.enroll ticket scope).waitersFor messageId =
      if messageId = ticket.messageId then
        tracker.waitersFor messageId ++ [{ token := ticket.token, channel := scope }]
      else tracker.waitersFor messageId := by
  change (tracker.setWaiters _ _).waitersFor messageId = _
  rw [waitersFor_setWaiters]
  split
  next heq => rw [heq]
  next => rfl

/-- The waiters of one tracker are those of another one without some tickets. -/
structure Part (tickets : List Ticket) (whole part : Tracker) : Prop where
  waiters : ∀ messageId, part.waitersFor messageId =
    (whole.waitersFor messageId).filter fun waiter => ⟨messageId, waiter.token⟩ ∉ tickets
  closed : part.closed = whole.closed

namespace Part

theorem empty (tracker : Tracker) : Part [] tracker tracker := by
  refine ⟨?_, rfl⟩
  intro messageId
  symm
  apply List.filter_eq_self.mpr
  simp

/-! ## What the part does not see -/

/-- What happens to the waiters that are left out does not show. -/
theorem left_out {waiters : List Waiter} (hpart : Part tickets whole part)
    (hsame : (waiters.filter fun waiter => ⟨messageId, waiter.token⟩ ∉ tickets) =
      (whole.waitersFor messageId).filter fun waiter => ⟨messageId, waiter.token⟩ ∉ tickets) :
    Part tickets (whole.setWaiters messageId waiters) part := by
  refine ⟨?_, hpart.closed⟩
  intro other
  rw [waitersFor_setWaiters]
  split
  next heq =>
    subst heq
    rw [hsame]
    exact hpart.waiters _
  next => exact hpart.waiters other

/-- A waiter that is registered under a new ticket may be left out from the start. -/
theorem enroll_left_out (hpart : Part tickets whole part)
    (hfresh : ∀ waiter ∈ whole.waitersFor ticket.messageId, waiter.token ≠ ticket.token) :
    Part (tickets ++ [ticket]) (whole.enroll ticket scope) part := by
  refine ⟨?_, hpart.closed⟩
  intro other
  have hsame : (whole.waitersFor other).filter
      (fun waiter => (⟨other, waiter.token⟩ : Ticket) ∉ tickets ++ [ticket]) =
      (whole.waitersFor other).filter
        fun waiter => (⟨other, waiter.token⟩ : Ticket) ∉ tickets := by
    apply List.filter_congr
    intro waiter hwaiter
    have hne : (⟨other, waiter.token⟩ : Ticket) ≠ ticket := by
      rintro rfl
      exact hfresh waiter hwaiter rfl
    simp [hne]
  rw [waitersFor_enroll, hpart.waiters other, ← hsame]
  split
  next heq =>
    subst heq
    simp
  next => rfl

theorem unregister_left_out (hpart : Part tickets whole part) (hown : ticket ∈ tickets) :
    Part tickets (whole.unregister ticket) part := by
  apply hpart.left_out
  rw [List.filter_filter]
  apply List.filter_congr
  intro waiter _
  by_cases htoken : waiter.token = ticket.token
  · simp [htoken, hown]
  · simp [htoken]

theorem take_left_out {after : Tracker} (hpart : Part tickets whole part) (hown : ticket ∈ tickets)
    (htake : whole.take ticket = some (message, after)) : Part tickets after part := by
  obtain ⟨⟨own, waiters⟩, hfirst, heq⟩ := Option.map_eq_some_iff.mp htake
  cases heq
  obtain ⟨earlier, waiter, later, hbefore, htoken, _, rfl⟩ := takeFirst_eq_some hfirst
  apply hpart.left_out
  rw [hbefore]
  simp [htoken, hown]

theorem lookFor_left_out (hpart : Part tickets whole part) (hfirst : first ∈ tickets)
    (hsecond : ∀ ticket ∈ second, ticket ∈ tickets) :
    Part tickets (whole.lookFor first second).2 part := by
  rcases whole.lookFor_cases first second with
    ⟨ticket, message, hticket, htake, _⟩ | ⟨_, _, hlook⟩
  · apply hpart.take_left_out _ htake
    rcases hticket with rfl | hother
    · exact hfirst
    · exact hsecond ticket hother
  · rw [hlook]
    exact hpart

theorem offer_left_out (hpart : Part tickets whole part)
    (htaker : whole.taker? messageId channel = some ticket) (hown : ticket ∈ tickets) :
    Part tickets (whole.offer messageId channel message).2 part := by
  rw [taker?] at htaker
  split at htaker
  next => cases htaker
  next hopen =>
    obtain ⟨waiter, hfind, rfl⟩ := Option.map_eq_some_iff.mp htaker
    rw [offer, if_neg hopen]
    cases hanswer : answerFirst channel message (whole.waitersFor messageId) with
    | none => exact hpart
    | some rest =>
        apply hpart.left_out
        apply @filter_answerFirst_of_dropped
          (fun token => decide ((⟨messageId, token⟩ : Ticket) ∉ tickets)) _ _ _ _ _ hanswer
        intro other hother
        cases hfind.symm.trans hother
        simp [hown]

/-! ## What the part does as well -/

theorem setWaiters {waiters rest : List Waiter} (hpart : Part tickets whole part)
    (hrest : rest = waiters.filter fun waiter => ⟨messageId, waiter.token⟩ ∉ tickets) :
    Part tickets (whole.setWaiters messageId waiters) (part.setWaiters messageId rest) := by
  refine ⟨?_, hpart.closed⟩
  intro other
  rw [waitersFor_setWaiters, waitersFor_setWaiters]
  split
  next heq =>
    subst heq
    exact hrest
  next => exact hpart.waiters other

theorem enroll (hpart : Part tickets whole part) (hforeign : ticket ∉ tickets) :
    Part tickets (whole.enroll ticket scope) (part.enroll ticket scope) := by
  refine ⟨?_, hpart.closed⟩
  intro other
  rw [waitersFor_enroll, waitersFor_enroll, hpart.waiters other]
  split
  next heq =>
    subst heq
    simp [hforeign]
  next => rfl

theorem unregister (hpart : Part tickets whole part) (ticket : Ticket) :
    Part tickets (whole.unregister ticket) (part.unregister ticket) := by
  apply hpart.setWaiters
  rw [hpart.waiters, List.filter_filter, List.filter_filter]
  simp only [Bool.and_comm]

theorem take (hpart : Part tickets whole part) (hforeign : ticket ∉ tickets) :
    whole.take ticket = none ∧ part.take ticket = none ∨
      ∃ message after rest, whole.take ticket = some (message, after) ∧
        part.take ticket = some (message, rest) ∧ Part tickets after rest := by
  have hfirst := @takeFirst_filter
    (fun token => decide ((⟨ticket.messageId, token⟩ : Ticket) ∉ tickets)) ticket.token
    (by simpa using hforeign) (whole.waitersFor ticket.messageId)
  rw [← hpart.waiters] at hfirst
  rw [Tracker.take, Tracker.take, hfirst]
  cases takeFirst ticket.token (whole.waitersFor ticket.messageId) with
  | none => exact .inl ⟨rfl, rfl⟩
  | some found => exact .inr ⟨found.1, _, _, rfl, rfl, hpart.setWaiters rfl⟩

theorem look (hpart : Part tickets whole part) (hforeign : ticket ∉ tickets) :
    (part.look ticket).1 = (whole.look ticket).1 ∧
      Part tickets (whole.look ticket).2 (part.look ticket).2 := by
  rw [Tracker.look, Tracker.look]
  rcases hpart.take hforeign with ⟨hwhole, hnone⟩ | ⟨message, after, rest, hwhole, htake, hafter⟩
  · rw [hwhole, hnone, hpart.closed]
    exact ⟨rfl, hpart⟩
  · rw [hwhole, htake]
    exact ⟨rfl, hafter⟩

theorem lookFor (hpart : Part tickets whole part) (hfirst : first ∉ tickets)
    (hsecond : ∀ ticket ∈ second, ticket ∉ tickets) :
    (part.lookFor first second).1 = (whole.lookFor first second).1 ∧
      Part tickets (whole.lookFor first second).2 (part.lookFor first second).2 := by
  cases second with
  | none => exact hpart.look hfirst
  | some second =>
      change (part.lookEither first second).1 = (whole.lookEither first second).1 ∧
        Part tickets (whole.lookEither first second).2 (part.lookEither first second).2
      rw [lookEither, lookEither]
      rcases hpart.take hfirst with ⟨hwhole, hnone⟩ | ⟨message, after, rest, hwhole, htake, hafter⟩
      · rw [hwhole, hnone]
        exact hpart.look (hsecond second rfl)
      · rw [hwhole, htake]
        exact ⟨rfl, hafter⟩

theorem taker? (hpart : Part tickets whole part)
    (hforeign : ∀ ticket ∈ whole.taker? messageId channel, ticket ∉ tickets) :
    part.taker? messageId channel = whole.taker? messageId channel := by
  rw [Tracker.taker?] at hforeign
  rw [Tracker.taker?, Tracker.taker?, hpart.closed, hpart.waiters]
  split
  next => rfl
  next hopen =>
    rw [if_neg hopen] at hforeign
    rw [@find?_filter_of_kept fun token => decide ((⟨messageId, token⟩ : Ticket) ∉ tickets)]
    intro waiter hwaiter
    simpa using hforeign _ (Option.mem_map_of_mem _ hwaiter)

theorem offer (hpart : Part tickets whole part)
    (hforeign : ∀ ticket ∈ whole.taker? messageId channel, ticket ∉ tickets) :
    Part tickets (whole.offer messageId channel message).2
      (part.offer messageId channel message).2 := by
  rw [Tracker.taker?] at hforeign
  rw [Tracker.offer, Tracker.offer, hpart.closed]
  split
  next => exact hpart
  next hopen =>
    rw [if_neg hopen] at hforeign
    have hanswer := @answerFirst_filter_of_kept
      (fun token => decide ((⟨messageId, token⟩ : Ticket) ∉ tickets)) channel message
      (whole.waitersFor messageId) (by
        intro waiter hwaiter
        simpa using hforeign _ (Option.mem_map_of_mem _ hwaiter))
    rw [← hpart.waiters] at hanswer
    rw [hanswer]
    cases answerFirst channel message (whole.waitersFor messageId) with
    | none => exact hpart
    | some rest => exact hpart.setWaiters rfl

theorem close (hpart : Part tickets whole part) : Part tickets whole.close part.close :=
  ⟨hpart.waiters, rfl⟩

end Part

end Tracker

end AntHost
