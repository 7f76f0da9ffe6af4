import AntHost.Proofs.Tracker.Accounts
import AntHost.Proofs.Tracker.Seats
/-!
# Runs of a tracker

Every event at a tracker answers what it answers on the flat list of its waiters, and leaves the
same live requests with the same responses. So does every run of fewer than 2^64 registrations.
-/

namespace AntHost

open AntHost.Tracker (Event Answer)

/-- The part of a logged outcome that its caller is told. -/
def seen (entry : Event × Outcome) : Event × Answer := (entry.1, entry.2.answer)

namespace TicketDesk

/-- The live requests of a desk as its tracker has them, in the order of registration. -/
def view (desk : TicketDesk) : WaitingList where
  holders := desk.held.map fun entry =>
    ⟨entry.1, ((desk.tracker.waitersFor entry.2.messageId).find? fun waiter =>
      waiter.token = entry.2.token).bind Waiter.response⟩
  closed := desk.tracker.closed

end TicketDesk

/-- The desk and the list answer the same and stay seated, or neither can do the event. -/
def Agree (count : Nat) :
    Option (Answer × TicketDesk) → Option (Outcome × WaitingList) → Prop :=
  Option.Rel fun (answer, desk) (outcome, list) =>
    answer = outcome.answer ∧ ∃ seats, Seated seats count desk list

/-- A wait ends the same at a desk and on the list, and the two stay seated, or neither ends it. -/
def EndAlike (count : Nat) (desk : TicketDesk) :
    Option (Except WaitError Message) → Option (Outcome × WaitingList) → Prop :=
  Option.Rel fun ending (outcome, list) =>
    .ended ending = outcome.answer ∧ ∃ seats, Seated seats count desk list

namespace Seated

variable {seats : List Seat} {count : Nat} {desk : TicketDesk} {list : WaitingList}
  {request : Request} {seat : Seat}

theorem offer (hseated : Seated seats count desk list) (messageId channel : UInt8)
    (message : Message) :
    Agree count (desk.step (.offer messageId channel message))
      (list.step (.offer messageId channel message)) := by
  have htaker : list.taker? messageId channel =
      if desk.tracker.closed then none
      else (seats.find? fun seat => seat.holder.accepts messageId channel).map Seat.request := by
    rw [WaitingList.taker?, hseated.closed, hseated.holders, List.find?_map, Option.map_map]
    rfl
  have hanswer : answerFirst channel message (Seat.waiters messageId seats) = _ :=
    Seat.answerFirst_waiters hseated.requests_nodup message
  rw [← hseated.waitersFor] at hanswer
  rw [WaitingList.step, TicketDesk.step, Tracker.offer, htaker, hanswer]
  cases hclosed : desk.tracker.closed with
  | true => exact .some ⟨rfl, seats, hseated⟩
  | false =>
      cases hfound : seats.find? fun seat => seat.holder.accepts messageId channel with
      | none => exact .some ⟨rfl, seats, hseated⟩
      | some seat =>
          have haccepts : seat.holder.accepts messageId channel = true := by
            simpa using List.find?_some hfound
          have hid : messageId = seat.request.messageId := by
            rw [Holder.accepts, Bool.and_eq_true, decide_eq_true_eq] at haccepts
            exact haccepts.1.1.symm
          subst hid
          exact .some ⟨rfl, _, hseated.give seat.request (some message)⟩

theorem take_of_mem (hseated : Seated seats count desk list) (hseat : seat ∈ seats) :
    desk.tracker.take seat.ticket =
      (list.stored seat.request).map fun message =>
        (message, desk.tracker.setWaiters seat.request.messageId
          (Seat.waiters seat.request.messageId (seats.map (Seat.given seat.request none)))) := by
  have htake := Seat.takeFirst_waiters hseated.tokens_nodup hseated.requests_nodup hseat
  rw [Tracker.take, hseated.waitersFor, hseated.stored_of_mem hseat]
  change (takeFirst seat.token _).map _ = _
  change takeFirst seat.token (Seat.waiters seat.ticket.messageId seats) = _ at htake
  rw [htake, Option.map_map]
  rfl

/-- A wait found the first stored response among its requests, or that there is none. -/
inductive Found (desk : TicketDesk) (list : WaitingList) (count : Nat) (requests : List Request) :
    Option (Except WaitError Message) × Tracker → Prop where
  | response {request : Request} {message : Message} {tracker : Tracker} {seats : List Seat}
      (hfirst : requests.findSome? (fun request => (list.stored request).map (request, ·)) =
        some (request, message))
      (hseated : Seated seats count ⟨tracker, desk.held⟩ (list.give request none)) :
      Found desk list count requests (some (.ok message), tracker)
  | nothing
      (hnone : requests.findSome? (fun request => (list.stored request).map (request, ·)) = none) :
      Found desk list count requests
        (if list.closed then some (.error .closed) else none, desk.tracker)

theorem look_found (hseated : Seated seats count desk list) (hseat : seat ∈ seats) :
    Found desk list count [seat.request] (desk.tracker.look seat.ticket) := by
  rw [Tracker.look, hseated.take_of_mem hseat, hseated.closed]
  cases hstored : list.stored seat.request with
  | none => exact .nothing (by simp [hstored])
  | some message => exact .response (by simp [hstored]) (hseated.give _ _)

theorem lookEither_found (hseated : Seated seats count desk list) (hseat : seat ∈ seats)
    {other : Seat} (hother : other ∈ seats) :
    Found desk list count [seat.request, other.request]
      (desk.tracker.lookEither seat.ticket other.ticket) := by
  rw [Tracker.lookEither, hseated.take_of_mem hseat]
  cases hstored : list.stored seat.request with
  | some message => exact .response (by simp [hstored]) (hseated.give _ _)
  | none =>
      have hfirst : ∀ requests : List Request,
          (seat.request :: requests).findSome? (fun request =>
              (list.stored request).map (request, ·)) =
            requests.findSome? fun request => (list.stored request).map (request, ·) := by
        intro requests
        rw [List.findSome?_cons, hstored, Option.map_none]
      have hfound := hseated.look_found hother
      generalize desk.tracker.look other.ticket = result at hfound ⊢
      cases hfound with
      | response hsecond hnext => exact .response ((hfirst _).trans hsecond) hnext
      | nothing hnone => exact .nothing ((hfirst _).trans hnone)

/-- Without a response, a policy ends a wait for the list's reasons and in their order. -/
theorem check_nothing (list : WaitingList) (policy : WaitPolicy) (raised : Bool)
    (deadline : Option Nat) (now : Nat) :
    policy.check raised deadline now
        (if list.closed then some (.error .closed) else none : Option (Except WaitError Message)) =
      (list.givesUp (policy.watchesCancel && raised) (deadline.any (· ≤ now))).map .error := by
  cases hclosed : list.closed with
  | true => simp [WaitingList.givesUp, WaitPolicy.check, hclosed]
  | false =>
      cases hcancelled : policy.watchesCancel && raised with
      | true =>
          simp [WaitingList.givesUp, WaitPolicy.check, WaitPolicy.givesUp, WaitPolicy.isCancelled,
            hclosed, hcancelled]
      | false =>
          cases deadline with
          | none =>
              simp [WaitingList.givesUp, WaitPolicy.check, WaitPolicy.givesUp,
                WaitPolicy.isCancelled, hclosed, hcancelled]
          | some limit =>
              by_cases hlimit : limit ≤ now <;>
                simp [WaitingList.givesUp, WaitPolicy.check, WaitPolicy.givesUp,
                  WaitPolicy.isCancelled, hclosed, hcancelled, hlimit]

/-- Whatever a wait finds, the tracker's policy and the list end it alike. -/
theorem Found.finish {requests : List Request}
    {result : Option (Except WaitError Message) × Tracker}
    (hseated : Seated seats count desk list) (hfound : Found desk list count requests result)
    (policy : WaitPolicy) (raised : Bool) (deadline : Option Nat) (now : Nat) :
    EndAlike count ⟨result.2, desk.held⟩ (policy.check raised deadline now result.1)
      (list.finish requests (policy.watchesCancel && raised) (deadline.any (· ≤ now))) := by
  rw [WaitingList.finish]
  cases hfound with
  | response hfirst hnext =>
      rw [hfirst]
      exact .some ⟨rfl, _, hnext⟩
  | nothing hnone =>
      rw [hnone, check_nothing]
      cases list.givesUp (policy.watchesCancel && raised) (deadline.any (· ≤ now)) with
      | none => exact .none
      | some error => exact .some ⟨rfl, seats, hseated⟩

/-- A whole wait panics if the clock cannot hold its deadline, and else expires unless its timeout
is zero. -/
theorem deadline_cases (policy : WaitPolicy) (now : Nat) :
    (∃ overflow, policy.deadline now = .error overflow ∧
        decide (policy.timeout ≠ 0 ∧ clockEnd ≤ now + policy.timeout) = true) ∨
      ∃ deadline, policy.deadline now = .ok deadline ∧
        decide (policy.timeout ≠ 0 ∧ clockEnd ≤ now + policy.timeout) = false ∧
        deadline.any (· ≤ now + policy.timeout) = decide (policy.timeout ≠ 0) := by
  cases hdeadline : policy.deadline now with
  | error overflow =>
      exact .inl ⟨overflow, rfl, decide_eq_true (WaitPolicy.deadline_eq_error_iff.mp hdeadline)⟩
  | ok deadline =>
      refine .inr ⟨deadline, rfl, ?_⟩
      rcases WaitPolicy.deadline_eq_ok_iff.mp hdeadline with
        ⟨hendless, rfl⟩ | ⟨hfinite, hfits, rfl⟩
      · simp [hendless]
      · simp [hfinite, hfits]

/-- The desk knows the ticket of every live request, and only of these. -/
theorem exists_seat_or_not (hseated : Seated seats count desk list) (request : Request) :
    (¬ list.Holds request ∧ desk.ticketFor? request = none) ∨
      ∃ seat ∈ seats, seat.request = request ∧ list.Holds request ∧
        desk.ticketFor? request = some seat.ticket := by
  by_cases hholds : list.Holds request
  · obtain ⟨seat, hseat, rfl⟩ := hseated.holds_iff.mp hholds
    exact .inr ⟨seat, hseat, rfl, hholds, hseated.ticketFor?_of_mem hseat⟩
  · exact .inl ⟨hholds, hseated.ticketFor?_eq_none hholds⟩

theorem leave_of_held (hseated : Seated seats count desk list) {ticket : Ticket}
    (hheld : (request, ticket) ∈ desk.held) :
    ∃ seats, Seated seats count (desk.without request (desk.tracker.unregister ticket))
      (list.leave request) := by
  rw [hseated.held] at hheld
  obtain ⟨seat, hseat, heq⟩ := List.mem_map.mp hheld
  cases heq
  exact ⟨_, hseated.leave hseat⟩

/-- What a wait finds ends it alike at the desk and on the list. -/
theorem agree_of_finish {ending : Option (Except WaitError Message)}
    {finished : Option (Outcome × WaitingList)}
    (hfinish : EndAlike count desk ending finished) :
    Agree count (ending.map fun result => (.ended result, desk)) finished := by
  cases hfinish with
  | none => exact .none
  | some hsame => exact .some hsame

/-- A wait that ends gives its request up. -/
theorem agree_of_finish_leave {tracker : Tracker} {ticket : Ticket}
    {ending : Option (Except WaitError Message)} {finished : Option (Outcome × WaitingList)}
    (hheld : (request, ticket) ∈ desk.held)
    (hfinish : EndAlike count ⟨tracker, desk.held⟩ ending finished) :
    Agree count
      (ending.map fun result => (.ended result, desk.without request (tracker.unregister ticket)))
      (finished.map fun (outcome, next) =>
        (⟨outcome.answer, outcome.moves ++ next.lost request⟩, next.leave request)) := by
  cases hfinish with
  | none => exact .none
  | some hsame =>
      obtain ⟨hanswer, _, hnext⟩ := hsame
      exact .some ⟨hanswer, hnext.leave_of_held hheld⟩

/-- A look for a live request ends alike at the desk and on the list. -/
theorem look_or_not (hseated : Seated seats count desk list) (request : Request)
    (policy : WaitPolicy) (raised : Bool) (deadline : Option Nat) (now : Nat) :
    (¬ list.Holds request ∧ desk.ticketFor? request = none) ∨
      ∃ ticket, list.Holds request ∧ desk.ticketFor? request = some ticket ∧
        (request, ticket) ∈ desk.held ∧
        EndAlike count ⟨(desk.tracker.look ticket).2, desk.held⟩
          (policy.check raised deadline now (desk.tracker.look ticket).1)
          (list.finish [request] (policy.watchesCancel && raised)
            (deadline.any (· ≤ now))) := by
  rcases hseated.exists_seat_or_not request with hnot | ⟨seat, hseat, rfl, hholds, hticket⟩
  · exact .inl hnot
  · have hheld : (seat.request, seat.ticket) ∈ desk.held := by
      rw [hseated.held]
      exact List.mem_map_of_mem hseat
    exact .inr ⟨seat.ticket, hholds, hticket, hheld,
      (hseated.look_found hseat).finish hseated policy raised deadline now⟩

/-- A look for either of two live requests ends alike at the desk and on the list. -/
theorem lookEither_or_not (hseated : Seated seats count desk list) (first second : Request)
    (policy : WaitPolicy) (raised : Bool) (deadline : Option Nat) (now : Nat) :
    (¬ (list.Holds first ∧ list.Holds second) ∧
        ∀ answer : Ticket → Ticket → Option (Answer × TicketDesk),
          ((desk.ticketFor? first).bind fun ticket =>
            (desk.ticketFor? second).bind (answer ticket)) = none) ∨
      ∃ ticket other, (list.Holds first ∧ list.Holds second) ∧
        desk.ticketFor? first = some ticket ∧ desk.ticketFor? second = some other ∧
        EndAlike count ⟨(desk.tracker.lookEither ticket other).2, desk.held⟩
          (policy.check raised deadline now (desk.tracker.lookEither ticket other).1)
          (list.finish [first, second] (policy.watchesCancel && raised)
            (deadline.any (· ≤ now))) := by
  rcases hseated.exists_seat_or_not first with
    ⟨hnot, hticket⟩ | ⟨seat, hseat, rfl, hfirst, hticket⟩
  · refine .inl ⟨fun hboth => hnot hboth.1, fun answer => ?_⟩
    rw [hticket, Option.bind_none]
  · rcases hseated.exists_seat_or_not second with
      ⟨hnot, hother⟩ | ⟨other, hmem, rfl, hsecond, hother⟩
    · refine .inl ⟨fun hboth => hnot hboth.2, fun answer => ?_⟩
      rw [hticket, Option.bind_some, hother, Option.bind_none]
    · exact .inr ⟨seat.ticket, other.ticket, ⟨hfirst, hsecond⟩, hticket, hother,
        (hseated.lookEither_found hseat hmem).finish hseated policy raised deadline now⟩

/-- A whole wait answers the same at the desk and on the list, and gives its request up. -/
theorem wait (hseated : Seated seats count desk list) (request : Request) (policy : WaitPolicy)
    (raised : Bool) (now : Nat) :
    Agree count (desk.step (.wait request policy raised now))
      (list.step (.wait request policy raised now)) := by
  rw [TicketDesk.step, WaitingList.step, WaitingList.await_one rfl]
  rcases deadline_cases policy now with
    ⟨overflow, hdeadline, hover⟩ | ⟨deadline, hdeadline, hfits, hexpires⟩
  · rcases hseated.exists_seat_or_not request with
      ⟨hnot, hticket⟩ | ⟨seat, hseat, rfl, hholds, hticket⟩
    · rw [hticket, if_neg hnot]
      exact .none
    · rw [hticket, if_pos hholds, if_pos (by exact hover), Option.bind_some, Tracker.wait,
        WaitPolicy.alone, hdeadline]
      exact .some ⟨rfl, _, hseated.leave hseat⟩
  · rcases hseated.look_or_not request policy raised deadline (now + policy.timeout) with
      ⟨hnot, hticket⟩ | ⟨ticket, hholds, hticket, hheld, hends⟩
    · rw [hticket, if_neg hnot]
      exact .none
    · rw [hexpires] at hends
      rw [hticket, if_pos hholds, if_neg (Bool.eq_false_iff.mp (by exact hfits)), Option.bind_some,
        Tracker.wait, WaitPolicy.alone, hdeadline]
      simp only [Answer.ofWait?, Option.map_map]
      exact agree_of_finish_leave hheld hends

/-- A whole wait for either of two requests answers the same at the desk and on the list. -/
theorem waitEither (hseated : Seated seats count desk list) (first second : Request)
    (policy : WaitPolicy) (raised : Bool) (now : Nat) :
    Agree count (desk.step (.waitEither first second policy raised now))
      (list.step (.waitEither first second policy raised now)) := by
  change Agree count _ (list.await (.waitEither first second policy raised now))
  rw [TicketDesk.step, WaitingList.await_two rfl]
  rcases deadline_cases policy now with
    ⟨overflow, hdeadline, hover⟩ | ⟨deadline, hdeadline, hfits, hexpires⟩
  · rcases hseated.lookEither_or_not first second policy raised none now with
      ⟨hnot, hnone⟩ | ⟨ticket, other, hboth, hticket, hother, _⟩
    · rw [hnone, if_neg hnot]
      exact .none
    · rw [hticket, Option.bind_some, hother, if_pos hboth, if_pos (by exact hover),
        Option.bind_some, Tracker.waitEither, WaitPolicy.alone, hdeadline]
      exact .some ⟨rfl, seats, hseated⟩
  · rcases hseated.lookEither_or_not first second policy raised deadline (now + policy.timeout) with
      ⟨hnot, hnone⟩ | ⟨ticket, other, hboth, hticket, hother, hends⟩
    · rw [hnone, if_neg hnot]
      exact .none
    · rw [hexpires] at hends
      rw [hticket, Option.bind_some, hother, if_pos hboth,
        if_neg (Bool.eq_false_iff.mp (by exact hfits)), Option.bind_some, Tracker.waitEither,
        WaitPolicy.alone, hdeadline]
      simp only [Answer.ofWait?, Option.map_map]
      exact agree_of_finish hends

/-- Every event answers the same at the desk and on the list. -/
theorem step (hseated : Seated seats count desk list) (event : Event)
    (hcount : event.registers = true → count + 1 < UInt64.size) :
    Agree (if event.registers then count + 1 else count) (desk.step event) (list.step event) := by
  cases event with
  | register request =>
      rcases hseated.exists_seat_or_not request with
        ⟨hnot, hticket⟩ | ⟨seat, _, _, hholds, hticket⟩
      · rw [TicketDesk.step, WaitingList.step, hticket, if_neg hnot]
        exact .some ⟨rfl, _, hseated.register hnot (hcount rfl)⟩
      · rw [TicketDesk.step, WaitingList.step, hticket, if_pos hholds]
        exact .none
  | offer messageId channel message => exact hseated.offer messageId channel message
  | look request policy raised deadline now =>
      change Agree count _ (list.await (.look request policy raised deadline now))
      rw [TicketDesk.step, WaitingList.await_one rfl]
      rcases hseated.look_or_not request policy raised deadline now with
        ⟨hnot, hticket⟩ | ⟨ticket, hholds, hticket, _, hends⟩
      · rw [hticket, if_neg hnot]
        exact .none
      · rw [hticket, if_pos hholds]
        exact agree_of_finish hends
  | lookEither first second policy raised deadline now =>
      change Agree count _ (list.await (.lookEither first second policy raised deadline now))
      rw [TicketDesk.step, WaitingList.await_two rfl]
      rcases hseated.lookEither_or_not first second policy raised deadline now with
        ⟨hnot, hnone⟩ | ⟨ticket, other, hboth, hticket, hother, hends⟩
      · rw [hnone, if_neg hnot]
        exact .none
      · rw [hticket, Option.bind_some, hother, if_pos hboth]
        exact agree_of_finish hends
  | wait request policy raised now => exact hseated.wait request policy raised now
  | waitEither first second policy raised now =>
      exact hseated.waitEither first second policy raised now
  | drop request =>
      rcases hseated.exists_seat_or_not request with
        ⟨hnot, hticket⟩ | ⟨seat, hseat, rfl, hholds, hticket⟩
      · rw [TicketDesk.step, WaitingList.step, hticket, if_neg hnot]
        exact .none
      · rw [TicketDesk.step, WaitingList.step, hticket, if_pos hholds]
        exact .some ⟨rfl, _, hseated.leave hseat⟩
  | close => exact .some ⟨rfl, seats, hseated.close⟩

/-- What the tracker holds for the live requests is what the list does. -/
theorem view_eq (hseated : Seated seats count desk list) : desk.view = list := by
  have hholders : desk.view.holders = list.holders := by
    rw [TicketDesk.view, hseated.held, List.map_map, hseated.holders]
    apply List.map_congr_left
    intro seat hseat
    simp only [Function.comp_apply, hseated.waitersFor]
    change Holder.mk seat.request (((Seat.waiters seat.request.messageId seats).find? fun waiter =>
      waiter.token = seat.waiter.token).bind Waiter.response) = _
    rw [Seat.find?_waiter hseated.tokens_nodup hseat]
    rfl
  exact congrArg₂ WaitingList.mk hholders hseated.closed

/-- A run at the desk answers what the same run on the list does. -/
theorem replay (hseated : Seated seats count desk list) (events : List Event)
    (hfew : count + events.countP Event.registers < UInt64.size) :
    Option.Rel
      (fun (log, last) (outcomes, flat) => log = outcomes.map seen ∧
        ∃ seats count, Seated seats count last flat)
      (AntHost.replay TicketDesk.step desk events)
      (AntHost.replay WaitingList.step list events) := by
  induction events generalizing seats count desk list with
  | nil => exact .some ⟨rfl, seats, count, hseated⟩
  | cons event rest ih =>
      rw [List.countP_cons] at hfew
      have hagree := hseated.step event (by intro h; rw [if_pos h] at hfew; omega)
      rw [AntHost.replay, AntHost.replay]
      generalize desk.step event = left, list.step event = right at hagree ⊢
      cases hagree with
      | none => exact .none
      | @some left right hsame =>
          obtain ⟨answer, next⟩ := left
          obtain ⟨outcome, flat⟩ := right
          obtain ⟨rfl, seats, hnext⟩ := hsame
          have hbound : (if event.registers then count + 1 else count) +
              rest.countP Event.registers < UInt64.size := by
            split at hfew
            next hregisters =>
              rw [if_pos hregisters]
              omega
            next hregisters =>
              rw [if_neg hregisters]
              omega
          have hrest := ih hnext hbound
          simp only [Option.bind_some]
          generalize AntHost.replay TicketDesk.step next rest = left,
            AntHost.replay WaitingList.step flat rest = right at hrest ⊢
          cases hrest with
          | none => exact .none
          | @some left right hlast =>
              obtain ⟨log, last⟩ := left
              obtain ⟨outcomes, flat⟩ := right
              obtain ⟨rfl, hseated⟩ := hlast
              exact .some ⟨rfl, hseated⟩

end Seated

namespace TicketDesk

theorem run_rel (events : List Event) (hfew : events.countP Event.registers < UInt64.size) :
    Option.Rel
      (fun (log, last) (outcomes, flat) => log = outcomes.map seen ∧
        ∃ seats count, Seated seats count last flat)
      (run events) (WaitingList.run events) :=
  Seated.fresh.replay events (by rwa [Nat.zero_add])

/-- A tracker answers every run as one flat list of live waiters does, and holds what the list
holds. In the accounts of each request every message that was accepted is returned once, by a wait
for that request, or is lost with it, be it dropped or used up by a wait that panics. As many
requests are pending as were registered and are neither dropped nor consumed. -/
theorem run_eq_waitingList (events : List Event)
    (hfew : events.countP Event.registers < UInt64.size) :
    (run events).map (fun (log, desk) => (log, desk.view)) =
        (WaitingList.run events).map (fun (log, list) => (log.map seen, list)) ∧
      (∀ log list, WaitingList.run events = some (log, list) →
        (∀ entry ∈ log, Proper entry.1 entry.2) ∧
          ∀ request, (WaitingList.moves log).filterMap (Move.acceptedFor request) =
            (WaitingList.moves log).filterMap (Move.releasedFrom request) ++
              (list.stored request).toList) ∧
      ∀ log desk, run events = some (log, desk) →
        desk.tracker.pending = desk.held.length ∧
          desk.tracker.pending + events.countP Event.givesUp =
            events.countP Event.registers := by
  have hrel := run_rel events hfew
  refine ⟨?_, fun log list hrun => ?_, fun log desk hrun => ?_⟩
  · generalize run events = left, WaitingList.run events = right at hrel ⊢
    cases hrel with
    | none => rfl
    | @some left right hlast =>
        obtain ⟨log, desk⟩ := left
        obtain ⟨outcomes, list⟩ := right
        obtain ⟨rfl, _, _, hseated⟩ := hlast
        simp only [Option.map_some, hseated.view_eq]
  · have hbalanced := WaitingList.Balanced.of_run hrun
    exact ⟨hbalanced.proper, hbalanced.accounts⟩
  · rw [hrun] at hrel
    generalize hflat : WaitingList.run events = right at hrel
    cases hrel with
    | @some _ right hlast =>
        obtain ⟨outcomes, list⟩ := right
        obtain ⟨_, seats, _, hseated⟩ := hlast
        have hlength := (WaitingList.Balanced.of_run hflat).length
        rw [replay_events hflat, hseated.holders, List.length_map] at hlength
        refine ⟨?_, ?_⟩
        · rw [hseated.pending, hseated.held, List.length_map]
        · rw [hseated.pending, hlength]

/-- A request is answered again after a wait for either of two has served it, and what it was given
last is lost with it. -/
theorem run_eq_waitingList_of_reuse :
    (run [.register ⟨0x54, none, 0⟩, .register ⟨0x4D, some 0, 0⟩,
          .offer 0x4D 0 ⟨0x40, [0, 0x4D, 0], by decide⟩, .offer 0x54 3 ⟨0x54, [3, 1], by decide⟩,
          .waitEither ⟨0x54, none, 0⟩ ⟨0x4D, some 0, 0⟩ ⟨0, false, 1⟩ false 0,
          .offer 0x54 3 ⟨0x54, [3, 2], by decide⟩, .drop ⟨0x54, none, 0⟩, .close,
          .offer 0x4D 0 ⟨0x40, [0, 0x4D, 1], by decide⟩]).map
        (fun result => (result.1.map Prod.snd, result.2.view)) =
      some ([.registered 0x54, .registered 0x4D, .offered true, .offered true,
          .ended (.ok ⟨0x54, [3, 1], by decide⟩), .offered true, .quiet, .quiet, .offered false],
        ⟨[⟨⟨0x4D, some 0, 0⟩, some ⟨0x40, [0, 0x4D, 0], by decide⟩⟩], true⟩) := by
  have hlaw := run_eq_waitingList
    [.register ⟨0x54, none, 0⟩, .register ⟨0x4D, some 0, 0⟩,
      .offer 0x4D 0 ⟨0x40, [0, 0x4D, 0], by decide⟩, .offer 0x54 3 ⟨0x54, [3, 1], by decide⟩,
      .waitEither ⟨0x54, none, 0⟩ ⟨0x4D, some 0, 0⟩ ⟨0, false, 1⟩ false 0,
      .offer 0x54 3 ⟨0x54, [3, 2], by decide⟩, .drop ⟨0x54, none, 0⟩, .close,
      .offer 0x4D 0 ⟨0x40, [0, 0x4D, 1], by decide⟩] (by decide)
  have hanswers := congrArg
    (Option.map fun result => (result.1.map Prod.snd, result.2)) hlaw.1
  rw [Option.map_map] at hanswers
  exact hanswers

end TicketDesk

end AntHost
