import AntHost.EventQueue
import AntHost.Proofs.Session.Routing
/-!
# Deliveries to channel handlers

Which messages reach the handler of a channel, and what the handler is called with: the channel, a
code and the bytes its buffer then holds. No other message calls a channel handler.
-/

namespace AntHost

namespace Message

/-- The event that a message brings its channel's handler, with the bytes that belong to it. -/
def event? (message : Message) : Option QueuedEvent :=
  if message.payload = [] then none
  else if message.id = 0x40 then
    if message.byteAt 1 = 1 then some ⟨message.channel, message.byteAt 2, message.payload⟩
    else none
  else message.dataDelivery?.map fun (code, length) =>
    ⟨message.channel, code, message.payload.take length⟩

/-- An event is either one the device reports or made from the data it sends. -/
theorem event?_cases {message : Message} {event : QueuedEvent}
    (hevent : message.event? = some event) :
    message.payload ≠ [] ∧
      (message.id = 0x40 ∧ message.byteAt 1 = 1 ∧
          event = ⟨message.channel, message.byteAt 2, message.payload⟩ ∨
        message.id ≠ 0x40 ∧ ∃ code length, message.dataDelivery? = some (code, length) ∧
          event = ⟨message.channel, code, message.payload.take length⟩) := by
  unfold event? at hevent
  split at hevent
  next => cases hevent
  next hpayload =>
    refine ⟨hpayload, ?_⟩
    split at hevent
    next hid =>
      split at hevent
      next hone =>
        cases hevent
        exact .inl ⟨hid, hone, rfl⟩
      next => cases hevent
    next hid =>
      obtain ⟨⟨code, length⟩, hdata, rfl⟩ := Option.map_eq_some_iff.mp hevent
      exact .inr ⟨hid, code, length, hdata, rfl⟩

end Message

namespace Session

variable {H β : Type} [DecidableEq β] {session : Session H β} {message : Message}

/-- A message with an event calls its channel's handler, if there is one, with the event's bytes in
the handler's buffer. -/
theorem delivers_of_event {event : QueuedEvent} (hevent : message.event? = some event) :
    Delivers (session.table.slot? event.channel) event.channel event.event event.data session
      (session.route message).1 (session.route message).2 := by
  obtain ⟨hpayload, ⟨hid, hone, rfl⟩ | ⟨hid, code, length, hdata, rfl⟩⟩ :=
    Message.event?_cases hevent
  · have hrouted : RoutedTo session message _ _ := routedTo_of_event hpayload hid hone rfl
    rw [RoutedTo, if_neg hpayload, if_pos ⟨hid, hone⟩] at hrouted
    exact hrouted.2.2
  · have hrouted : RoutedTo session message _ _ := routedTo_of_data hpayload hdata rfl
    rw [RoutedTo, if_neg hpayload, if_neg fun hboth => hid hboth.1, hdata] at hrouted
    exact hrouted.2.2.2

/-- A message without an event is offered to the calls that wait, if it has a payload at all. -/
theorem route_of_no_event (hevent : message.event? = none) (hpayload : message.payload ≠ []) :
    session.route message =
      session.offerResponse (if message.id = 0x40 then message.byteAt 1 else message.id)
        message.channel message.id message := by
  rw [Message.event?, if_neg hpayload] at hevent
  by_cases hid : message.id = 0x40
  · have hone : message.byteAt 1 ≠ 1 := by
      intro hone
      rw [if_pos hid, if_pos hone] at hevent
      cases hevent
    rw [if_pos hid, route, Message.route?_of_channelEvent hpayload hid, if_neg hone, hid]
    rfl
  · rw [if_neg hid] at hevent
    rw [if_neg hid, route,
      Message.route?_of_other hpayload hid (Option.map_eq_none_iff.mp hevent)]

/-- A message without an event calls the response handler or nobody. -/
theorem responds_of_no_event (hevent : message.event? = none) {invocation : Invocation H β}
    (hcall : (session.route message).1 = some invocation) :
    session.table.response = some invocation.slot := by
  by_cases hpayload : message.payload = []
  · rw [route, Message.route?, if_pos hpayload] at hcall
    cases hcall
  · rw [route_of_no_event hevent hpayload] at hcall
    generalize hoffer : session.offerResponse _ _ _ message = result at hcall
    obtain ⟨call, after⟩ := result
    obtain ⟨-, ⟨-, rfl, -⟩ | ⟨-, -, rfl, -⟩⟩ := offerResponse_cases hoffer
    · cases hcall
    · obtain ⟨slot, hslot, rfl⟩ := Option.map_eq_some_iff.mp hcall
      exact hslot

/-- Routing leaves the handlers where they are. -/
theorem route_table (session : Session H β) (message : Message) :
    (session.route message).2.table = session.table := by
  rw [route_frame]

end Session

end AntHost
