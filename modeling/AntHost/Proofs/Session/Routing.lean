import AntHost.Proofs.Tracker.Offer
import AntHost.Session.Router
/-!
# Routing

Every message reaches at most one consumer. `RoutedTo` says which, in terms of the wire:
identifiers, payload bytes and sizes. Routing changes nothing of a session but what that consumer is
given.
-/

namespace AntHost

variable {H β : Type} [DecidableEq β]

/-! ## What the wire says -/

namespace Message

/-- The code a data message gives its channel's handler, and how many payload bytes. -/
def dataDelivery? (message : Message) : Option (UInt8 × Nat) :=
  let size := message.size
  match message.id with
  | 0x4E => some (if 9 < size then 0x7F else 0x9A, size)
  | 0x4F => some (if 9 < size then 0x7D else 0x9B, size)
  | 0x50 => some (if 9 < size then 0x7E else 0x9C, size)
  | 0x5D => some (0x9D, min size 13)
  | 0x5E => some (0x9E, min size 13)
  | 0x5F => some (0x9F, min size 13)
  | 0x72 => some (0x9C, size)
  | _ => none

theorem dataDelivery?_length_le {message : Message} {code : UInt8} {length : Nat}
    (hdata : message.dataDelivery? = some (code, length)) : length ≤ message.payload.length := by
  unfold dataDelivery? at hdata
  split at hdata <;> cases hdata
  all_goals simp only [size, Nat.min_le_left, Nat.le_refl]

theorem messageId?_eq_some_iff {message : Message} {id : MessageId} :
    message.messageId? = some id ↔ id.value = message.id :=
  MessageId.ofByte?_eq_some_iff

theorem route?_of_known {message : Message} {id : MessageId} (hpayload : message.payload ≠ [])
    (hid : message.id = id.value) : message.route? = some (message.routeOf id) := by
  rw [route?, if_neg hpayload, messageId?_eq_some_iff.mpr hid.symm]

theorem route?_standard {message : Message} {id : MessageId} {plain flagged : EventCode}
    (hpayload : message.payload ≠ []) (hid : message.id = id.value)
    (hevents : dataEvents? id = some (plain, flagged)) :
    message.route? = some (.data message.channel
      (if standardDataSize < message.size then flagged else plain) message.size) := by
  have hevent : id ≠ .channelEvent := by
    rintro rfl
    cases hevents
  rw [route?_of_known hpayload hid, routeOf, if_neg hevent, hevents]

theorem route?_extended {message : Message} {id : MessageId} {event : EventCode}
    (hpayload : message.payload ≠ []) (hid : message.id = id.value)
    (hextended : extendedEvent? id = some event) :
    message.route? =
      some (.data message.channel event (min message.size extendedDataSize)) := by
  -- no identifier is both standard and extended data
  have hevent : id ≠ .channelEvent := by
    rintro rfl
    cases hextended
  have hstandard : dataEvents? id = none := by
    cases id
    case broadcastData | acknowledgedData | burstTransferData => cases hextended
    all_goals rfl
  rw [route?_of_known hpayload hid, routeOf, if_neg hevent, hstandard, hextended]

/-- Data goes to its channel, under the code and with the bytes the wire asks for. -/
theorem route?_of_data {message : Message} {code : UInt8} {length : Nat}
    (hpayload : message.payload ≠ []) (hdata : message.dataDelivery? = some (code, length)) :
    ∃ event, event.value = code ∧
      message.route? = some (.data message.channel event length) := by
  unfold dataDelivery? at hdata
  split at hdata
  next hid =>
    cases hdata
    exact ⟨_, apply_ite EventCode.value _ _ _,
      @route?_standard message .broadcastData _ _ hpayload hid rfl⟩
  next hid =>
    cases hdata
    exact ⟨_, apply_ite EventCode.value _ _ _,
      @route?_standard message .acknowledgedData _ _ hpayload hid rfl⟩
  next hid =>
    cases hdata
    exact ⟨_, apply_ite EventCode.value _ _ _,
      @route?_standard message .burstTransferData _ _ hpayload hid rfl⟩
  next hid =>
    cases hdata
    exact ⟨_, rfl, @route?_extended message .extendedBroadcastData _ hpayload hid rfl⟩
  next hid =>
    cases hdata
    exact ⟨_, rfl, @route?_extended message .extendedAcknowledgedData _ hpayload hid rfl⟩
  next hid =>
    cases hdata
    exact ⟨_, rfl, @route?_extended message .extendedBurstData _ hpayload hid rfl⟩
  next hid =>
    cases hdata
    exact ⟨_, rfl, @route?_of_known message .advancedBurstData hpayload hid⟩
  next => cases hdata

theorem route?_of_channelEvent {message : Message} (hpayload : message.payload ≠ [])
    (hid : message.id = 0x40) :
    message.route? =
      some (if message.byteAt 1 = 1 then .channelEvent message.channel (message.byteAt 2)
        else .response message.channel (message.byteAt 1)) :=
  @route?_of_known message .channelEvent hpayload hid

/-- What is neither a response, nor an event, nor data is an answer or a notification. -/
theorem route?_of_other {message : Message} (hpayload : message.payload ≠ [])
    (hid : message.id ≠ 0x40) (hdata : message.dataDelivery? = none) :
    message.route? = some (.other message.channel message.id) := by
  cases hknown : message.messageId? with
  | none => rw [route?, if_neg hpayload, hknown]
  | some id =>
      have hvalue := messageId?_eq_some_iff.mp hknown
      rw [route?_of_known hpayload hvalue.symm]
      cases id
      case channelEvent => exact absurd hvalue.symm hid
      case broadcastData | acknowledgedData | burstTransferData | advancedBurstData |
          extendedBroadcastData | extendedAcknowledgedData | extendedBurstData =>
        simp [dataDelivery?, ← hvalue, MessageId.value] at hdata
      all_goals rfl

end Message

/-! ## Who is given a message -/

namespace Session

/-- The handler of a slot is due once and finds the data in its buffer. Every other buffer stays as
it is, and without a slot nobody is called. -/
def Delivers (slot? : Option (Slot H β)) (channel code : UInt8) (data : List UInt8)
    (before : Session H β) (call : Option (Invocation H β)) (after : Session H β) : Prop :=
  call = slot?.map (fun slot => ⟨slot, channel, code⟩) ∧
    ∀ buffer, after.buffers.contents buffer =
      if slot?.map Slot.buffer = some buffer then data else before.buffers.contents buffer

/-- What becomes of a message: an event goes to the transfer and its channel's handler, data to its
channel's handler, and everything else to one waiter or, if none takes it, to the response
handler. -/
def RoutedTo (before : Session H β) (message : Message) (call : Option (Invocation H β))
    (after : Session H β) : Prop :=
  let channel := message.byteAt 0 &&& 0x1F
  if message.payload = [] then call = none ∧ after = before
  else if message.id = 0x40 ∧ message.byteAt 1 = 1 then
    after.tracker = before.tracker ∧
      after.transfer = before.transfer.onEvent channel (message.byteAt 2) ∧
      Delivers (before.table.slot? channel) channel (message.byteAt 2) message.payload
        before call after
  else
    after.transfer = before.transfer ∧
      match message.dataDelivery? with
      | some (code, length) =>
          length ≤ message.payload.length ∧ after.tracker = before.tracker ∧
            Delivers (before.table.slot? channel) channel code (message.payload.take length)
              before call after
      | none =>
          let answered := if message.id = 0x40 then message.byteAt 1 else message.id
          (before.tracker.Takes answered channel message after.tracker ∧
              call = none ∧ after.buffers = before.buffers) ∨
            before.tracker.Refuses answered channel ∧ after.tracker = before.tracker ∧
              Delivers before.table.response channel message.id message.payload before call after

variable {session after : Session H β} {call : Option (Invocation H β)} {channel code : UInt8}

theorem delivers_of_deliver {slot? : Option (Slot H β)} {data : List UInt8}
    (hdata : data.length ≤ bufferSize)
    (hdeliver : session.deliver slot? channel code data = (call, after)) :
    after = { session with buffers := after.buffers } ∧
      Delivers slot? channel code data session call after := by
  cases slot? with
  | none =>
      cases hdeliver
      exact ⟨rfl, rfl, fun _ => rfl⟩
  | some slot =>
      cases hdeliver
      refine ⟨rfl, rfl, fun buffer => ?_⟩
      change (session.buffers.fill slot.buffer data).contents buffer = _
      rw [Buffers.contents_fill, List.take_of_length_le hdata]
      simp only [Option.map_some, Option.some.injEq, eq_comm]

/-- An offered message is kept by one waiter or handed to the response handler. -/
theorem offerResponse_cases {messageId : UInt8} {message : Message}
    (hoffer : session.offerResponse messageId channel code message = (call, after)) :
    after = { session with tracker := after.tracker, buffers := after.buffers } ∧
      ((session.tracker.Takes messageId channel message after.tracker ∧
          call = none ∧ after.buffers = session.buffers) ∨
        session.tracker.Refuses messageId channel ∧ after.tracker = session.tracker ∧
          Delivers session.table.response channel code message.payload session call after) := by
  unfold offerResponse at hoffer
  rcases session.tracker.offer_cases messageId channel message with
    ⟨hrefuses, htracker⟩ | ⟨tracker, htakes, htracker⟩
  · rw [htracker] at hoffer
    obtain ⟨hafter, hdelivers⟩ := delivers_of_deliver message.payload_le hoffer
    refine ⟨?_, .inr ⟨hrefuses, ?_, hdelivers⟩⟩
    · rw [hafter]
    · rw [hafter]
  · rw [htracker] at hoffer
    cases hoffer
    exact ⟨rfl, .inl ⟨htakes, rfl, rfl⟩⟩

/-- Routing changes at most the requests, the transfer and the buffers of a session. -/
theorem route_frame (session : Session H β) (message : Message) :
    (session.route message).2 =
      { session with
        tracker := (session.route message).2.tracker
        transfer := (session.route message).2.transfer
        buffers := (session.route message).2.buffers } := by
  generalize hroute : session.route message = result
  obtain ⟨call, after⟩ := result
  unfold route at hroute
  split at hroute
  next =>
    cases hroute
    rfl
  next => rw [(offerResponse_cases hroute).1]
  next => rw [(delivers_of_deliver message.payload_le hroute).1]
  next channel event length _ =>
    have hdata := Nat.le_trans (List.length_take_le' length message.payload) message.payload_le
    rw [(delivers_of_deliver hdata hroute).1]
  next => rw [(offerResponse_cases hroute).1]

section Routed

variable {message : Message}

theorem routedTo_of_event (hpayload : message.payload ≠ []) (hid : message.id = 0x40)
    (hevent : message.byteAt 1 = 1) (hroute : session.route message = (call, after)) :
    RoutedTo session message call after := by
  have hroute? := Message.route?_of_channelEvent hpayload hid
  rw [if_pos hevent] at hroute?
  unfold route at hroute
  simp only [hroute?] at hroute
  obtain ⟨hafter, hdelivers⟩ := delivers_of_deliver message.payload_le hroute
  rw [RoutedTo, if_neg hpayload, if_pos ⟨hid, hevent⟩]
  refine ⟨?_, ?_, hdelivers⟩
  · rw [hafter]
  · rw [hafter]
    rfl

theorem routedTo_of_data {length : Nat} (hpayload : message.payload ≠ [])
    (hdata : message.dataDelivery? = some (code, length))
    (hroute : session.route message = (call, after)) : RoutedTo session message call after := by
  obtain ⟨event, rfl, hroute?⟩ := Message.route?_of_data hpayload hdata
  have hid : message.id ≠ 0x40 := by
    intro hid
    simp [Message.dataDelivery?, hid] at hdata
  have htake := Nat.le_trans (List.length_take_le' length message.payload) message.payload_le
  unfold route at hroute
  simp only [hroute?] at hroute
  obtain ⟨hafter, hdelivers⟩ := delivers_of_deliver htake hroute
  rw [RoutedTo, if_neg hpayload, if_neg fun hboth => hid hboth.1, hdata]
  refine ⟨?_, ?_, ?_, hdelivers⟩
  · rw [hafter]
  · exact Message.dataDelivery?_length_le hdata
  · rw [hafter]

/-- A response, an answer or a notification is offered before the response handler gets it. -/
theorem routedTo_of_offer (hpayload : message.payload ≠ [])
    (hevent : ¬ (message.id = 0x40 ∧ message.byteAt 1 = 1))
    (hdata : message.dataDelivery? = none)
    (hoffer : session.offerResponse
        (if message.id = 0x40 then message.byteAt 1 else message.id) message.channel message.id
        message = (call, after)) : RoutedTo session message call after := by
  obtain ⟨hafter, hcases⟩ := offerResponse_cases hoffer
  rw [RoutedTo, if_neg hpayload, if_neg hevent, hdata]
  refine ⟨?_, hcases⟩
  rw [hafter]

end Routed

/-- Every message reaches at most one consumer, and nothing else of the session changes. -/
theorem route_reaches_one (session : Session H β) (message : Message) :
    RoutedTo session message (session.route message).1 (session.route message).2 ∧
      (session.route message).2 =
        { session with
          tracker := (session.route message).2.tracker
          transfer := (session.route message).2.transfer
          buffers := (session.route message).2.buffers } := by
  refine ⟨?_, session.route_frame message⟩
  by_cases hpayload : message.payload = []
  · have hroute : session.route message = (none, session) := by
      rw [route, Message.route?, if_pos hpayload]
    rw [hroute, RoutedTo, if_pos hpayload]
    exact ⟨rfl, rfl⟩
  · by_cases hid : message.id = 0x40
    · have hroute? := Message.route?_of_channelEvent hpayload hid
      by_cases hevent : message.byteAt 1 = 1
      · exact routedTo_of_event hpayload hid hevent rfl
      · rw [if_neg hevent] at hroute?
        apply routedTo_of_offer hpayload (fun hboth => hevent hboth.2)
        · simp [Message.dataDelivery?, hid]
        · rw [if_pos hid, route, hroute?, hid]
          rfl
    · cases hdata : message.dataDelivery? with
      | some delivery => exact routedTo_of_data hpayload hdata rfl
      | none =>
          apply routedTo_of_offer hpayload (fun hboth => hid hboth.1) hdata
          rw [if_neg hid, route, Message.route?_of_other hpayload hid hdata]

end Session

end AntHost
