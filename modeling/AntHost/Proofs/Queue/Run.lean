import AntHost.Proofs.Queue.Tap
import AntHost.Proofs.Replay
/-!
# Queued events

What a receiver gets out of a queue on a channel, over every run. Each step can be taken, and
answers, as the history of the run alone says; every event the queue took is either received or
still waiting.
-/

namespace AntHost

variable {H β : Type}

namespace TapLog

theorem called_append (log later : TapLog H β) :
    called (log ++ later) = log.called ++ later.called := List.filterMap_append

theorem handled_append (log later : TapLog H β) :
    handled (log ++ later) = log.handled ++ later.handled := List.filterMap_append

theorem accepted_append (log later : TapLog H β) :
    accepted (log ++ later) = log.accepted ++ later.accepted := List.filterMap_append

theorem received_append (log later : TapLog H β) :
    received (log ++ later) = log.received ++ later.received := List.filterMap_append

theorem receiverDropped_append (log later : TapLog H β) :
    receiverDropped (log ++ later) = (log.receiverDropped || later.receiverDropped) :=
  List.any_append

/-- What the queue took, next to what its handler was called for. -/
structure Accounted (channel : UInt8) (capacity : Nat) (log : TapLog H β) : Prop where
  /-- The handler is called for messages with an event on its channel. -/
  within : ∀ message ∈ log.called, ∃ event ∈ message.event?, event.channel = channel
  /-- The queue takes their events in the order of their turns, none of them twice. -/
  inOrder : log.accepted.Sublist (log.handled.filterMap Message.event?)
  /-- As many as it can hold it takes all, while the receiver is there. -/
  spared : log.receiverDropped = false → log.handled.length ≤ max 1 capacity →
    log.accepted = log.handled.filterMap Message.event?

namespace Accounted

variable {channel : UInt8} {capacity : Nat} {log : TapLog H β}

/-- A step that leaves no message, no turn and no taken event changes nothing of the accounts. -/
theorem quiet (haccounted : Accounted channel capacity log) {later : TapLog H β}
    (hcalled : later.called = []) (hhandled : later.handled = [])
    (haccepted : later.accepted = []) :
    Accounted channel capacity (log ++ later) := by
  constructor
  case within => simpa [called_append, hcalled] using haccounted.within
  case inOrder =>
    simpa [accepted_append, handled_append, hhandled, haccepted] using haccounted.inOrder
  case spared =>
    simp only [receiverDropped_append, accepted_append, handled_append, hhandled, haccepted,
      List.append_nil, Bool.or_eq_false_iff]
    exact fun hreceiver => haccounted.spared hreceiver.1

theorem route (haccounted : Accounted channel capacity log) (message : Message) :
    Accounted channel capacity
      (log ++ [(.route message, .routed (log.Calls channel message))]) := by
  by_cases hcalls : log.Calls channel message
  · constructor
    case within =>
      intro earlier hcalled
      rw [called_append, List.mem_append] at hcalled
      rcases hcalled with hbefore | hnow
      · exact haccounted.within earlier hbefore
      · simp only [called, hcalls, decide_true, List.filterMap_cons, List.filterMap_nil,
          List.mem_singleton] at hnow
        subst hnow
        exact hcalls.2
    case inOrder => simpa [accepted, handled] using haccounted.inOrder
    case spared => simpa [accepted, handled, receiverDropped] using haccounted.spared
  · exact haccounted.quiet (by simp [called, hcalls]) rfl rfl

theorem handle (haccounted : Accounted channel capacity log) {message : Message}
    (hturn : log.called = log.handled ++ [message]) :
    Accounted channel capacity
      (log ++ [(.handle message, .handled (log.HasRoom capacity))]) := by
  obtain ⟨event, hevent, -⟩ := haccounted.within message (by simp [hturn])
  have hevents : (log.handled ++ [message]).filterMap Message.event? =
      log.handled.filterMap Message.event? ++ [event] := by
    simp [Option.mem_def.mp hevent]
  have hhandled : handled (log ++ [(.handle message, .handled (log.HasRoom capacity))]) =
      log.handled ++ [message] := by
    simp [handled]
  have hreceiver : receiverDropped (log ++ [(.handle message, .handled (log.HasRoom capacity))]) =
      log.receiverDropped := by
    simp [receiverDropped]
  have hwithin : ∀ earlier ∈ called (log ++ [(.handle message, .handled (log.HasRoom capacity))]),
      ∃ event ∈ earlier.event?, event.channel = channel := by
    simpa [called] using haccounted.within
  by_cases hroom : log.HasRoom capacity
  · have haccepted : accepted (log ++ [(.handle message, .handled (log.HasRoom capacity))]) =
        log.accepted ++ [event] := by
      simp [accepted, hroom, Option.mem_def.mp hevent]
    refine ⟨hwithin, ?_, ?_⟩
    · rw [haccepted, hhandled, hevents]
      exact haccounted.inOrder.append_right [event]
    · rw [haccepted, hhandled, hevents, hreceiver, List.length_append]
      intro halive hle
      rw [haccounted.spared halive (Nat.le_of_add_right_le hle)]
  · have haccepted : accepted (log ++ [(.handle message, .handled (log.HasRoom capacity))]) =
        log.accepted := by
      simp [accepted, hroom]
    refine ⟨hwithin, ?_, ?_⟩
    · rw [haccepted, hhandled, hevents]
      exact haccounted.inOrder.trans (List.sublist_append_left _ _)
    · -- a queue that refuses has taken as many events as it can hold, each in a turn of its own
      rw [hhandled, hreceiver, List.length_append, List.length_singleton]
      intro halive hle
      have hfull : log.received.length + max 1 capacity ≤ log.accepted.length :=
        Nat.not_lt.mp fun hlt => hroom ⟨halive, hlt⟩
      have htaken := haccounted.inOrder.length_le
      have hturns := List.length_filterMap_le Message.event? log.handled
      omega

/-- What the history asks for keeps the accounts. -/
theorem step {H : Type} [DecidableEq H] {log : TapLog H β} {handler : H} {event : TapEvent H β}
    (haccounted : Accounted channel capacity log) (hallows : log.Allows handler event) :
    Accounted channel capacity (log ++ [(event, log.answer channel capacity event)]) := by
  cases event with
  | route message => exact haccounted.route message
  | handle message => exact haccounted.handle hallows
  | receive => exact haccounted.quiet rfl rfl rfl
  | dropReceiver => exact haccounted.quiet rfl rfl rfl
  | dropHandler table => exact haccounted.quiet rfl rfl rfl
  | use session => exact haccounted.quiet rfl rfl rfl

end Accounted

end TapLog

theorem EventQueue.receive_queue (queue : EventQueue) :
    queue.receive.2 = { queue with events := queue.events.tail } := by
  obtain ⟨capacity, events, senderAlive, receiverAlive⟩ := queue
  cases events <;> rfl

variable [DecidableEq H] [DecidableEq β]

namespace Tap

/-- A queue as the history of its run leaves it. -/
structure Kept (channel : UInt8) (slot : Slot H β) (capacity : Nat) (log : TapLog H β)
    (tap : Tap H β) : Prop where
  capacity : tap.queue.capacity = max 1 capacity
  /-- What the queue took is what was received and what is waiting. -/
  conserved : log.accepted = log.received ++ tap.queue.events
  receiver : tap.queue.receiverAlive = !log.receiverDropped
  sender : tap.queue.senderAlive = (!log.handlerDropped || tap.turn.isSome)
  seats : ∀ other, tap.session.table.seat? slot.handler other =
    if log.handlerDropped = false ∧ other = channel then some slot else none
  response : ∀ other, tap.session.table.response = some other → other.handler ≠ slot.handler
  called : log.called = log.handled ++ (tap.turn.map Prod.fst).toList
  /-- In its turn the handler finds the bytes of its own message. -/
  turn : ∀ message call, tap.turn = some (message, call) → ∃ event,
    message.event? = some event ∧ event.channel = channel ∧
      call = ⟨slot, event.channel, event.event⟩ ∧
        tap.session.buffers.contents slot.buffer = event.data

namespace Kept

variable {channel : UInt8} {slot : Slot H β} {capacity : Nat} {log : TapLog H β}
  {tap next : Tap H β}

theorem lacks_iff (hkept : Kept channel slot capacity log tap) :
    tap.session.table.Lacks slot.handler ↔ log.handlerDropped = true := by
  rw [DispatchTable.lacks_iff]
  constructor
  · rintro ⟨hseats, -⟩
    have hseat := hseats channel
    rw [hkept.seats channel] at hseat
    simpa using hseat
  · intro hdropped
    refine ⟨fun other => ?_, hkept.response⟩
    rw [hkept.seats other, hdropped, if_neg fun hboth => nomatch hboth.1]

theorem turn_eq_none_iff (hkept : Kept channel slot capacity log tap) :
    tap.turn = none ↔ log.called = log.handled := by
  rw [hkept.called]
  cases tap.turn <;> simp

theorem turn_message (hkept : Kept channel slot capacity log tap) {message : Message}
    {call : Invocation H β} (hturn : tap.turn = some (message, call)) :
    log.called = log.handled ++ [message] := by
  rw [hkept.called, hturn]
  rfl

theorem slot_of_installed (hkept : Kept channel slot capacity log tap)
    (hinstalled : log.handlerDropped = false) :
    tap.session.table.slot? channel = some slot := by
  have hseat := hkept.seats channel
  rw [if_pos ⟨hinstalled, rfl⟩] at hseat
  exact (Option.filter_eq_some_iff.mp hseat).1

/-- The handler gets its turn with the messages that have an event on its channel. -/
theorem route_turn (hkept : Kept channel slot capacity log tap) (message : Message) :
    (tap.route slot.handler message).turn =
      if log.Calls channel message then
        message.event?.map fun event => (message, ⟨slot, event.channel, event.event⟩)
      else none := by
  change Option.map _ (Option.filter _ (tap.session.route message).1) = _
  rw [Session.filter_route hkept.response]
  cases hevent : message.event? with
  | none => simp
  | some event =>
      have hcalls : log.Calls channel message ↔
          log.handlerDropped = false ∧ event.channel = channel := by
        simp [TapLog.Calls, hevent]
      simp only [Option.bind_some, hkept.seats, hcalls]
      split <;> rfl

/-- In the handler's turn the queue takes the event of its message, if it has room for it. -/
theorem record_turn (hkept : Kept channel slot capacity log tap) {message : Message}
    {call : Invocation H β} (hturn : tap.turn = some (message, call)) :
    ∃ event, message.event? = some event ∧
      tap.queue.record call tap.session.buffers =
        (decide (log.HasRoom capacity),
          { tap.queue with
            events := tap.queue.events ++ if log.HasRoom capacity then [event] else [] }) := by
  obtain ⟨event, hevent, -, rfl, hdata⟩ := hkept.turn message call hturn
  have hroom : tap.queue.receiverAlive ∧ tap.queue.events.length < tap.queue.capacity ↔
      log.HasRoom capacity := by
    rw [TapLog.HasRoom, hkept.receiver, hkept.conserved, hkept.capacity, List.length_append,
      Nat.add_lt_add_iff_left, Bool.not_eq_true']
  refine ⟨event, hevent, ?_⟩
  simp only [EventQueue.record, EventQueue.offer, hdata, hroom]
  by_cases hholds : log.HasRoom capacity
  · simp only [hholds, if_true, decide_true]
  · simp only [hholds, if_false, decide_false, List.append_nil]

theorem receive_found (hkept : Kept channel slot capacity log tap) :
    tap.queue.receive.1 = log.found := by
  have hnext : log.accepted[log.received.length]? = tap.queue.events.head? := by
    rw [hkept.conserved, List.getElem?_append_right (Nat.le_refl _), Nat.sub_self,
      List.head?_eq_getElem?]
  rw [TapLog.found, hnext, EventQueue.receive]
  cases tap.queue.events with
  | cons event rest => rfl
  | nil =>
      -- nothing waits: the receiver is told whether anything can still come
      have hgone : tap.queue.senderAlive = false ↔
          log.handlerDropped ∧ log.called = log.handled := by
        rw [hkept.sender, ← hkept.turn_eq_none_iff]
        cases log.handlerDropped <;> simp
      by_cases halive : tap.queue.senderAlive
      · simp [halive, ← hgone]
      · simp [halive, ← hgone]

theorem handle_answer (hkept : Kept channel slot capacity log tap) {message : Message}
    {call : Invocation H β} (hturn : tap.turn = some (message, call)) :
    (tap.handle slot.handler call).1 = decide (log.HasRoom capacity) := by
  obtain ⟨event, -, hrecord⟩ := hkept.record_turn hturn
  rw [handle, hrecord]

/-- What a step answers depends on the history alone, and so does whether it can be taken. -/
theorem step_iff (hkept : Kept channel slot capacity log tap) (event : TapEvent H β)
    (answer : TapAnswer) :
    (∃ next, tap.step slot.handler event = some (answer, next)) ↔
      log.Allows slot.handler event ∧ answer = log.answer channel capacity event := by
  cases event with
  | route message =>
      have hanswer : (tap.route slot.handler message).turn.isSome =
          decide (log.Calls channel message) := by
        rw [hkept.route_turn]
        split
        next hcalls =>
          obtain ⟨event, hevent, -⟩ := hcalls.2
          simp [Option.mem_def.mp hevent, hcalls]
        next hcalls => simp [hcalls]
      simp only [step, TapLog.Allows, TapLog.answer, ← hkept.turn_eq_none_iff, ← hanswer]
      cases tap.turn with
      | none => simp [eq_comm]
      | some turn => simp
  | handle message =>
      simp only [step, TapLog.Allows, TapLog.answer]
      cases hturn : tap.turn with
      | none => simp [hkept.turn_eq_none_iff.mp hturn]
      | some turn =>
          obtain ⟨current, call⟩ := turn
          simp only [hkept.turn_message hturn, ← hkept.handle_answer hturn]
          by_cases hcurrent : current = message
          · simp [hcurrent, eq_comm]
          · simp [hcurrent]
  | receive =>
      simp only [step, TapLog.Allows, TapLog.answer, hkept.receiver, ← hkept.receive_found]
      cases log.receiverDropped <;> simp [eq_comm]
  | dropReceiver =>
      simp only [step, TapLog.Allows, TapLog.answer, hkept.receiver]
      cases log.receiverDropped <;> simp [eq_comm]
  | dropHandler table =>
      simp only [step, TapLog.Allows, TapLog.answer, hkept.lacks_iff]
      by_cases hdrop : table.Lacks slot.handler ∧ ¬ log.handlerDropped = true
      · rw [if_pos hdrop]
        simp [hdrop, eq_comm]
      · rw [if_neg hdrop]
        simp only [reduceCtorEq, exists_false, false_iff]
        rintro ⟨⟨hinstalled, hlacks⟩, -⟩
        exact hdrop ⟨hlacks, by simp [hinstalled]⟩
  | use session => simp [step, TapLog.Allows, TapLog.answer, eq_comm]

/-! ## What a step keeps -/

theorem route (hkept : Kept channel slot capacity log tap) (hidle : tap.turn = none)
    (message : Message) :
    Kept channel slot capacity
      (log ++ [(.route message, .routed (log.Calls channel message))])
      (tap.route slot.handler message) := by
  have hturn := hkept.route_turn message
  have hdropped : TapLog.handlerDropped
      (log ++ [(.route message, .routed (log.Calls channel message))]) = log.handlerDropped := by
    simp [TapLog.handlerDropped]
  constructor
  case capacity => exact hkept.capacity
  case conserved => simpa [TapLog.accepted, TapLog.received] using hkept.conserved
  case receiver => simpa [TapLog.receiverDropped] using hkept.receiver
  case sender =>
    have hsender := hkept.sender
    rw [hidle] at hsender
    rw [route_queue, hsender, hdropped, hturn]
    -- a handler that was replaced is not called any more
    by_cases hcalls : log.Calls channel message
    · simp [hcalls.1]
    · simp [hcalls]
  case seats => rw [hdropped, route_table]; exact hkept.seats
  case response => rw [route_table]; exact hkept.response
  case called =>
    have hcalled := hkept.turn_eq_none_iff.mp hidle
    rw [TapLog.called_append, TapLog.handled_append, hcalled, hturn]
    by_cases hcalls : log.Calls channel message
    · obtain ⟨event, hevent, -⟩ := hcalls.2
      simp [TapLog.called, TapLog.handled, hcalls, Option.mem_def.mp hevent]
    · simp [TapLog.called, TapLog.handled, hcalls]
  case turn =>
    intro current call hcurrent
    rw [hturn] at hcurrent
    split at hcurrent
    next hcalls =>
      obtain ⟨event, hevent, hpair⟩ := Option.map_eq_some_iff.mp hcurrent
      cases hpair
      obtain ⟨_, hmember, hchannel⟩ := hcalls.2
      cases hevent.symm.trans hmember
      -- routing has just filled the buffer of the one slot that holds the handler
      have hslot := hkept.slot_of_installed hcalls.1
      refine ⟨event, hevent, hchannel, rfl, ?_⟩
      rw [← hchannel] at hslot
      refine ((Session.delivers_of_event hevent).2 slot.buffer).trans (if_pos ?_)
      rw [hslot, Option.map_some]
    next => cases hcurrent

theorem handle (hkept : Kept channel slot capacity log tap) {message : Message}
    {call : Invocation H β} (hturn : tap.turn = some (message, call)) :
    Kept channel slot capacity (log ++ [(.handle message, .handled (log.HasRoom capacity))])
      (tap.handle slot.handler call).2 := by
  obtain ⟨event, hevent, hrecord⟩ := hkept.record_turn hturn
  have hqueue : (tap.handle slot.handler call).2.queue =
      { tap.queue with
        events := tap.queue.events ++ if log.HasRoom capacity then [event] else []
        senderAlive := !log.handlerDropped } := by
    -- during the turn the sender is there; afterwards only the session's table can still hold it
    have hsender := hkept.sender
    rw [hturn] at hsender
    rw [Tap.handle, hrecord]
    simp only [hkept.lacks_iff]
    cases hdropped : log.handlerDropped <;> simp [hsender, EventQueue.dropSender]
  have hdropped : TapLog.handlerDropped
      (log ++ [(.handle message, .handled (log.HasRoom capacity))]) = log.handlerDropped := by
    simp [TapLog.handlerDropped]
  constructor
  case capacity => rw [hqueue]; exact hkept.capacity
  case conserved =>
    rw [hqueue, TapLog.accepted_append, TapLog.received_append, hkept.conserved]
    by_cases hroom : log.HasRoom capacity
    · simp [TapLog.accepted, TapLog.received, hroom, hevent]
    · simp [TapLog.accepted, TapLog.received, hroom]
  case receiver =>
    rw [hqueue]
    simpa [TapLog.receiverDropped] using hkept.receiver
  case sender => rw [handle_turn]; simp [hqueue, hdropped]
  case seats => rw [hdropped]; exact hkept.seats
  case response => exact hkept.response
  case called =>
    rw [TapLog.called_append, TapLog.handled_append, hkept.turn_message hturn, handle_turn]
    simp [TapLog.called, TapLog.handled]
  case turn => rw [handle_turn]; simp

theorem receive (hkept : Kept channel slot capacity log tap) :
    Kept channel slot capacity (log ++ [(.receive, .received log.found)])
      { tap with queue := tap.queue.receive.2 } := by
  have hdropped : TapLog.handlerDropped (log ++ [(.receive, .received log.found)]) =
      log.handlerDropped := by
    simp [TapLog.handlerDropped]
  have hqueue := tap.queue.receive_queue
  constructor
  case capacity => rw [hqueue]; exact hkept.capacity
  case conserved =>
    rw [hqueue, TapLog.accepted_append, TapLog.received_append, ← hkept.receive_found,
      hkept.conserved, EventQueue.receive]
    cases tap.queue.events with
    | nil => cases tap.queue.senderAlive <;> simp [TapLog.accepted, TapLog.received]
    | cons event rest => simp [TapLog.accepted, TapLog.received]
  case receiver =>
    rw [hqueue]
    simpa [TapLog.receiverDropped] using hkept.receiver
  case sender =>
    rw [hqueue, hdropped]
    exact hkept.sender
  case seats => rw [hdropped]; exact hkept.seats
  case response => exact hkept.response
  case called => simpa [TapLog.called, TapLog.handled] using hkept.called
  case turn => exact hkept.turn

theorem dropReceiver (hkept : Kept channel slot capacity log tap) :
    Kept channel slot capacity (log ++ [(.dropReceiver, .done)])
      { tap with queue := tap.queue.dropReceiver } := by
  have hdropped : TapLog.handlerDropped (log ++ [(.dropReceiver, .done)]) =
      log.handlerDropped := by
    simp [TapLog.handlerDropped]
  constructor
  case capacity => exact hkept.capacity
  case conserved =>
    simpa [TapLog.accepted, TapLog.received, EventQueue.dropReceiver] using hkept.conserved
  case receiver => simp [EventQueue.dropReceiver, TapLog.receiverDropped]
  case sender => rw [hdropped]; exact hkept.sender
  case seats => rw [hdropped]; exact hkept.seats
  case response => exact hkept.response
  case called => simpa [TapLog.called, TapLog.handled] using hkept.called
  case turn => exact hkept.turn

theorem dropHandler (hkept : Kept channel slot capacity log tap) {table : DispatchTable H β}
    (hlacks : table.Lacks slot.handler) :
    Kept channel slot capacity (log ++ [(.dropHandler table, .done)])
      (tap.replaceHandlers table) := by
  obtain ⟨hseats, hresponse⟩ := DispatchTable.lacks_iff.mp hlacks
  have hdropped : TapLog.handlerDropped (log ++ [(.dropHandler table, .done)]) = true := by
    simp [TapLog.handlerDropped]
  have hqueue : (tap.replaceHandlers table).queue =
      { tap.queue with senderAlive := tap.turn.isSome } := by
    have hsender := hkept.sender
    cases hturn : tap.turn with
    | none => simp [replaceHandlers, hturn, EventQueue.dropSender]
    | some turn =>
        simp only [replaceHandlers, hturn, Option.isSome_some, if_true]
        rw [hturn, Option.isSome_some, Bool.or_true] at hsender
        rw [← hsender]
  constructor
  case capacity => rw [hqueue]; exact hkept.capacity
  case conserved =>
    rw [hqueue]
    simpa [TapLog.accepted, TapLog.received] using hkept.conserved
  case receiver =>
    rw [hqueue]
    simpa [TapLog.receiverDropped] using hkept.receiver
  case sender =>
    rw [hqueue, hdropped]
    rfl
  case seats =>
    intro other
    rw [hdropped, if_neg fun hboth => nomatch hboth.1]
    exact hseats other
  case response => exact hresponse
  case called =>
    rw [replaceHandlers_turn]
    simpa [TapLog.called, TapLog.handled] using hkept.called
  case turn => exact hkept.turn

theorem use (hkept : Kept channel slot capacity log tap) (session : Session H β) :
    Kept channel slot capacity (log ++ [(.use session, .done)])
      { tap with
        session := { session with
          table := tap.session.table, buffers := tap.session.buffers } } := by
  have hdropped : TapLog.handlerDropped (log ++ [(.use session, .done)]) = log.handlerDropped := by
    simp [TapLog.handlerDropped]
  constructor
  case capacity => exact hkept.capacity
  case conserved => simpa [TapLog.accepted, TapLog.received] using hkept.conserved
  case receiver => simpa [TapLog.receiverDropped] using hkept.receiver
  case sender => rw [hdropped]; exact hkept.sender
  case seats => rw [hdropped]; exact hkept.seats
  case response => exact hkept.response
  case called => simpa [TapLog.called, TapLog.handled] using hkept.called
  case turn => exact hkept.turn

/-- A step leaves the queue as the longer history says. -/
theorem step (hkept : Kept channel slot capacity log tap) {event : TapEvent H β}
    {answer : TapAnswer} (hstep : tap.step slot.handler event = some (answer, next)) :
    Kept channel slot capacity (log ++ [(event, answer)]) next := by
  obtain ⟨-, hanswer⟩ := (hkept.step_iff event answer).mp ⟨next, hstep⟩
  cases event with
  | route message =>
      simp only [Tap.step] at hstep
      split at hstep
      next => cases hstep
      next hidle =>
        cases hstep
        rw [hanswer]
        exact hkept.route (by simpa using hidle) message
  | handle message =>
      simp only [Tap.step] at hstep
      split at hstep
      next => cases hstep
      next current call hturn =>
        split at hstep
        next hcurrent =>
          cases hstep
          rw [hanswer]
          exact hkept.handle (hcurrent ▸ hturn)
        next => cases hstep
  | receive =>
      simp only [Tap.step] at hstep
      split at hstep
      next =>
        cases hstep
        rw [hanswer]
        exact hkept.receive
      next => cases hstep
  | dropReceiver =>
      simp only [Tap.step] at hstep
      split at hstep
      next =>
        cases hstep
        exact hkept.dropReceiver
      next => cases hstep
  | dropHandler table =>
      simp only [Tap.step] at hstep
      split at hstep
      next hlacks =>
        cases hstep
        exact hkept.dropHandler hlacks.1
      next => cases hstep
  | use session =>
      cases hstep
      exact hkept.use session

theorem start {session : Session H β} (hchannel : channel.toNat < maxChannels)
    (hlacks : session.table.Lacks slot.handler) :
    Kept channel slot capacity [] (start session channel slot capacity) where
  capacity := rfl
  conserved := rfl
  receiver := rfl
  sender := rfl
  seats other :=
    (DispatchTable.seat?_assign hlacks hchannel other).trans (by simp [TapLog.handlerDropped])
  response := (DispatchTable.lacks_iff.mp hlacks).2
  called := rfl
  turn _ _ hturn := nomatch hturn

end Kept

/-! ## Runs -/

variable {channel : UInt8} {slot : Slot H β} {capacity : Nat} {session : Session H β}
  {events : List (TapEvent H β)} {log : TapLog H β} {last : Tap H β}

theorem kept_of_run (hchannel : channel.toNat < maxChannels)
    (hlacks : session.table.Lacks slot.handler)
    (hrun : replay (step slot.handler) (start session channel slot capacity) events =
      some (log, last)) :
    Kept channel slot capacity log last ∧ log.Accounted channel capacity := by
  apply replay_invariant ?_ ?_ hrun
  · exact ⟨.start hchannel hlacks, nofun, List.Sublist.refl _, fun _ _ => rfl⟩
  · rintro earlier middle event answer next ⟨hkept, haccounted⟩ hstep
    obtain ⟨hallows, rfl⟩ := (hkept.step_iff event answer).mp ⟨next, hstep⟩
    exact ⟨hkept.step hstep, haccounted.step hallows⟩

/-- The handler of a queue on a channel of a session that did not know it yet: after every run,
what can happen next and what it answers is what the history says. The handler is called for the
messages with an event on its channel, it refuses an event exactly if the receiver is gone or the
queue is full, and a receiver finds the accepted events in order, each with the channel, the code
and the bytes of its own message, before it finds the handler gone. -/
theorem run_queues (hchannel : channel.toNat < maxChannels)
    (hlacks : session.table.Lacks slot.handler)
    (hrun : replay (step slot.handler) (start session channel slot capacity) events =
      some (log, last)) :
    (∀ event answer, (∃ next, last.step slot.handler event = some (answer, next)) ↔
        log.Allows slot.handler event ∧ answer = log.answer channel capacity event) ∧
      log.Accounted channel capacity ∧ log.handled <+: log.called ∧
        log.received <+: log.accepted := by
  obtain ⟨hkept, haccounted⟩ := kept_of_run hchannel hlacks hrun
  refine ⟨hkept.step_iff, haccounted, ?_, ?_⟩
  · rw [hkept.called]
    exact List.prefix_append _ _
  · rw [hkept.conserved]
    exact List.prefix_append _ _

/-- A queue with room for one event refuses the second message, which overwrites the buffer while
the handlers are replaced; the receiver finds the first event as it was, and then the handler
gone. -/
theorem run_queues_of_overwritten :
    let first : Message := ⟨0x4E, [0, 1, 2, 3, 4, 5, 6, 7, 8], by decide⟩
    let elsewhere : Message := ⟨0x4E, [1, 1, 2, 3, 4, 5, 6, 7, 8], by decide⟩
    let second : Message := ⟨0x40, [0, 1, 3], by decide⟩
    let session : Session Unit Unit := .start {}
    let log : TapLog Unit Unit :=
      [(.route first, .routed true), (.handle first, .handled true),
        (.route elsewhere, .routed false), (.route second, .routed true),
        (.dropHandler {}, .done), (.handle second, .handled false),
        (.receive, .received (.event ⟨0, 0x9A, [0, 1, 2, 3, 4, 5, 6, 7, 8]⟩))]
    ∃ last, session.table.Lacks () ∧
      replay (step ()) (start session 0 ⟨(), ()⟩ 0) (log.map Prod.fst) = some (log, last) ∧
        ∃ next, last.step () .receive = some (.received .closed, next) := by
  intro first elsewhere second session log
  have hlacks : session.table.Lacks () := by decide
  have hlog : (replay (step ()) (start session 0 ⟨(), ()⟩ 0) (log.map Prod.fst)).map Prod.fst =
      some log := by
    simp only [log, first, elsewhere, second, session]
    rfl
  obtain ⟨⟨_, last⟩, hrun, rfl⟩ := Option.map_eq_some_iff.mp hlog
  refine ⟨last, hlacks, hrun, ?_⟩
  exact ((run_queues (by decide) hlacks hrun).1 .receive (.received .closed)).mpr ⟨rfl, by decide⟩

end Tap

end AntHost
