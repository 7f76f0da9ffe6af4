import AntHost.Proofs.Session.Delivery
/-!
# A queue on a channel

A session with the handler of a queue on one of its channels, as its threads see it: the router
routes messages and runs the handler, a receiver takes events out of the queue, and either end can
be given up at any time. Between the filling of the buffer and the handler's turn other threads may
go on; the handler's look at the buffer and its offer to the queue are one step, because only the
router's own thread fills buffers.
-/

namespace AntHost

/-! ## Who calls a handler -/

namespace DispatchTable

variable {H β : Type}

theorem mem_slots_iff {table : DispatchTable H β} {slot : Slot H β} :
    slot ∈ table.slots ↔ (∃ channel, table.slot? channel = some slot) ∨
      table.response = some slot := by
  have hchannels : slot ∈ table.channels.toList.filterMap id ↔
      ∃ channel, table.slot? channel = some slot := by
    simp only [List.mem_filterMap, id, exists_eq_right, slot?, Option.join_eq_some_iff]
    constructor
    · intro hmem
      obtain ⟨index, hindex, hslot⟩ := List.getElem_of_mem hmem
      rw [Vector.length_toList] at hindex
      -- a slot's channel is its index in the table
      have hbyte : index < UInt8.size := Nat.lt_trans hindex (by decide)
      refine ⟨.ofNat index, ?_⟩
      rw [UInt8.toNat_ofNat_of_lt' hbyte, ← hslot, Vector.getElem_toList]
      exact Vector.getElem?_eq_getElem _
    · rintro ⟨channel, hslot⟩
      exact Vector.mem_toList_iff.mpr (Vector.mem_of_getElem? hslot)
  rw [slots, List.mem_append, hchannels, Option.mem_toList]

/-- No slot calls this handler. -/
def Lacks (table : DispatchTable H β) (handler : H) : Prop :=
  ∀ slot ∈ table.slots, slot.handler ≠ handler

variable [DecidableEq H]

instance (table : DispatchTable H β) (handler : H) : Decidable (table.Lacks handler) :=
  inferInstanceAs (Decidable (∀ slot ∈ table.slots, slot.handler ≠ handler))

/-- The slot of a channel, if it calls this handler. -/
def seat? (table : DispatchTable H β) (handler : H) (channel : UInt8) : Option (Slot H β) :=
  (table.slot? channel).filter fun slot => slot.handler = handler

theorem lacks_iff {table : DispatchTable H β} {handler : H} :
    table.Lacks handler ↔ (∀ channel, table.seat? handler channel = none) ∧
      ∀ slot, table.response = some slot → slot.handler ≠ handler := by
  simp only [Lacks, mem_slots_iff, seat?, Option.filter_eq_none_iff, decide_eq_true_eq]
  constructor
  · intro hlacks
    exact ⟨fun channel slot hslot => hlacks slot (.inl ⟨channel, hslot⟩),
      fun slot hslot => hlacks slot (.inr hslot)⟩
  · rintro ⟨hseats, hresponse⟩ slot (⟨channel, hslot⟩ | hslot)
    · exact hseats channel slot hslot
    · exact hresponse slot hslot

/-- A handler that is given its first slot is called by that slot alone. -/
theorem seat?_assign {table : DispatchTable H β} {slot : Slot H β} {channel : UInt8}
    (hlacks : table.Lacks slot.handler) (hchannel : channel.toNat < maxChannels) (other : UInt8) :
    (table.assign channel slot).seat? slot.handler other =
      if other = channel then some slot else none := by
  rw [seat?, slot?_assign table slot hchannel]
  split
  next => simp
  next => exact (lacks_iff.mp hlacks).1 other

end DispatchTable

variable {H β : Type} [DecidableEq H] [DecidableEq β]

/-- The messages that call a handler are those with an event for one of its seats. -/
theorem Session.filter_route {session : Session H β} {handler : H}
    (hresponse : ∀ slot, session.table.response = some slot → slot.handler ≠ handler)
    (message : Message) :
    ((session.route message).1.filter fun call => call.slot.handler = handler) =
      message.event?.bind fun event => (session.table.seat? handler event.channel).map fun slot =>
        ⟨slot, event.channel, event.event⟩ := by
  cases hevent : message.event? with
  | some event =>
      rw [(delivers_of_event hevent).1, Option.bind_some, DispatchTable.seat?, Option.filter_map]
      rfl
  | none =>
      rw [Option.bind_none, Option.filter_eq_none_iff]
      intro call hcall
      simpa using hresponse call.slot (responds_of_no_event hevent hcall)

/-! ## The steps -/

/-- A session and the queue behind one of its handlers. -/
structure Tap (H β : Type) where
  session : Session H β
  queue : EventQueue
  /-- The message the router calls the handler for, and the call. -/
  turn : Option (Message × Invocation H β) := none

inductive TapEvent (H β : Type) where
  /-- The router routes a message, up to the call of a handler. -/
  | route (message : Message)
  /-- The handler runs, called for this message. -/
  | handle (message : Message)
  | receive
  | dropReceiver
  /-- The session's handlers are replaced by others. -/
  | dropHandler (table : DispatchTable H β)
  /-- The calls of other threads make this of the session, handlers and buffers apart. -/
  | use (session : Session H β)

inductive TapAnswer where
  /-- Whether the handler is called. -/
  | routed (called : Bool)
  /-- What the handler returns. -/
  | handled (accepted : Bool)
  | received (found : Received)
  | done
deriving DecidableEq, Repr

namespace Tap

/-- The handler of a queue is installed together with its buffer. -/
def start (session : Session H β) (channel : UInt8) (slot : Slot H β) (capacity : Nat) : Tap H β :=
  { session := { session with table := session.table.assign channel slot }
    queue := .ofCapacity capacity }

def route (handler : H) (tap : Tap H β) (message : Message) : Tap H β :=
  let (call, session) := tap.session.route message
  let turn := (call.filter fun call => call.slot.handler = handler).map fun call => (message, call)
  { tap with session, turn }

@[simp] theorem route_queue (handler : H) (tap : Tap H β) (message : Message) :
    (tap.route handler message).queue = tap.queue := rfl

@[simp] theorem route_table (handler : H) (tap : Tap H β) (message : Message) :
    (tap.route handler message).session.table = tap.session.table :=
  Session.route_table tap.session message

/-- The handler's turn. If it was replaced in the meantime, nobody holds it any more. -/
def handle (handler : H) (tap : Tap H β) (call : Invocation H β) : Bool × Tap H β :=
  let (accepted, queue) := tap.queue.record call tap.session.buffers
  let queue := if tap.session.table.Lacks handler then queue.dropSender else queue
  (accepted, { tap with queue, turn := none })

theorem handle_turn (handler : H) (tap : Tap H β) (call : Invocation H β) :
    (tap.handle handler call).2.turn = none := rfl

/-- Replaces the session's handlers. While the handler has its turn, the router holds it. -/
def replaceHandlers (tap : Tap H β) (table : DispatchTable H β) : Tap H β :=
  { tap with
    session := { tap.session with table }
    queue := if tap.turn.isSome then tap.queue else tap.queue.dropSender }

omit [DecidableEq H] [DecidableEq β] in
theorem replaceHandlers_turn (tap : Tap H β) (table : DispatchTable H β) :
    (tap.replaceHandlers table).turn = tap.turn := rfl

/-- The router routes when no handler has its turn; the ends of the queue are given up once. -/
def step (handler : H) (tap : Tap H β) : TapEvent H β → Option (TapAnswer × Tap H β)
  | .route message =>
      if tap.turn.isSome then none
      else
        let tap := tap.route handler message
        some (.routed tap.turn.isSome, tap)
  | .handle message =>
      match tap.turn with
      | none => none
      | some (current, call) =>
          if current = message then
            let (accepted, tap) := tap.handle handler call
            some (.handled accepted, tap)
          else none
  | .receive =>
      if tap.queue.receiverAlive then
        let (found, queue) := tap.queue.receive
        some (.received found, { tap with queue })
      else none
  | .dropReceiver =>
      if tap.queue.receiverAlive then some (.done, { tap with queue := tap.queue.dropReceiver })
      else none
  | .dropHandler table =>
      if table.Lacks handler ∧ ¬ tap.session.table.Lacks handler then
        some (.done, tap.replaceHandlers table)
      else none
  | .use session =>
      let session := { session with table := tap.session.table, buffers := tap.session.buffers }
      some (.done, { tap with session })

end Tap

/-! ## What has happened so far -/

/-- The log of a run. -/
abbrev TapLog (H β : Type) := List (TapEvent H β × TapAnswer)

namespace TapLog

omit [DecidableEq H] [DecidableEq β]

/-- The messages the handler was called for. -/
def called (log : TapLog H β) : List Message :=
  log.filterMap fun
    | (.route message, .routed true) => some message
    | _ => none

/-- The messages the handler has had its turn for. -/
def handled (log : TapLog H β) : List Message :=
  log.filterMap fun
    | (.handle message, _) => some message
    | _ => none

/-- The events of the messages that the queue took. -/
def accepted (log : TapLog H β) : List QueuedEvent :=
  log.filterMap fun
    | (.handle message, .handled true) => message.event?
    | _ => none

/-- The events the receiver got. -/
def received (log : TapLog H β) : List QueuedEvent :=
  log.filterMap fun
    | (.receive, .received (.event event)) => some event
    | _ => none

def receiverDropped (log : TapLog H β) : Bool :=
  log.any fun
    | (.dropReceiver, _) => true
    | _ => false

def handlerDropped (log : TapLog H β) : Bool :=
  log.any fun
    | (.dropHandler _, _) => true
    | _ => false

/-- What a receiver finds: the first accepted event it has not got yet, and when there is none,
whether the handler is gone. A handler in its turn is not gone. -/
def found (log : TapLog H β) : Received :=
  match log.accepted[log.received.length]? with
  | some event => .event event
  | none => if log.handlerDropped ∧ log.called = log.handled then .closed else .empty

/-- The handler is installed and the message has an event on its channel. -/
def Calls (channel : UInt8) (log : TapLog H β) (message : Message) : Prop :=
  log.handlerDropped = false ∧ ∃ event ∈ message.event?, event.channel = channel

/-- The receiver is there and fewer accepted events than the queue can hold are not received. -/
def HasRoom (capacity : Nat) (log : TapLog H β) : Prop :=
  log.receiverDropped = false ∧ log.accepted.length < log.received.length + max 1 capacity

instance (channel : UInt8) (log : TapLog H β) (message : Message) :
    Decidable (log.Calls channel message) :=
  inferInstanceAs (Decidable (_ ∧ _))

instance (capacity : Nat) (log : TapLog H β) : Decidable (log.HasRoom capacity) :=
  inferInstanceAs (Decidable (_ ∧ _))

/-- What each step answers. -/
def answer (channel : UInt8) (capacity : Nat) (log : TapLog H β) : TapEvent H β → TapAnswer
  | .route message => .routed (log.Calls channel message)
  | .handle _ => .handled (log.HasRoom capacity)
  | .receive => .received log.found
  | .dropReceiver | .dropHandler _ | .use _ => .done

/-- When each step can be taken. -/
def Allows (handler : H) (log : TapLog H β) : TapEvent H β → Prop
  | .route _ => log.called = log.handled
  | .handle message => log.called = log.handled ++ [message]
  | .receive | .dropReceiver => log.receiverDropped = false
  | .dropHandler table => log.handlerDropped = false ∧ table.Lacks handler
  | .use _ => True

end TapLog

end AntHost
