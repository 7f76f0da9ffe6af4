import Mathlib.Data.List.Induction
import AntHost.Dispatch
import AntHost.Proofs.Replay
/-!
# Deliveries through a table

A table as it is used: slots are given and taken away at any time, and one thread delivers. A
delivery fills the buffer of the slot that it finds, and the handler of that slot is then due; until
it has had its turn there is no other delivery. Slots may share buffers.

Every run is told by what was asked for. A place has the slot that it was given last unless that was
taken away since, handlers are called once for each delivery that finds a slot, in the order of the
deliveries, and each finds in its buffer what was delivered and nothing else.
-/

namespace AntHost

/-- Where a table has a slot. -/
inductive SlotPlace where
  | channel (number : UInt8)
  | response
deriving DecidableEq, Repr

/-- The table has such a place. -/
def SlotPlace.InTable : SlotPlace → Prop
  | channel number => number.toNat < maxChannels
  | response => True

/-- What is asked of a table and its slots. -/
inductive DispatchEvent (H β : Type) where
  | give (place : SlotPlace) (slot : Slot H β)
  | unassign (channel : UInt8)
  | unassignAll
  /-- Data comes in for the slot of a place. The handler is told a channel and a code. -/
  | deliver (place : SlotPlace) (channel code : UInt8) (data : List UInt8)
  /-- The handler that is due has its turn. -/
  | handle
deriving DecidableEq, Repr

variable {H β : Type}

namespace DispatchEvent

/-- From then on a place does not have the slot it had before. -/
def Vacates (place : SlotPlace) : DispatchEvent H β → Prop
  | give other _ => other = place
  | unassign channel => place = .channel channel
  | unassignAll => True
  | deliver .. | handle => False

/-- Whether an event can happen while a handler is due or none is: a delivery waits for the handler
that is due, and only that one gets a turn. -/
def Possible (due : Bool) : DispatchEvent H β → Prop
  | deliver .. => due = false
  | handle => due = true
  | give .. | unassign _ | unassignAll => True

end DispatchEvent

/-- The slot is the last that the place was given, and it was not taken away since. -/
def LastGiven (events : List (DispatchEvent H β)) (place : SlotPlace) (slot : Slot H β) : Prop :=
  ∃ before after, events = before ++ .give place slot :: after ∧
    ∀ event ∈ after, ¬ event.Vacates place

theorem not_lastGiven_nil (place : SlotPlace) (slot : Slot H β) :
    ¬ LastGiven [] place slot := by
  rintro ⟨before, after, hevents, -⟩
  cases before <;> cases hevents

theorem lastGiven_concat {events : List (DispatchEvent H β)} {event : DispatchEvent H β}
    {place : SlotPlace} {slot : Slot H β} :
    LastGiven (events ++ [event]) place slot ↔
      event = .give place slot ∨ LastGiven events place slot ∧ ¬ event.Vacates place := by
  constructor
  · rintro ⟨before, after, hevents, hkept⟩
    rcases List.eq_nil_or_concat after with rfl | ⟨rest, last, rfl⟩
    · exact .inl (List.singleton_inj.mp (List.append_inj' hevents rfl).2)
    · rw [List.concat_eq_append] at hevents hkept
      rw [← List.cons_append, ← List.append_assoc] at hevents
      obtain ⟨rfl, hlast⟩ := List.append_inj' hevents rfl
      cases List.singleton_inj.mp hlast
      exact .inr ⟨⟨before, rest, rfl, fun other hother =>
        hkept other (List.mem_append_left _ hother)⟩, hkept event (by simp)⟩
  · rintro (rfl | ⟨⟨before, after, rfl, hkept⟩, hevent⟩)
    · exact ⟨events, [], rfl, fun _ hnone => absurd hnone List.not_mem_nil⟩
    · refine ⟨before, after ++ [event], by simp, fun other hother => ?_⟩
      rcases List.mem_append.mp hother with hafter | hlast
      · exact hkept other hafter
      · rwa [List.mem_singleton.mp hlast]

namespace DispatchTable

/-- The slot at a place. -/
def at? (table : DispatchTable H β) : SlotPlace → Option (Slot H β)
  | .channel number => table.slot? number
  | .response => table.response

/-- Gives a place its slot. -/
def give (table : DispatchTable H β) : SlotPlace → Slot H β → DispatchTable H β
  | .channel number, slot => table.assign number slot
  | .response, slot => table.setResponse slot

/-- What an event makes of a table. -/
def after (table : DispatchTable H β) : DispatchEvent H β → DispatchTable H β
  | .give place slot => table.give place slot
  | .unassign channel => table.unassign channel
  | .unassignAll => table.unassignAll
  | .deliver .. | .handle => table

theorem inTable_of_at? {table : DispatchTable H β} {place : SlotPlace} {slot : Slot H β}
    (hslot : table.at? place = some slot) : place.InTable := by
  cases place with
  | channel number =>
      refine Nat.lt_of_not_le fun hpast => ?_
      cases hslot.symm.trans (table.slot?_of_le hpast)
  | response => trivial

theorem at?_give (table : DispatchTable H β) {place : SlotPlace} (hplace : place.InTable)
    (slot : Slot H β) (other : SlotPlace) :
    (table.give place slot).at? other = if place = other then some slot else table.at? other := by
  cases place with
  | channel number =>
      cases other with
      | channel asked =>
          rw [give, at?, slot?_assign table slot hplace]
          simp only [SlotPlace.channel.injEq, eq_comm, at?]
      | response => rfl
  | response => cases other <;> rfl

theorem give_of_not_inTable (table : DispatchTable H β) {place : SlotPlace}
    (hplace : ¬ place.InTable) (slot : Slot H β) : table.give place slot = table := by
  cases place with
  | channel number => exact table.assign_of_le (Nat.not_lt.mp hplace) slot
  | response => exact absurd trivial hplace

theorem at?_unassign (table : DispatchTable H β) (channel : UInt8) (place : SlotPlace) :
    (table.unassign channel).at? place =
      if place = .channel channel then none else table.at? place := by
  cases place with
  | channel number =>
      rw [at?, slot?_unassign]
      simp only [SlotPlace.channel.injEq, at?]
  | response => rfl

theorem at?_unassignAll (table : DispatchTable H β) (place : SlotPlace) :
    table.unassignAll.at? place = none := by
  cases place with
  | channel number => exact table.slot?_unassignAll number
  | response => rfl

/-- The slot of a place after an event is the one given there and then, or the one from before that
the event did not take away. -/
theorem at?_after {table : DispatchTable H β} {event : DispatchEvent H β} {place : SlotPlace}
    {slot : Slot H β} :
    (table.after event).at? place = some slot ↔
      place.InTable ∧ event = .give place slot ∨
        table.at? place = some slot ∧ ¬ event.Vacates place := by
  cases event with
  | give other given =>
      by_cases hother : other.InTable
      · rw [after, at?_give table hother]
        by_cases hsame : other = place
        · subst hsame
          simp [DispatchEvent.Vacates, hother]
        · simp [DispatchEvent.Vacates, hsame]
      · rw [after, give_of_not_inTable table hother]
        constructor
        · intro hslot
          refine .inr ⟨hslot, ?_⟩
          rintro rfl
          exact hother (inTable_of_at? hslot)
        · rintro (⟨hplace, hgive⟩ | ⟨hslot, -⟩)
          · cases hgive
            exact absurd hplace hother
          · exact hslot
  | unassign channel =>
      rw [after, at?_unassign]
      by_cases hplace : place = .channel channel <;> simp [DispatchEvent.Vacates, hplace]
  | unassignAll => simp [after, at?_unassignAll, DispatchEvent.Vacates]
  | deliver => simp [after, DispatchEvent.Vacates]
  | handle => simp [after, DispatchEvent.Vacates]

/-- A table that is empty at first has, after any events, the slots that were given last. -/
theorem at?_foldl_after (events : List (DispatchEvent H β)) {place : SlotPlace}
    {slot : Slot H β} :
    (events.foldl after {}).at? place = some slot ↔
      place.InTable ∧ LastGiven events place slot := by
  induction events using List.reverseRecOn with
  | nil =>
      have hnone : (({} : DispatchTable H β).at? place) = none := at?_unassignAll {} place
      simp [hnone, not_lastGiven_nil]
  | append_singleton events event ih =>
      rw [List.foldl_append, List.foldl_cons, List.foldl_nil, at?_after, ih, lastGiven_concat,
        and_or_left, and_assoc]

/-- The call that a delivery asks for, with what its handler is to find. -/
def call? (table : DispatchTable H β) : DispatchEvent H β → Option (Invocation H β × List UInt8)
  | .deliver place channel code data =>
      (table.at? place).map fun slot => (⟨slot, channel, code⟩, data.take bufferSize)
  | _ => none

/-- The calls that deliveries ask for, each told by the slots of its moment. -/
def calls (table : DispatchTable H β) :
    List (DispatchEvent H β) → List (Invocation H β × List UInt8)
  | [] => []
  | event :: rest => (table.call? event).toList ++ calls (table.after event) rest

theorem calls_concat (table : DispatchTable H β) (events : List (DispatchEvent H β))
    (event : DispatchEvent H β) :
    table.calls (events ++ [event]) =
      table.calls events ++ ((events.foldl after table).call? event).toList := by
  induction events generalizing table with
  | nil => simp [calls]
  | cons first rest ih => simp [calls, ih, List.append_assoc]

end DispatchTable

/-- What the calls leave in a buffer, if they fill it at all. -/
def lastFilled [DecidableEq β] (buffer : β) (calls : List (Invocation H β × List UInt8)) :
    Option (List UInt8) :=
  (calls.filter fun call => call.1.slot.buffer = buffer).getLast?.map Prod.snd

theorem lastFilled_append [DecidableEq β] (buffer : β)
    (calls later : List (Invocation H β × List UInt8)) :
    lastFilled buffer (calls ++ later) =
      (lastFilled buffer later).or (lastFilled buffer calls) := by
  rw [lastFilled, List.filter_append, List.getLast?_append, Option.map_or]
  rfl

theorem lastFilled_singleton [DecidableEq β] (buffer : β) (call : Invocation H β)
    (data : List UInt8) :
    lastFilled buffer [(call, data)] = if buffer = call.slot.buffer then some data else none := by
  by_cases hbuffer : buffer = call.slot.buffer
  · simp [lastFilled, hbuffer]
  · simp [lastFilled, hbuffer, Ne.symm hbuffer]

/-! ## Runs -/

/-- A table, what the buffers hold, and the call that is due. -/
structure Dispatcher (H β : Type) where
  table : DispatchTable H β := {}
  buffers : Buffers β := {}
  turn : Option (Invocation H β) := none

namespace Dispatcher

variable [DecidableEq β]

/-- Carries out an event, if it can happen. Answers the call that is made, with what the handler
finds in its buffer. -/
def step (dispatcher : Dispatcher H β) :
    DispatchEvent H β → Option (Option (Invocation H β × List UInt8) × Dispatcher H β)
  | .deliver place channel code data =>
      match dispatcher.turn, dispatcher.table.at? place with
      | some _, _ => none
      | none, none => some (none, dispatcher)
      | none, some slot =>
          let (call, buffers) := slot.deliver channel code data dispatcher.buffers
          some (none, { dispatcher with buffers, turn := some call })
  | .handle =>
      dispatcher.turn.map fun call =>
        (some (call, dispatcher.buffers.contents call.slot.buffer),
          { dispatcher with turn := none })
  | event => some (none, { dispatcher with table := dispatcher.table.after event })

/-- The call that is due, with what its handler will find. -/
def due (dispatcher : Dispatcher H β) : Option (Invocation H β × List UInt8) :=
  dispatcher.turn.map fun call => (call, dispatcher.buffers.contents call.slot.buffer)

/-- The ways a step can go: slots change, a delivery finds none, a delivery fills the buffer of the
one it finds, or the handler that is due has its turn. -/
inductive StepCourse (dispatcher : Dispatcher H β) : DispatchEvent H β →
    Option (Invocation H β × List UInt8) → Dispatcher H β → Prop
  | changed {event : DispatchEvent H β} (hcall : dispatcher.table.call? event = none) :
      StepCourse dispatcher event none
        { dispatcher with table := dispatcher.table.after event }
  | filled {event : DispatchEvent H β} {slot : Slot H β} {channel code : UInt8}
      {data : List UInt8} (hidle : dispatcher.turn = none)
      (hcall : dispatcher.table.call? event = some (⟨slot, channel, code⟩, data.take bufferSize))
      (htable : dispatcher.table.after event = dispatcher.table) :
      StepCourse dispatcher event none
        { dispatcher with
          buffers := dispatcher.buffers.fill slot.buffer data
          turn := some ⟨slot, channel, code⟩ }
  | handled {call : Invocation H β} (hturn : dispatcher.turn = some call) :
      StepCourse dispatcher .handle
        (some (call, dispatcher.buffers.contents call.slot.buffer))
        { dispatcher with turn := none }

theorem step_course {dispatcher next : Dispatcher H β} {event : DispatchEvent H β}
    {answer : Option (Invocation H β × List UInt8)}
    (hstep : dispatcher.step event = some (answer, next)) :
    StepCourse dispatcher event answer next := by
  cases event with
  | deliver place channel code data =>
      unfold step at hstep
      cases hturn : dispatcher.turn with
      | some call => simp [hturn] at hstep
      | none =>
          cases hslot : dispatcher.table.at? place with
          | none =>
              simp only [hturn, hslot, Option.some.injEq, Prod.mk.injEq] at hstep
              obtain ⟨rfl, rfl⟩ := hstep
              exact .changed (by rw [DispatchTable.call?, hslot]; rfl)
          | some slot =>
              simp only [hturn, hslot, Option.some.injEq, Prod.mk.injEq] at hstep
              obtain ⟨rfl, rfl⟩ := hstep
              exact .filled hturn (by rw [DispatchTable.call?, hslot]; rfl) rfl
  | handle =>
      obtain ⟨call, hturn, hcall⟩ := Option.map_eq_some_iff.mp hstep
      cases hcall
      exact .handled hturn
  | _ =>
      cases hstep
      exact .changed rfl

namespace StepCourse

variable {dispatcher next : Dispatcher H β} {event : DispatchEvent H β}
  {answer : Option (Invocation H β × List UInt8)}

theorem table_eq (hcourse : StepCourse dispatcher event answer next) :
    next.table = dispatcher.table.after event := by
  cases hcourse with
  | changed => rfl
  | filled _ _ htable => exact htable.symm
  | handled => rfl

/-- A call is made or due as soon as a delivery asks for it. -/
theorem calls_eq (hcourse : StepCourse dispatcher event answer next) :
    answer.toList ++ next.due.toList =
      dispatcher.due.toList ++ (dispatcher.table.call? event).toList := by
  cases hcourse with
  | changed hcall => simp [hcall, due]
  | filled hidle hcall => simp [hcall, due, hidle, Buffers.contents_fill]
  | handled hturn => simp [due, hturn, DispatchTable.call?]

/-- A buffer changes only where a delivery asks for a call that finds its data in it. -/
theorem contents_eq (hcourse : StepCourse dispatcher event answer next) (buffer : β) :
    next.buffers.contents buffer =
      (lastFilled buffer (dispatcher.table.call? event).toList).getD
        (dispatcher.buffers.contents buffer) := by
  cases hcourse with
  | changed hcall => simp [hcall, lastFilled]
  | filled hidle hcall =>
      rw [hcall, Option.toList_some, lastFilled_singleton, Buffers.contents_fill]
      split <;> rfl
  | handled hturn => simp [DispatchTable.call?, lastFilled]

end StepCourse

theorem isSome_step_iff {dispatcher : Dispatcher H β} {event : DispatchEvent H β} :
    (dispatcher.step event).isSome ↔ event.Possible dispatcher.turn.isSome := by
  cases event with
  | deliver place =>
      unfold step
      cases dispatcher.turn with
      | some call => simp [DispatchEvent.Possible]
      | none => cases hslot : dispatcher.table.at? place <;> simp [hslot, DispatchEvent.Possible]
  | handle => simp [step, DispatchEvent.Possible]
  | _ => simp [step, DispatchEvent.Possible]

/-- The events so far tell the table, the calls that were made or are due, and what the buffers
hold. -/
structure Told (buffers : Buffers β)
    (log : List (DispatchEvent H β × Option (Invocation H β × List UInt8)))
    (dispatcher : Dispatcher H β) : Prop where
  table_eq : dispatcher.table = (log.map Prod.fst).foldl DispatchTable.after {}
  calls_eq : log.filterMap Prod.snd ++ dispatcher.due.toList =
    DispatchTable.calls {} (log.map Prod.fst)
  contents_eq (buffer : β) : dispatcher.buffers.contents buffer =
    (lastFilled buffer (DispatchTable.calls {} (log.map Prod.fst))).getD
      (buffers.contents buffer)

theorem told_start (buffers : Buffers β) :
    Told buffers [] ({ buffers } : Dispatcher H β) where
  table_eq := rfl
  calls_eq := rfl
  contents_eq _ := rfl

theorem Told.step {buffers : Buffers β} {dispatcher next : Dispatcher H β}
    {log : List (DispatchEvent H β × Option (Invocation H β × List UInt8))}
    {event : DispatchEvent H β} {answer : Option (Invocation H β × List UInt8)}
    (htold : Told buffers log dispatcher)
    (hstep : dispatcher.step event = some (answer, next)) :
    Told buffers (log ++ [(event, answer)]) next := by
  have hcourse := step_course hstep
  constructor
  · rw [List.map_append, List.foldl_append, ← htold.table_eq]
    exact hcourse.table_eq
  · rw [List.map_append, List.map_singleton, DispatchTable.calls_concat, ← htold.table_eq,
      ← htold.calls_eq, List.filterMap_append, List.append_assoc, List.append_assoc,
      ← hcourse.calls_eq]
    cases answer <;> rfl
  · intro buffer
    rw [List.map_append, List.map_singleton, DispatchTable.calls_concat, ← htold.table_eq,
      lastFilled_append, hcourse.contents_eq buffer, htold.contents_eq buffer]
    cases lastFilled buffer (dispatcher.table.call? event).toList <;> rfl

/-- In every run from an empty table, whatever the buffers hold and whichever slots share them: a
place has the slot it was given last, unless that was taken away since, and a channel past the last
one has none and is given none. The calls made are those that deliveries asked for, one for each
delivery that found a slot, in their order; the last of them may still be due. Each finds in its
buffer as much of the data as the buffer holds. A buffer keeps what the last of its deliveries left
in it. A handler that is due can always have its turn, and only deliveries wait for it. -/
theorem run_calls_each_once {buffers : Buffers β} {events : List (DispatchEvent H β)}
    {log : List (DispatchEvent H β × Option (Invocation H β × List UInt8))}
    {last : Dispatcher H β}
    (hrun : replay step ({ buffers } : Dispatcher H β) events = some (log, last)) :
    (∀ place slot, last.table.at? place = some slot ↔
        place.InTable ∧ LastGiven events place slot) ∧
      (∀ channel : UInt8, maxChannels ≤ channel.toNat →
        last.table.slot? channel = none ∧ last.table.unassign channel = last.table ∧
          ∀ slot, last.table.assign channel slot = last.table) ∧
      log.filterMap Prod.snd ++ last.due.toList = DispatchTable.calls {} events ∧
      (∀ buffer, last.buffers.contents buffer =
        (lastFilled buffer (DispatchTable.calls {} events)).getD (buffers.contents buffer)) ∧
      ∀ event, (last.step event).isSome ↔ event.Possible last.turn.isSome := by
  have htold : Told buffers log last :=
    replay_invariant (told_start buffers) (fun _ _ _ _ _ htold hstep => htold.step hstep) hrun
  obtain ⟨htable, hcalls, hcontents⟩ := htold
  rw [replay_events hrun] at htable hcalls
  simp only [replay_events hrun] at hcontents
  refine ⟨fun place slot => ?_, fun channel hchannel => ⟨last.table.slot?_of_le hchannel,
    last.table.unassign_of_le hchannel, last.table.assign_of_le hchannel⟩, hcalls, hcontents,
    fun event => isSome_step_iff⟩
  rw [htable]
  exact DispatchTable.at?_foldl_after events

/-- Two channels share a buffer. The first slot is taken away while its handler is due, the second
delivery is shorter than the first, and the third finds no slot. -/
theorem run_calls_each_once_of_shared_buffer :
    let events : List (DispatchEvent Char Nat) :=
      [.give (.channel 3) ⟨'a', 0⟩, .give (.channel 200) ⟨'b', 1⟩,
        .deliver (.channel 3) 3 0x9A (List.replicate 70 7), .unassign 3, .handle,
        .give (.channel 4) ⟨'b', 0⟩, .deliver (.channel 4) 4 0x9A [1, 2], .handle,
        .deliver (.channel 3) 3 0x9A [5]]
    ∃ log last, replay step ({} : Dispatcher Char Nat) events = some (log, last) ∧
      log.filterMap Prod.snd =
        [(⟨⟨'a', 0⟩, 3, 0x9A⟩, List.replicate 64 7), (⟨⟨'b', 0⟩, 4, 0x9A⟩, [1, 2])] ∧
      last.buffers.contents 0 = [1, 2] ∧ last.table.slot? 4 = some ⟨'b', 0⟩ ∧
        last.table.slot? 200 = none := by
  intro events
  obtain ⟨⟨log, last⟩, hrun⟩ := Option.isSome_iff_exists.mp
    (by decide +kernel : (replay step ({} : Dispatcher Char Nat) events).isSome)
  have hdue : ((replay step ({} : Dispatcher Char Nat) events).map fun run => run.2.due) =
      some none := by decide +kernel
  rw [hrun, Option.map_some, Option.some_inj] at hdue
  obtain ⟨hslots, hpast, hcalls, hcontents, -⟩ := run_calls_each_once hrun
  rw [hdue, Option.toList_none, List.append_nil] at hcalls
  refine ⟨log, last, hrun, hcalls.trans (by decide +kernel),
    (hcontents 0).trans (by decide +kernel), ?_, (hpast 200 (by decide)).1⟩
  refine (hslots (.channel 4) ⟨'b', 0⟩).mpr ⟨?_, events.take 5, [_, _, _], rfl, ?_⟩
  · exact (by decide : (4 : UInt8).toNat < maxChannels)
  · simp [DispatchEvent.Vacates]

end Dispatcher

end AntHost
