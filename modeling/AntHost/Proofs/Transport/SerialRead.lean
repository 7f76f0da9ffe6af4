import AntHost.Transport.Serial
import AntHost.Proofs.Replay
import AntHost.Proofs.Transport.Traffic
/-!
# Reads from a serial line

A read makes passes over what the UART brings until one of them finds something. Over any number of
reads the UART is read item by item, and its bytes are those that were handed out, those of passes
that a fault ended and those that are still to come.
-/

namespace AntHost

/-- The byte that an item brings. -/
def UartRead.byte? : UartRead → Option UInt8
  | byte value => some value
  | wouldBlock | fault _ => none

/-- The bytes that items bring. -/
def brought (items : List UartRead) : List UInt8 := items.filterMap UartRead.byte?

@[simp] theorem brought_append (items later : List UartRead) :
    brought (items ++ later) = brought items ++ brought later :=
  List.filterMap_append

@[simp] theorem brought_bytes (bytes : List UInt8) : brought (bytes.map .byte) = bytes := by
  induction bytes with
  | nil => rfl
  | cons byte bytes ih => exact congrArg (byte :: ·) ih

@[simp] theorem brought_waits (waits : Nat) : brought (List.replicate waits .wouldBlock) = [] := by
  induction waits with
  | zero => rfl
  | succ waits ih => exact ih

theorem brought_singleton (item : UartRead) : brought [item] = item.byte?.toList := by
  cases item with
  | byte => rfl
  | wouldBlock => rfl
  | fault => rfl

/-! ## One pass -/

namespace SerialLink

/-- The items that a pass with so much room takes of the UART, what it finds, and the bytes that it
loses. -/
inductive Pass (room : Nat) :
    List UartRead → Except SerialFault (List UInt8) → List UInt8 → Prop
  | full (bytes : List UInt8) (hfull : bytes.length = room) :
      Pass room (bytes.map .byte) (.ok bytes) []
  | cut (bytes : List UInt8) (hroom : bytes.length < room) :
      Pass room (bytes.map .byte ++ [.wouldBlock]) (.ok bytes) []
  | broken (lost : List UInt8) (hroom : lost.length < room) (fault : SerialFault) :
      Pass room (lost.map .byte ++ [.fault fault]) (.error fault) lost

namespace Pass

variable {room : Nat} {items : List UartRead} {result : Except SerialFault (List UInt8)}
  {lost : List UInt8}

/-- With room for one byte more, a pass may start one byte earlier. -/
theorem exists_cons (hpass : Pass room items result lost) (byte : UInt8) :
    ∃ lost, Pass (room + 1) (.byte byte :: items) (result.map (byte :: ·)) lost := by
  cases hpass with
  | full bytes hfull => exact ⟨[], .full (byte :: bytes) (by simp [hfull])⟩
  | cut bytes hroom => exact ⟨[], .cut (byte :: bytes) (by simpa using hroom)⟩
  | broken lost hroom fault =>
      exact ⟨byte :: lost, .broken (byte :: lost) (by simpa using hroom) fault⟩

theorem brought_eq (hpass : Pass room items result lost) :
    brought items = handed result ++ lost := by
  cases hpass with
  | full => simp [handed]
  | cut => simp [handed, brought_singleton, UartRead.byte?]
  | broken => simp [handed, brought_singleton, UartRead.byte?]

/-- A pass with room that finds nothing has met an item that would block. -/
theorem of_nothing (hpass : Pass room items (.ok []) lost) (hroom : 0 < room) :
    items = [.wouldBlock] ∧ lost = [] := by
  generalize hresult : Except.ok [] = result at hpass
  cases hpass with
  | full bytes hfull =>
      cases hresult
      exact absurd hfull (Nat.ne_of_lt hroom)
  | cut =>
      cases hresult
      exact ⟨rfl, rfl⟩
  | broken => cases hresult

end Pass

theorem exists_pass (room : Nat) (script : List UartRead) :
    ∃ items result lost, Pass room items result lost ∧ ComesNext .wouldBlock script items ∧
      receivePass room script = (result, script.drop items.length) := by
  induction room generalizing script with
  | zero => exact ⟨[], _, [], .full [] rfl, trivial, rfl⟩
  | succ room ih =>
      cases script with
      | nil => exact ⟨_, _, [], .cut [] room.succ_pos, ⟨rfl, trivial⟩, rfl⟩
      | cons item script =>
          cases item with
          | wouldBlock => exact ⟨_, _, [], .cut [] room.succ_pos, ⟨rfl, trivial⟩, rfl⟩
          | fault fault =>
              exact ⟨_, _, [], .broken [] room.succ_pos fault, ⟨rfl, trivial⟩, rfl⟩
          | byte byte =>
              obtain ⟨items, result, lost, hpass, hnext, hreceive⟩ := ih script
              obtain ⟨lost, hpass⟩ := hpass.exists_cons byte
              refine ⟨_, _, lost, hpass, ⟨rfl, hnext⟩, ?_⟩
              rw [receivePass, hreceive]
              rfl

/-! ## One read -/

/-- How many looks come before a deadline, and so how many passes may follow the first. -/
def earlyLooks (deadline : Nat) (looks : List Nat) : Nat :=
  (looks.takeWhile fun look => look < deadline).length

theorem earlyLooks_of_early {deadline look : Nat} (hearly : look < deadline) (looks : List Nat) :
    earlyLooks deadline (look :: looks) = earlyLooks deadline looks + 1 := by
  simp [earlyLooks, hearly]

theorem earlyLooks_of_late {deadline look : Nat} (hlate : deadline ≤ look) (looks : List Nat) :
    earlyLooks deadline (look :: looks) = 0 := by
  simp [earlyLooks, Nat.not_lt.mpr hlate]

/-- The items that passes take of the UART until one finds something or patience runs out, what they
find, and the bytes that they lose. -/
inductive Passes (room patience : Nat) :
    List UartRead → Except SerialFault (List UInt8) → List UInt8 → Prop
  | idle : Passes room patience (List.replicate (patience + 1) .wouldBlock) (.ok []) []
  | ended (waits : Nat) (hwaits : waits ≤ patience) {items : List UartRead}
      {result : Except SerialFault (List UInt8)} {lost : List UInt8}
      (hpass : Pass room items result lost) (hfound : result ≠ .ok []) :
      Passes room patience (List.replicate waits .wouldBlock ++ items) result lost

namespace Passes

variable {room patience : Nat} {items : List UartRead} {result : Except SerialFault (List UInt8)}
  {lost : List UInt8}

/-- The bytes that are taken are handed out or lost. -/
theorem brought_eq (hpasses : Passes room patience items result lost) :
    brought items = handed result ++ lost := by
  cases hpasses with
  | idle => exact brought_waits _
  | ended _ _ hpass => simp [hpass.brought_eq]

/-- After a pass that finds nothing come those that would have come without it. -/
theorem wait (hpasses : Passes room patience items result lost) :
    Passes room (patience + 1) (.wouldBlock :: items) result lost := by
  cases hpasses with
  | idle => exact .idle
  | ended waits hwaits hpass hfound =>
      exact .ended (waits + 1) (Nat.succ_le_succ hwaits) hpass hfound

end Passes

/-- Waiting for something takes items of the UART in passes, as long as the clock allows. -/
theorem exists_passes {room : Nat} (hroom : 0 < room) (deadline : Nat) (looks : List Nat)
    (script : List UartRead) :
    ∃ items result lost, Passes room (earlyLooks deadline looks) items result lost ∧
      ComesNext .wouldBlock script items ∧
        receive room deadline looks script = (result, script.drop items.length) := by
  induction looks generalizing script with
  | nil =>
      obtain ⟨items, result, lost, hpass, hnext, hreceive⟩ := exists_pass room script
      refine ⟨items, result, lost, ?_, hnext, hreceive⟩
      by_cases hfound : result = .ok []
      · subst hfound
        obtain ⟨rfl, rfl⟩ := hpass.of_nothing hroom
        exact .idle
      · exact .ended 0 (Nat.zero_le _) hpass hfound
  | cons look looks ih =>
      obtain ⟨items, result, lost, hpass, hnext, hreceive⟩ := exists_pass room script
      rw [receive, hreceive]
      by_cases hfound : result = .ok []
      · subst hfound
        obtain ⟨rfl, rfl⟩ := hpass.of_nothing hroom
        dsimp only
        split
        next hlate =>
          refine ⟨_, _, [], ?_, hnext, rfl⟩
          rw [earlyLooks_of_late hlate]
          exact .idle
        next hearly =>
          obtain ⟨later, result, lost, hpasses, hlater, hleft⟩ := ih (script.drop 1)
          refine ⟨.wouldBlock :: later, result, lost, ?_, hnext.append hlater, ?_⟩
          · rw [earlyLooks_of_early (Nat.not_le.mp hearly)]
            exact hpasses.wait
          · simpa using hleft
      · refine ⟨items, result, lost, .ended 0 (Nat.zero_le _) hpass hfound, hnext, ?_⟩
        split
        next hnothing =>
          cases hnothing
          exact absurd rfl hfound
        next => rfl

/-- A read that is asked for: room for so many bytes, a timeout, the instant at which it starts, and
what the clock shows it after each pass. -/
structure ReadRequest where
  room : Nat
  timeout : Nat
  start : Nat
  looks : List Nat
  room_pos : 0 < room

/-- The items that a read takes of the UART, how it ends, and the bytes that it loses: it makes
passes until its time is over, unless the clock cannot hold its deadline and it panics before the
first. -/
inductive ReadCourse (request : ReadRequest) :
    List UartRead → Except ClockOverflow (Except TransportError (List UInt8)) → List UInt8 → Prop
  | panicked (hover : clockEnd ≤ request.start + request.timeout) :
      ReadCourse request [] (.error {}) []
  | ended (hfits : request.start + request.timeout < clockEnd) {items : List UartRead}
      {result : Except SerialFault (List UInt8)} {lost : List UInt8}
      (hpasses : Passes request.room (earlyLooks (request.start + request.timeout) request.looks)
        items result lost) :
      ReadCourse request items (.ok (result.mapError .serial)) lost

/-! ## Runs of reads -/

/-- A read that was made. -/
structure Reading where
  request : ReadRequest
  /-- What it took of the UART. -/
  items : List UartRead
  answer : Except ClockOverflow (Except TransportError (List UInt8))
  lost : List UInt8
  course : ReadCourse request items answer lost

namespace Reading

/-- The bytes that a read handed out. -/
def bytes (reading : Reading) : List UInt8 :=
  match reading.answer with
  | .ok answer => handed answer
  | .error _ => []

/-- The bytes that a read takes are handed out or lost. -/
theorem brought_eq (reading : Reading) :
    brought reading.items = reading.bytes ++ reading.lost := by
  obtain ⟨request, items, answer, lost, hcourse⟩ := reading
  cases hcourse with
  | panicked => rfl
  | ended _ hpasses => simp [bytes, hpasses.brought_eq]

end Reading

def readStep (link : SerialLink) (request : ReadRequest) :
    Option (Except ClockOverflow (Except TransportError (List UInt8)) × SerialLink) :=
  some (link.read request.room request.timeout request.start request.looks)

theorem exists_reading {link : SerialLink} (hopen : link.closed = false) (request : ReadRequest) :
    ∃ reading : Reading, reading.request = request ∧
      ComesNext .wouldBlock link.uart.inbound reading.items ∧
        link.read request.room request.timeout request.start request.looks =
          (reading.answer,
            { link with uart.inbound := link.uart.inbound.drop reading.items.length }) := by
  rw [read]
  cases hdeadline : instantAfter request.start request.timeout with
  | error overflow =>
      have hover := instantAfter_eq_error_iff.mp hdeadline
      exact ⟨⟨request, [], _, [], .panicked hover⟩, rfl, trivial, rfl⟩
  | ok deadline =>
      obtain ⟨hfits, rfl⟩ := instantAfter_eq_ok_iff.mp hdeadline
      obtain ⟨items, result, lost, hpasses, hnext, hreceive⟩ :=
        exists_passes request.room_pos (request.start + request.timeout) request.looks
          link.uart.inbound
      refine ⟨⟨request, items, _, lost, .ended hfits hpasses⟩, rfl, hnext, ?_⟩
      dsimp only
      rw [if_neg (Bool.eq_false_iff.mp hopen), hreceive]

/-- After some reads, their items are gone from the UART. -/
structure Tracks (link : SerialLink)
    (log : List (ReadRequest × Except ClockOverflow (Except TransportError (List UInt8))))
    (readings : List Reading) (last : SerialLink) : Prop where
  log_eq : log = readings.map fun reading => (reading.request, reading.answer)
  next : ComesNext .wouldBlock link.uart.inbound (readings.flatMap Reading.items)
  last_eq : last = { link with
    uart.inbound := link.uart.inbound.drop (readings.flatMap Reading.items).length }

theorem Tracks.concat {link middle next : SerialLink} {request : ReadRequest}
    {log : List (ReadRequest × Except ClockOverflow (Except TransportError (List UInt8)))}
    {readings : List Reading} {answer : Except ClockOverflow (Except TransportError (List UInt8))}
    (htracks : Tracks link log readings middle)
    (hopen : link.closed = false) (hread : readStep middle request = some (answer, next)) :
    ∃ reading, Tracks link (log ++ [(request, answer)]) (readings ++ [reading]) next := by
  have hmiddle : middle.closed = false := by rw [htracks.last_eq]; exact hopen
  obtain ⟨reading, rfl, hitems, hreading⟩ := exists_reading hmiddle request
  obtain ⟨hlog, hnext, rfl⟩ := htracks
  have hanswer := hreading.symm.trans (Option.some.inj hread)
  cases hanswer
  refine ⟨reading, ?_, ?_, ?_⟩
  · simp [hlog]
  · simpa using hnext.append hitems
  · simp [List.drop_drop]

end SerialLink

end AntHost
