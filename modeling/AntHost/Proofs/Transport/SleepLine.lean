import AntHost.Transport.Serial
/-!
# The sleep line around a write

A write drives the sleep line low, talks to the UART and drives the line high again, unless the
UART reports a fault: then it returns at once and the line stays low. Attempts that would block are
repeated, so the outcome depends only on the attempts that settle, one for each byte and one for the
flush.
-/

namespace AntHost

/-! ## Attempts that settle -/

namespace UartAttempt

/-- The attempt need not be repeated. -/
def settles : UartAttempt → Bool
  | wouldBlock => false
  | accepted | fault _ => true

def fault? : UartAttempt → Option SerialFault
  | fault reason => some reason
  | accepted | wouldBlock => none

end UartAttempt

/-- What the attempts come to that a script has left, once those that would block are repeated. -/
def settled (script : List UartAttempt) : List UartAttempt :=
  script.filter UartAttempt.settles

/-- The first fault that so many settled attempts meet. -/
def faultWithin (attempts : Nat) (script : List UartAttempt) : Option SerialFault :=
  ((settled script).take attempts).findSome? UartAttempt.fault?

/-- How attempts end that meet this fault, or none. -/
def ending : Option SerialFault → Except SerialFault Unit
  | some fault => .error fault
  | none => .ok ()

/-- The first settled attempt decides before all later ones. -/
theorem faultWithin_succ {script left : List UartAttempt}
    (hleft : settled left = (settled script).tail) (attempts : Nat) :
    faultWithin (attempts + 1) script =
      (faultWithin 1 script).or (faultWithin attempts left) := by
  unfold faultWithin
  rw [hleft]
  cases settled script with
  | nil => rw [List.tail_nil, List.take_nil, List.take_nil, List.take_nil, Option.or_self]
  | cons first rest =>
      rw [List.take_succ_cons, List.take_succ_cons, List.take_zero, List.tail_cons,
        List.findSome?_cons, List.findSome?_cons]
      cases first.fault? <;> rfl

/-! ## What a write asks of the UART -/

/-- The level of the sleep line that a call asks for. -/
def SerialCall.level? : SerialCall → Option PinLevel
  | .pin level _ => some level
  | _ => none

/-- The bytes that the UART has accepted. -/
def written (calls : List SerialCall) : List UInt8 :=
  calls.filterMap fun
    | .write byte .ok => some byte
    | _ => none

theorem written_append (calls later : List SerialCall) :
    written (calls ++ later) = written calls ++ written later :=
  List.filterMap_append

/-- An attempt ends as the first outcome that settles, and uses the script up to it. -/
theorem attempt_ends (call : AttemptResult → SerialCall) (script : List UartAttempt) :
    (attempt call script).1 = ending (faultWithin 1 script) ∧
      settled (attempt call script).2.2 = (settled script).tail := by
  induction script with
  | nil => exact ⟨rfl, rfl⟩
  | cons outcome rest ih =>
      cases outcome with
      | accepted => exact ⟨rfl, rfl⟩
      | wouldBlock => exact ih
      | fault fault => exact ⟨rfl, rfl⟩

/-- Repeating an attempt makes no other calls. -/
theorem attempt_calls {call : AttemptResult → SerialCall} {script : List UartAttempt}
    {made : SerialCall} (hmade : made ∈ (attempt call script).2.1) :
    ∃ result, made = call result := by
  induction script with
  | nil => exact ⟨.ok, List.mem_singleton.mp hmade⟩
  | cons outcome rest ih =>
      cases outcome with
      | accepted => exact ⟨.ok, List.mem_singleton.mp hmade⟩
      | wouldBlock =>
          rcases List.mem_cons.mp hmade with rfl | hlater
          · exact ⟨.block, rfl⟩
          · exact ih hlater
      | fault fault => exact ⟨.fail, List.mem_singleton.mp hmade⟩

theorem written_attempt (byte : UInt8) (script : List UartAttempt) :
    written (attempt (.write byte) script).2.1 =
      if faultWithin 1 script = none then [byte] else [] := by
  induction script with
  | nil => rfl
  | cons outcome rest ih =>
      cases outcome with
      | accepted => rfl
      | wouldBlock => exact ih
      | fault fault => rfl

theorem written_attempt_flush (script : List UartAttempt) :
    written (attempt .flush script).2.1 = [] := by
  induction script with
  | nil => rfl
  | cons outcome rest ih =>
      cases outcome with
      | accepted => rfl
      | wouldBlock => exact ih
      | fault fault => rfl

/-- Sending settles one attempt for each byte and one for the flush, up to the first fault. -/
theorem sendAll_ends (bytes : List UInt8) (script : List UartAttempt) :
    (sendAll bytes script).1 = ending (faultWithin (bytes.length + 1) script) := by
  -- later bytes meet what the attempts before them have left of the script
  induction bytes generalizing script with
  | nil => exact (attempt_ends .flush script).1
  | cons byte bytes ih =>
      obtain ⟨hends, hleft⟩ := attempt_ends (.write byte) script
      rw [List.length_cons, faultWithin_succ hleft]
      unfold sendAll
      generalize attempt (.write byte) script = outcome at hends hleft ⊢
      obtain ⟨result, calls, left⟩ := outcome
      cases hfault : faultWithin 1 script with
      | some fault =>
          rw [hfault] at hends
          cases hends
          rfl
      | none =>
          rw [hfault] at hends
          cases hends
          exact ih left

/-- The bytes arrive in order, and all of them unless a fault comes first. -/
theorem written_sendAll (bytes : List UInt8) (script : List UartAttempt) :
    written (sendAll bytes script).2.1 <+: bytes ∧
      (faultWithin (bytes.length + 1) script = none →
        written (sendAll bytes script).2.1 = bytes) := by
  induction bytes generalizing script with
  | nil =>
      have hnothing : written (sendAll [] script).2.1 = [] := written_attempt_flush script
      rw [hnothing]
      exact ⟨List.prefix_refl _, fun _ => rfl⟩
  | cons byte bytes ih =>
      obtain ⟨hends, hleft⟩ := attempt_ends (.write byte) script
      have hfirst := written_attempt byte script
      rw [List.length_cons, faultWithin_succ hleft]
      unfold sendAll
      generalize attempt (.write byte) script = outcome at hends hleft hfirst ⊢
      obtain ⟨result, calls, left⟩ := outcome
      cases hfault : faultWithin 1 script with
      | some fault =>
          rw [hfault] at hends hfirst
          cases hends
          refine ⟨?_, nofun⟩
          rw [show written calls = [] from hfirst]
          exact List.nil_prefix
      | none =>
          rw [hfault] at hends hfirst
          cases hends
          obtain ⟨hfront, hall⟩ := ih left
          have hcalls : written (calls ++ (sendAll bytes left).2.1) =
              byte :: written (sendAll bytes left).2.1 := by
            rw [written_append, show written calls = [byte] from hfirst]
            rfl
          refine ⟨?_, fun hnone => ?_⟩
          · exact hcalls ▸ (List.cons_prefix_cons.mpr ⟨rfl, hfront⟩)
          · exact hcalls.trans (congrArg (byte :: ·) (hall hnone))

theorem sendAll_calls {bytes : List UInt8} {script : List UartAttempt} {made : SerialCall}
    (hmade : made ∈ (sendAll bytes script).2.1) : made.level? = none := by
  induction bytes generalizing script with
  | nil =>
      obtain ⟨result, rfl⟩ := attempt_calls hmade
      rfl
  | cons byte bytes ih =>
      have hfirst : made ∈ (attempt (.write byte) script).2.1 → made.level? = none := by
        intro hmade
        obtain ⟨result, rfl⟩ := attempt_calls hmade
        rfl
      unfold sendAll at hmade
      generalize attempt (.write byte) script = outcome at hfirst hmade
      obtain ⟨_ | _, calls, left⟩ := outcome
      · exact hfirst hmade
      · rcases List.mem_append.mp hmade with hearlier | hlater
        · exact hfirst hearlier
        · exact ih hlater

/-! ## The line -/

namespace SerialLink

variable {link : SerialLink} {bytes : List UInt8}

theorem mem_drive {level : PinLevel} {made : SerialCall} (hmade : made ∈ (link.drive level).2) :
    ∃ responds, link.sleep = .wired responds ∧ made = .pin level (responds level) := by
  unfold drive at hmade
  cases hsleep : link.sleep with
  | absent | unwired =>
      rw [hsleep] at hmade
      cases hmade
  | wired responds =>
      rw [hsleep] at hmade
      exact ⟨responds, rfl, List.mem_singleton.mp hmade⟩

/-- A write calls the line and the UART only while the link is open. -/
theorem mem_write {made : SerialCall} (hmade : made ∈ (link.write bytes).2.1) :
    link.closed = false ∧
      (made ∈ (link.drive .low).2 ∨ made ∈ (sendAll bytes link.uart.outbound).2.1 ∨
        made ∈ (link.drive .high).2) := by
  unfold write at hmade
  split at hmade
  next => cases hmade
  next hopen =>
    refine ⟨Bool.eq_false_iff.mpr hopen, ?_⟩
    generalize link.drive .low = lowered at hmade ⊢
    generalize sendAll bytes link.uart.outbound = sending at hmade ⊢
    obtain ⟨_ | _, first⟩ := lowered
    · exact .inl hmade
    · obtain ⟨_ | _, sent, left⟩ := sending
      · exact (List.mem_append.mp hmade).imp_right .inl
      · rcases List.mem_append.mp hmade with hearlier | hlast
        · exact (List.mem_append.mp hearlier).imp_right .inl
        · exact .inr (.inr hlast)

/-- Only a wired line that follows can have been driven low. -/
theorem wired_of_lowered (hlow : .pin .low true ∈ (link.write bytes).2.1) :
    link.closed = false ∧ ∃ responds, link.sleep = .wired responds ∧ responds .low = true := by
  obtain ⟨hopen, hfirst | hsent | hlast⟩ := mem_write hlow
  · obtain ⟨responds, hwired, hcall⟩ := mem_drive hfirst
    injection hcall with _ hresponds
    exact ⟨hopen, responds, hwired, hresponds.symm⟩
  · cases sendAll_calls hsent
  · obtain ⟨responds, hwired, hcall⟩ := mem_drive hlast
    injection hcall with hlevel
    cases hlevel

/-- A write that has driven the sleep line low hands its bytes to the UART and then drives the line
high, whether that works or not; but if a byte or the flush meets a fault, it returns that fault and
leaves the line low. -/
theorem write_raises_unless_fault (link : SerialLink) (bytes : List UInt8)
    (hlow : .pin .low true ∈ (link.write bytes).2.1) :
    ∃ sent : List SerialCall, (∀ call ∈ sent, call.level? = none) ∧ written sent <+: bytes ∧
      match faultWithin (bytes.length + 1) link.uart.outbound with
      | some fault =>
          (link.write bytes).1 = .error (.serial fault) ∧
            (link.write bytes).2.1 = .pin .low true :: sent
      | none =>
          written sent = bytes ∧ ∃ driven,
            (link.write bytes).1 = (if driven then .ok () else .error (.pinChange .high)) ∧
              (link.write bytes).2.1 = .pin .low true :: sent ++ [.pin .high driven] := by
  obtain ⟨hopen, responds, hwired, hresponds⟩ := wired_of_lowered hlow
  obtain ⟨hfront, hall⟩ := written_sendAll bytes link.uart.outbound
  refine ⟨(sendAll bytes link.uart.outbound).2.1, fun call hcall => sendAll_calls hcall, hfront,
    ?_⟩
  have hends := sendAll_ends bytes link.uart.outbound
  unfold write
  rw [hopen, if_neg Bool.false_ne_true]
  simp only [drive, hwired, hresponds, if_true]
  generalize faultWithin (bytes.length + 1) link.uart.outbound = fault? at hends hall ⊢
  generalize sendAll bytes link.uart.outbound = sending at hends hall ⊢
  obtain ⟨result, sent, left⟩ := sending
  cases fault? with
  | some fault =>
      cases hends
      exact ⟨rfl, rfl⟩
  | none =>
      cases hends
      exact ⟨hall rfl, responds .high, rfl, rfl⟩

/-- A byte that is held back twice and a flush that is then met by a fault, or is not: the line is
raised in the second case only. -/
theorem write_raises_unless_fault_of_retries :
    let link (flush : UartAttempt) : SerialLink :=
      ⟨⟨[], [.wouldBlock, .wouldBlock, .accepted, flush]⟩, .wired (· == .low), false⟩
    (.pin .low true ∈ ((link (.fault .parity)).write [0xA4]).2.1 ∧
        ((link (.fault .parity)).write [0xA4]).1 = .error (.serial .parity) ∧
          ∃ sent, (∀ call ∈ sent, call.level? = none) ∧
            ((link (.fault .parity)).write [0xA4]).2.1 = .pin .low true :: sent) ∧
      .pin .low true ∈ ((link .accepted).write [0xA4]).2.1 ∧
        ∃ sent, (∀ call ∈ sent, call.level? = none) ∧ written sent = [0xA4] ∧
          ∃ driven, ((link .accepted).write [0xA4]).1 =
              (if driven then .ok () else .error (.pinChange .high)) ∧
            ((link .accepted).write [0xA4]).2.1 =
              .pin .low true :: sent ++ [.pin .high driven] := by
  intro link
  have hfault : .pin .low true ∈ ((link (.fault .parity)).write [0xA4]).2.1 := by decide
  have haccepted : .pin .low true ∈ ((link .accepted).write [0xA4]).2.1 := by decide
  obtain ⟨sent, hsent, -, hresult, hcalls⟩ := write_raises_unless_fault _ _ hfault
  obtain ⟨later, hlater, -, hraised⟩ := write_raises_unless_fault _ _ haccepted
  exact ⟨⟨hfault, hresult, sent, hsent, hcalls⟩, haccepted, later, hlater, hraised⟩

/-- A fault at the first byte leaves the line low: not every write that drives it low has driven it
high as its last act on the line. -/
theorem not_forall_raised :
    ¬ ∀ (link : SerialLink) (bytes : List UInt8), .pin .low true ∈ (link.write bytes).2.1 →
      ((link.write bytes).2.1.filterMap SerialCall.level?).getLast? = some .high := by
  intro hraised
  have hlast := hraised ⟨⟨[], [.fault .overrun]⟩, .wired fun _ => true, false⟩ [0xA4] (by decide)
  revert hlast
  decide

end SerialLink

end AntHost
