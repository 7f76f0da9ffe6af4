import AntHost.Transport.Serial
import AntHost.Proofs.Transport.Traffic
/-!
# Writes to a serial line

A write hands its bytes to the UART one after the other and then flushes. An attempt that would
block is made again, and a fault ends the write, so what the UART has accepted is at every moment
the beginning of the bytes.
-/

namespace AntHost

/-- How an attempt is reported. -/
def UartAttempt.result : UartAttempt → AttemptResult
  | accepted => .ok
  | wouldBlock => .block
  | fault _ => .fail

/-- An attempt to hand over a byte, or to flush where there is none, and what it met. -/
structure UartOffer where
  byte? : Option UInt8
  met : UartAttempt
deriving DecidableEq, Repr

namespace UartOffer

def call (offer : UartOffer) : SerialCall :=
  match offer.byte? with
  | some byte => .write byte offer.met.result
  | none => .flush offer.met.result

/-- The bytes that the UART has accepted. -/
def accepted (offers : List UartOffer) : List UInt8 :=
  offers.filterMap fun offer =>
    match offer.met with
    | .accepted => offer.byte?
    | .wouldBlock | .fault _ => none

/-- The attempts go through bytes in their order. -/
structure Orderly (bytes : List UInt8) (offers : List UartOffer) : Prop where
  /-- Every attempt is about the first byte that is not accepted yet, and is a flush if there is
  none. -/
  byte_eq : ∀ {before offer after}, offers = before ++ offer :: after →
    offer.byte? = bytes[(accepted before).length]?
  /-- Another attempt follows only one that would block or that handed over a byte. -/
  goes_on : ∀ {before offer next after}, offers = before ++ offer :: next :: after →
    offer.met = .wouldBlock ∨ offer.met = .accepted ∧ offer.byte? ≠ none
  accepted_prefix : accepted offers <+: bytes

theorem orderly_nil (bytes : List UInt8) : Orderly bytes [] where
  byte_eq hoffers := by simp at hoffers
  goes_on hoffers := by simp at hoffers
  accepted_prefix := List.nil_prefix

/-- Attempts that hand over bytes in their order and then flush, each made again while it would
block, up to the first fault. -/
inductive InTurn : List UInt8 → List UartOffer → Except SerialFault Unit → Prop
  | flushed : InTurn [] [⟨none, .accepted⟩] (.ok ())
  | failed (bytes : List UInt8) (fault : SerialFault) :
      InTurn bytes [⟨bytes.head?, .fault fault⟩] (.error fault)
  | again {bytes : List UInt8} {offers : List UartOffer} {result : Except SerialFault Unit}
      (hlater : InTurn bytes offers result) :
      InTurn bytes (⟨bytes.head?, .wouldBlock⟩ :: offers) result
  | taken (byte : UInt8) {bytes : List UInt8} {offers : List UartOffer}
      {result : Except SerialFault Unit} (hlater : InTurn bytes offers result) :
      InTurn (byte :: bytes) (⟨some byte, .accepted⟩ :: offers) result

namespace InTurn

variable {bytes : List UInt8} {offers : List UartOffer} {result : Except SerialFault Unit}

/-- What follows some attempts hands over the bytes that those have left. -/
theorem rest {before after : List UartOffer} {offer : UartOffer}
    (hturn : InTurn bytes (before ++ offer :: after) result) :
    InTurn (bytes.drop (accepted before).length) (offer :: after) result := by
  induction before generalizing bytes with
  | nil => exact hturn
  | cons first before ih =>
      generalize hoffers : first :: before ++ offer :: after = offers at hturn
      cases hturn with
      | flushed => simp at hoffers
      | failed => simp at hoffers
      | again hlater =>
          cases hoffers
          exact ih hlater
      | taken byte hlater =>
          cases hoffers
          exact ih hlater

theorem byte_eq_head {offer : UartOffer} (hturn : InTurn bytes (offer :: offers) result) :
    offer.byte? = bytes.head? := by
  cases hturn with
  | flushed => rfl
  | failed => rfl
  | again => rfl
  | taken => rfl

theorem orderly (hturn : InTurn bytes offers result) : Orderly bytes offers where
  byte_eq := by
    rintro before offer after rfl
    rw [← List.head?_drop]
    exact hturn.rest.byte_eq_head
  goes_on := by
    rintro before offer next after rfl
    have hrest := hturn.rest
    generalize bytes.drop (accepted before).length = left at hrest
    cases hrest with
    | again => exact .inl rfl
    | taken => exact .inr ⟨rfl, nofun⟩
  accepted_prefix := by
    induction hturn with
    | flushed => exact List.nil_prefix
    | failed => exact List.nil_prefix
    | again _ ih => exact ih
    | taken byte _ ih => exact List.cons_prefix_cons.mpr ⟨rfl, ih⟩

/-- A fault is met last, and is the result. Without one all bytes are accepted, and last of all the
flush. -/
theorem ends (hturn : InTurn bytes offers result) :
    match result with
    | .ok () => accepted offers = bytes ∧ [⟨none, .accepted⟩] <:+ offers
    | .error fault => ∃ byte?, [⟨byte?, .fault fault⟩] <:+ offers := by
  induction hturn with
  | flushed => exact ⟨rfl, List.suffix_rfl⟩
  | failed bytes fault => exact ⟨bytes.head?, List.suffix_rfl⟩
  | @again bytes offers result _ ih =>
      cases result with
      | ok => exact ⟨ih.1, ih.2.trans (List.suffix_cons _ _)⟩
      | error fault => exact ih.imp fun _ hlast => hlast.trans (List.suffix_cons _ _)
  | @taken byte bytes offers result _ ih =>
      cases result with
      | ok => exact ⟨congrArg (byte :: ·) ih.1, ih.2.trans (List.suffix_cons _ _)⟩
      | error fault => exact ih.imp fun _ hlast => hlast.trans (List.suffix_cons _ _)

end InTurn

/-- A byte, or the flush, that would block is tried again. -/
theorem sendAll_wouldBlock (bytes : List UInt8) (script : List UartAttempt) :
    sendAll bytes (.wouldBlock :: script) =
      ((sendAll bytes script).1, call ⟨bytes.head?, .wouldBlock⟩ :: (sendAll bytes script).2.1,
        (sendAll bytes script).2.2) := by
  cases bytes with
  | nil => rfl
  | cons byte bytes =>
      rw [sendAll, sendAll, attempt]
      obtain ⟨result, calls, left⟩ := attempt (.write byte) script
      cases result <;> rfl

/-- These attempts are what sending bytes makes of a script. -/
structure Sends (bytes : List UInt8) (script : List UartAttempt) (offers : List UartOffer)
    (result : Except SerialFault Unit) : Prop where
  turn : InTurn bytes offers result
  next : ComesNext .accepted script (offers.map met)
  sendAll_eq : sendAll bytes script = (result, offers.map call, script.drop offers.length)

namespace Sends

variable {bytes : List UInt8} {script : List UartAttempt} {offers : List UartOffer}
  {result : Except SerialFault Unit}

theorem flushed (hnext : script.headD .accepted = .accepted) :
    Sends [] script [⟨none, .accepted⟩] (.ok ()) := by
  refine ⟨.flushed, ⟨hnext.symm, trivial⟩, ?_⟩
  cases script with
  | nil => rfl
  | cons outcome script =>
      cases hnext
      rfl

theorem failed (bytes : List UInt8) (fault : SerialFault) (script : List UartAttempt) :
    Sends bytes (.fault fault :: script) [⟨bytes.head?, .fault fault⟩] (.error fault) := by
  refine ⟨.failed bytes fault, ⟨rfl, trivial⟩, ?_⟩
  cases bytes with
  | nil => rfl
  | cons byte bytes => rfl

theorem again (hsends : Sends bytes script offers result) :
    Sends bytes (.wouldBlock :: script) (⟨bytes.head?, .wouldBlock⟩ :: offers) result := by
  refine ⟨.again hsends.turn, ⟨rfl, hsends.next⟩, ?_⟩
  rw [sendAll_wouldBlock, hsends.sendAll_eq]
  rfl

theorem taken (byte : UInt8) (hnext : script.headD .accepted = .accepted)
    (hsends : Sends bytes script.tail offers result) :
    Sends (byte :: bytes) script (⟨some byte, .accepted⟩ :: offers) result := by
  refine ⟨.taken byte hsends.turn, ⟨hnext.symm, hsends.next⟩, ?_⟩
  have hlater := hsends.sendAll_eq
  cases script with
  | nil =>
      rw [List.tail_nil] at hlater
      simp only [sendAll, attempt, hlater]
      simp [call, UartAttempt.result]
  | cons outcome script =>
      cases hnext
      rw [List.tail_cons] at hlater
      simp only [sendAll, attempt, hlater]
      simp [call, UartAttempt.result]

end Sends

theorem exists_sends (bytes : List UInt8) (script : List UartAttempt) :
    ∃ offers result, Sends bytes script offers result := by
  -- an attempt uses up an outcome but, where it would block, no byte: hence an induction on the
  -- script within the one on the bytes
  induction bytes generalizing script with
  | nil =>
      induction script with
      | nil => exact ⟨_, _, .flushed rfl⟩
      | cons outcome script ih =>
          cases outcome with
          | accepted => exact ⟨_, _, .flushed rfl⟩
          | wouldBlock =>
              obtain ⟨offers, result, hsends⟩ := ih
              exact ⟨_, result, hsends.again⟩
          | fault fault => exact ⟨_, _, .failed [] fault script⟩
  | cons byte bytes ihbytes =>
      induction script with
      | nil =>
          obtain ⟨offers, result, hsends⟩ := ihbytes []
          exact ⟨_, result, .taken byte rfl hsends⟩
      | cons outcome script ih =>
          cases outcome with
          | accepted =>
              obtain ⟨offers, result, hsends⟩ := ihbytes script
              exact ⟨_, result, .taken byte rfl hsends⟩
          | wouldBlock =>
              obtain ⟨offers, result, hsends⟩ := ih
              exact ⟨_, result, hsends.again⟩
          | fault fault => exact ⟨_, _, .failed (byte :: bytes) fault script⟩

end UartOffer

open UartOffer

/-! ## The line around a write -/

namespace SleepLine

/-- The calls that driving a line makes, if there is one. -/
def calls : SleepLine → PinLevel → List SerialCall
  | absent, _ | unwired, _ => []
  | wired responds, level => [.pin level (responds level)]

/-- Nothing keeps the line from this level. -/
def follows : SleepLine → PinLevel → Bool
  | absent, _ | unwired, _ => true
  | wired responds, level => responds level

end SleepLine

namespace SerialLink

/-- The ways a write to an open link can go: what it offers to the UART, the calls that raise the
line again, and the result. -/
inductive WriteCourse (sleep : SleepLine) (bytes : List UInt8) :
    List UartOffer → List SerialCall → Except TransportError Unit → Prop
  | asleep (hlow : sleep.follows .low = false) :
      WriteCourse sleep bytes [] [] (.error (.pinChange .low))
  | broken (hlow : sleep.follows .low = true) {offers : List UartOffer} {fault : SerialFault}
      (hlast : ∃ byte?, [⟨byte?, .fault fault⟩] <:+ offers) :
      WriteCourse sleep bytes offers [] (.error (.serial fault))
  | finished (hlow : sleep.follows .low = true) {offers : List UartOffer}
      (hall : accepted offers = bytes) (hlast : [⟨none, .accepted⟩] <:+ offers) :
      WriteCourse sleep bytes offers (sleep.calls .high)
        (if sleep.follows .high then .ok () else .error (.pinChange .high))

/-- A fault ends a write and is what it returns. -/
theorem WriteCourse.error_of_fault {sleep : SleepLine} {bytes : List UInt8}
    {offers before after : List UartOffer} {offer : UartOffer} {raised : List SerialCall}
    {result : Except TransportError Unit} {fault : SerialFault}
    (hcourse : WriteCourse sleep bytes offers raised result) (horderly : Orderly bytes offers)
    (hoffers : offers = before ++ offer :: after) (hmet : offer.met = .fault fault) :
    after = [] ∧ result = .error (.serial fault) := by
  have hafter : after = [] := by
    cases after with
    | nil => rfl
    | cons next after =>
        rcases horderly.goes_on hoffers with hblock | ⟨haccepted, -⟩
        · rw [hmet] at hblock
          cases hblock
        · rw [hmet] at haccepted
          cases haccepted
  subst hafter
  have hlast : ∀ {last : UartOffer}, [last] <:+ offers → last = offer := by
    rintro last ⟨front, hfront⟩
    have hsame := (List.append_inj' (hfront.trans hoffers) rfl).2
    exact List.singleton_inj.mp hsame
  refine ⟨rfl, ?_⟩
  cases hcourse with
  | asleep => simp at hoffers
  | broken _ hbroken =>
      obtain ⟨byte?, hbroken⟩ := hbroken
      rw [← hlast hbroken] at hmet
      cases hmet
      rfl
  | finished _ _ hflushed =>
      rw [← hlast hflushed] at hmet
      cases hmet

theorem drive_eq (link : SerialLink) (level : PinLevel) :
    link.drive level =
      (if link.sleep.follows level then .ok () else .error (.pinChange level),
        link.sleep.calls level) := by
  unfold drive
  cases link.sleep with
  | absent => rfl
  | unwired => rfl
  | wired responds => rfl

/-- An open link is written to by attempts in order, in one of the ways a write can go. -/
theorem exists_writeCourse {link : SerialLink} (hopen : link.closed = false) (bytes : List UInt8) :
    ∃ offers raised result, Orderly bytes offers ∧
      ComesNext .accepted link.uart.outbound (offers.map UartOffer.met) ∧
        WriteCourse link.sleep bytes offers raised result ∧
          link.write bytes =
            (result, link.sleep.calls .low ++ offers.map UartOffer.call ++ raised,
              { link with uart.outbound := link.uart.outbound.drop offers.length }) := by
  rw [write, if_neg (Bool.eq_false_iff.mp hopen)]
  simp only [drive_eq]
  cases hlow : link.sleep.follows .low with
  | false => exact ⟨[], [], _, orderly_nil bytes, trivial, .asleep hlow, by simp⟩
  | true =>
      obtain ⟨offers, result, hsends⟩ := exists_sends bytes link.uart.outbound
      have hends := hsends.turn.ends
      cases result with
      | error fault =>
          refine ⟨offers, [], _, hsends.turn.orderly, hsends.next, .broken hlow hends, ?_⟩
          simp [hsends.sendAll_eq]
      | ok =>
          refine ⟨offers, link.sleep.calls .high, _, hsends.turn.orderly, hsends.next,
            .finished hlow hends.1 hends.2, ?_⟩
          simp [hsends.sendAll_eq]

/-- A write drives the sleep line low before anything else. It then offers the UART one byte after
the other and at last the flush, each again only after it would block, up to the first fault; what
the UART accepts is the beginning of the bytes, and all of them if the write succeeds. A closed link
is left alone, also by a read, which says so unless it panics for its deadline before. -/
theorem write_offers_in_turn (link : SerialLink) (bytes : List UInt8) :
    if link.closed then
      link.write bytes = (.error .closed, [], link) ∧
        ∀ room timeout now looks, link.read room timeout now looks =
          ((instantAfter now timeout).map fun _ => .error .closed, link)
    else
      ∃ (offers : List UartOffer) (raised : List SerialCall) (result : Except TransportError Unit),
        link.write bytes =
            (result, link.sleep.calls .low ++ offers.map UartOffer.call ++ raised,
              { link with uart.outbound := link.uart.outbound.drop offers.length }) ∧
          ComesNext .accepted link.uart.outbound (offers.map UartOffer.met) ∧
          Orderly bytes offers ∧ WriteCourse link.sleep bytes offers raised result ∧
          ∀ before offer after fault, offers = before ++ offer :: after →
            offer.met = .fault fault → after = [] ∧ result = .error (.serial fault) := by
  split
  next hclosed =>
    refine ⟨by simp [write, hclosed], fun room timeout now looks => ?_⟩
    rw [read]
    cases instantAfter now timeout with
    | error overflow => rfl
    | ok deadline => exact if_pos hclosed
  next hopen =>
    obtain ⟨offers, raised, result, horderly, hnext, hcourse, hwrite⟩ :=
      exists_writeCourse (Bool.eq_false_iff.mpr hopen) bytes
    refine ⟨offers, raised, result, hwrite, hnext, horderly, hcourse, ?_⟩
    intro before offer after fault hoffers hmet
    exact hcourse.error_of_fault horderly hoffers hmet

end SerialLink

end AntHost
