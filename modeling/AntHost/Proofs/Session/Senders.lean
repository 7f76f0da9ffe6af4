import AntHost.Proofs.Command.Layout
import AntHost.Proofs.Session.ReceivedData
/-!
# Senders of received data

A handler reads who sent its data from its buffer: behind the flag byte of flagged data, or right
behind the channel byte in the legacy extended layout. The router decides by the size of a payload
which code it calls the handler with and how much of the payload it keeps. Both go together: a
sender is found exactly in the payloads that carry one, and under the code that says so.

Only an advanced burst and a channel event may hold what reads as a sender under another code.
-/

namespace AntHost

/-! ## Readings of a buffer -/

namespace SenderId

variable {data : List UInt8} {sender : SenderId}

theorem ofExtended?_eq_some_iff :
    ofExtended? data = some sender ↔ (data.drop 1).take senderIdSize = sender.pack :=
  window?_bind_unpack?_eq_some_iff

theorem isSome_ofExtended? : (ofExtended? data).isSome ↔ 5 ≤ data.length :=
  isSome_window?_bind_unpack?

/-- The legacy extended layout has its sender among the bytes that are kept of it. -/
theorem ofExtended?_take (data : List UInt8) :
    ofExtended? (data.take extendedDataSize) = ofExtended? data := by
  have hkept : ((data.take extendedDataSize).drop 1).take senderIdSize =
      (data.drop 1).take senderIdSize := by
    rw [List.drop_take, List.take_take]
    rfl
  apply Option.ext
  intro sender
  rw [ofExtended?_eq_some_iff, ofExtended?_eq_some_iff, hkept]

/-- Behind the flag byte there is a sender exactly if the flag is set. -/
theorem ofFlagged?_eq_ite (data : List UInt8) :
    ofFlagged? data =
      if (data.getD standardDataSize 0).toNat.testBit 7 then
        (window? (standardDataSize + 1) data).bind unpack?
      else none := by
  rw [ofFlagged?, List.getD_eq_getElem?_getD]
  cases data[standardDataSize]? with
  | none => rfl
  | some flags =>
      have hmask : (flags &&& senderIdFlag != 0) = flags.toNat.testBit 7 :=
        @and_mask_ne_zero flags 7 (by decide)
      rw [Option.getD_some, ← hmask]
      by_cases hclear : flags &&& senderIdFlag = 0 <;> simp [hclear]

theorem ofFlagged?_eq_some_iff :
    ofFlagged? data = some sender ↔
      (data.getD standardDataSize 0).toNat.testBit 7 ∧
        (data.drop (standardDataSize + 1)).take senderIdSize = sender.pack := by
  rw [ofFlagged?_eq_ite, ← window?_bind_unpack?_eq_some_iff]
  split
  next hset => exact (and_iff_right hset).symm
  next hclear => exact ⟨nofun, fun hboth => absurd hboth.1 hclear⟩

theorem isSome_ofFlagged? :
    (ofFlagged? data).isSome ↔
      14 ≤ data.length ∧ (data.getD standardDataSize 0).toNat.testBit 7 := by
  rw [ofFlagged?_eq_ite]
  split
  next hset => exact isSome_window?_bind_unpack?.trans (and_iff_left hset).symm
  next hclear => exact ⟨nofun, fun hboth => absurd hboth.2 hclear⟩

end SenderId

/-! ## What data carries -/

namespace Message

variable {message : Message}

theorem channel_eq_of_take_eq {other : Message} {kept : Nat} (hpositive : 0 < kept)
    (hkept : other.payload.take kept = message.payload.take kept) :
    other.channel = message.channel := by
  have hfirst : other.payload[0]? = message.payload[0]? := by
    rw [← List.getElem?_take_of_lt hpositive, hkept, List.getElem?_take_of_lt hpositive]
  rw [channel, channel, byteAt, byteAt, List.getD_eq_getElem?_getD, List.getD_eq_getElem?_getD,
    hfirst]

/-- The packed form of a sender stands in the payload from a byte on, its device number first, low
byte before high byte. -/
def CarriesSender (message : Message) (start : Nat) (sender : SenderId) : Prop :=
  (message.payload.drop start).take senderIdSize = sender.pack ∧
    sender.deviceNumber.toNat =
      (message.byteAt start).toNat + 256 * (message.byteAt (start + 1)).toNat

theorem carriesSender_of_packed {start : Nat} {sender : SenderId}
    (hpacked : (message.payload.drop start).take senderIdSize = sender.pack) :
    message.CarriesSender start sender := by
  have hbyte {index : Nat} (hindex : index < senderIdSize) :
      message.byteAt (start + index) = sender.pack.getD index 0 := by
    rw [byteAt, ← hpacked, List.getD_eq_getElem?_getD, List.getD_eq_getElem?_getD,
      List.getElem?_take_of_lt hindex, List.getElem?_drop]
  have hlow := @hbyte 0 (by decide)
  have hhigh := @hbyte 1 (by decide)
  refine ⟨hpacked, ?_⟩
  rw [Nat.add_zero] at hlow
  rw [hlow, hhigh, ← toNat_ofLittleEndian]
  exact congrArg UInt16.toNat (ofLittleEndian_bytes sender.deviceNumber).symm

/-- Data brings an event with the code and the bytes that the wire asks for. -/
theorem event?_of_isData (hpayload : message.payload ≠ []) (hdata : message.IsData) :
    ∃ code length, message.dataDelivery? = some (code, length) ∧
      message.event? = some ⟨message.channel, code, message.payload.take length⟩ := by
  obtain ⟨⟨code, length⟩, hdelivery⟩ :=
    Option.isSome_iff_exists.mp (isSome_dataDelivery? hdata)
  have hid : message.id ≠ 0x40 := by
    intro hid
    simp [dataDelivery?, hid] at hdelivery
  refine ⟨code, length, hdelivery, ?_⟩
  rw [event?, if_neg hpayload, if_neg hid, hdelivery]
  rfl

theorem event?_of_packet (hpayload : message.payload ≠ []) (hid : message.IsPacketData) :
    ∃ code, message.event? = some ⟨message.channel, code, message.payload⟩ := by
  obtain ⟨code, length, hdelivery, hevent⟩ :=
    event?_of_isData hpayload (.inl (isStandardData_iff.mpr (.inl hid)))
  obtain ⟨rfl, -⟩ := dataDelivery?_packet hid hdelivery
  rw [size, List.take_length] at hevent
  exact ⟨code, hevent⟩

theorem event?_of_extended (hpayload : message.payload ≠ []) (hid : message.IsExtendedData) :
    ∃ code ∈ EventCode.extendedCodes, message.event? =
      some ⟨message.channel, code, message.payload.take extendedDataSize⟩ := by
  obtain ⟨code, length, hdelivery, hevent⟩ := event?_of_isData hpayload (.inr hid)
  obtain ⟨rfl, hcode⟩ := dataDelivery?_extended hid hdelivery
  rw [size, Nat.min_comm, ← List.take_eq_take_min] at hevent
  exact ⟨code, hcode, hevent⟩

/-- A sender is read behind a flag byte under a flagged code only, unless the bytes are those of an
advanced burst or of a channel event. -/
theorem flagged_of_sender {event : QueuedEvent} (hevent : message.event? = some event)
    (hsender : (SenderId.ofFlagged? event.data).isSome) :
    event.event ∈ EventCode.flaggedCodes ∨ message.id = 0x72 ∨ message.id = 0x40 := by
  obtain ⟨-, ⟨hid, -, -⟩ | ⟨-, code, length, hdelivery, rfl⟩⟩ := event?_cases hevent
  · exact .inr (.inr hid)
  obtain ⟨hlong, -⟩ := SenderId.isSome_ofFlagged?.mp hsender
  rw [List.length_take] at hlong
  rcases isData_of_dataDelivery? hdelivery with hstandard | hextended
  · rcases isStandardData_iff.mp hstandard with hpacket | hadvanced
    · obtain ⟨rfl, ⟨-, hcode⟩ | ⟨hshort, -⟩⟩ := dataDelivery?_packet hpacket hdelivery
      · exact .inl hcode
      · change message.size ≤ 9 at hshort
        omega
    · exact .inr (.inl hadvanced)
  · -- what is kept of the legacy extended layout ends before a sender behind a flag byte would
    obtain ⟨rfl, -⟩ := dataDelivery?_extended hextended hdelivery
    change 14 ≤ min (min message.size 13) message.payload.length at hlong
    omega

/-- Both kinds of message do bring what reads as a sender under the code of a plain burst packet. -/
example : ∀ message ∈ ([⟨0x72, [0, 1, 2, 3, 4, 5, 6, 7, 8, 0x80, 0x31, 0, 1, 1], by decide⟩,
      ⟨0x40, [0, 1, 0x9C, 3, 4, 5, 6, 7, 8, 0x80, 0x31, 0, 1, 1], by decide⟩] : List Message),
    message.event?.bind (fun event =>
      (SenderId.ofFlagged? event.data).map (Prod.mk event.event)) =
        some (EventCode.rxBurstPacket.value, ⟨49, 1, 1⟩) := by
  decide

end Message

/-! ## What handlers read -/

namespace Session

variable {H β : Type} [DecidableEq β] {session : Session H β} {message : Message}
  {slot : Slot H β}

theorem handed_of_event {event : QueuedEvent} (hevent : message.event? = some event)
    (hslot : session.table.slot? event.channel = some slot) :
    (session.route message).1 = some ⟨slot, event.channel, event.event⟩ ∧
      (session.route message).2.buffers.contents slot.buffer = event.data := by
  obtain ⟨hcall, hcontents⟩ := @delivers_of_event _ _ _ session _ _ hevent
  rw [hslot] at hcall hcontents
  exact ⟨hcall, (hcontents slot.buffer).trans (if_pos rfl)⟩

/-- A packet is handed on whole, under a flagged code if a sender can be read of it. -/
theorem handed_of_packet (hpayload : message.payload ≠ []) (hid : message.IsPacketData)
    (hslot : session.table.slot? message.channel = some slot) :
    ∃ code, (session.route message).1 = some ⟨slot, message.channel, code⟩ ∧
      (session.route message).2.buffers.contents slot.buffer = message.payload ∧
      ((SenderId.ofFlagged? message.payload).isSome → code ∈ EventCode.flaggedCodes) := by
  obtain ⟨code, hevent⟩ := Message.event?_of_packet hpayload hid
  obtain ⟨hcall, hfound⟩ := handed_of_event hevent hslot
  refine ⟨code, hcall, hfound, fun hsender => ?_⟩
  rcases Message.flagged_of_sender hevent hsender with hcode | hadvanced | hchannel
  · exact hcode
  · simp [Message.IsPacketData, hadvanced] at hid
  · simp [Message.IsPacketData, hchannel] at hid

/-- Of the legacy extended layout its own bytes are handed on. -/
theorem handed_of_extended (hpayload : message.payload ≠ []) (hid : message.IsExtendedData)
    (hslot : session.table.slot? message.channel = some slot) :
    ∃ code ∈ EventCode.extendedCodes,
      (session.route message).1 = some ⟨slot, message.channel, code⟩ ∧
        (session.route message).2.buffers.contents slot.buffer =
          message.payload.take extendedDataSize := by
  obtain ⟨code, hcode, hevent⟩ := Message.event?_of_extended hpayload hid
  exact ⟨code, hcode, handed_of_event hevent hslot⟩

/-- What a handler finds of the legacy extended layout is told by the bytes that are kept. -/
theorem contents_of_same_layout {other : Message} (hpayload : message.payload ≠ [])
    (hid : message.IsExtendedData) (hother : other.IsExtendedData)
    (hkept : other.payload.take extendedDataSize = message.payload.take extendedDataSize)
    (hslot : session.table.slot? message.channel = some slot) :
    (session.route other).2.buffers.contents slot.buffer =
      (session.route message).2.buffers.contents slot.buffer := by
  have hnonempty : other.payload ≠ [] := by
    intro hnil
    simp [hnil, hpayload, extendedDataSize, standardDataSize] at hkept
  have hchannel : other.channel = message.channel :=
    Message.channel_eq_of_take_eq (by decide) hkept
  obtain ⟨_, -, -, hfound⟩ := handed_of_extended hpayload hid hslot
  obtain ⟨_, -, -, hfound'⟩ := handed_of_extended hnonempty hother (hchannel ▸ hslot)
  rw [hfound', hfound, hkept]

/-- What a handler reads of the sender in its buffer, for every payload that is not empty. Data of
a packet has a sender exactly in the four bytes behind a flag byte with the highest bit set, and
the handler is then called with a flagged code, so with a plain code it reads none. Data in the
legacy extended layout has one exactly in the four bytes behind the channel byte, and nothing behind
the thirteen bytes that are kept matters to it. -/
theorem route_hands_on_senders (hpayload : message.payload ≠ [])
    (hslot : session.table.slot? message.channel = some slot) :
    let found := (session.route message).2.buffers.contents slot.buffer
    (message.IsPacketData → ∃ code,
      (session.route message).1 = some ⟨slot, message.channel, code⟩ ∧
        ((SenderId.ofFlagged? found).isSome ↔
          14 ≤ message.size ∧ (message.byteAt 9).toNat.testBit 7) ∧
        (∀ sender, SenderId.ofFlagged? found = some sender →
          message.CarriesSender 10 sender ∧ code ∈ EventCode.flaggedCodes) ∧
        (code ∈ EventCode.plainCodes → SenderId.ofFlagged? found = none)) ∧
    (message.IsExtendedData → ∃ code ∈ EventCode.extendedCodes,
      (session.route message).1 = some ⟨slot, message.channel, code⟩ ∧
        ((SenderId.ofExtended? found).isSome ↔ 5 ≤ message.size) ∧
        (∀ sender, SenderId.ofExtended? found = some sender → message.CarriesSender 1 sender) ∧
        ∀ other : Message, other.IsExtendedData →
          other.payload.take 13 = message.payload.take 13 →
          SenderId.ofExtended? ((session.route other).2.buffers.contents slot.buffer) =
            SenderId.ofExtended? found) := by
  intro found
  constructor
  · intro hid
    obtain ⟨code, hcall, hfound : found = _, hflagged⟩ := handed_of_packet hpayload hid hslot
    rw [hfound]
    refine ⟨code, hcall, SenderId.isSome_ofFlagged?, fun sender hsender => ⟨?_, ?_⟩,
      fun hplain => ?_⟩
    · exact Message.carriesSender_of_packed (SenderId.ofFlagged?_eq_some_iff.mp hsender).2
    · exact hflagged (Option.isSome_of_eq_some hsender)
    · refine Option.not_isSome_iff_eq_none.mp fun hsender => ?_
      exact EventCode.not_mem_flaggedCodes_of_plain code hplain (hflagged hsender)
  · intro hid
    obtain ⟨code, hcode, hcall, hfound : found = _⟩ := handed_of_extended hpayload hid hslot
    refine ⟨code, hcode, hcall, ?_, fun sender hsender => ?_, fun other hother hkept => ?_⟩
    · rw [hfound, SenderId.ofExtended?_take]
      exact SenderId.isSome_ofExtended?
    · rw [hfound, SenderId.ofExtended?_take] at hsender
      exact Message.carriesSender_of_packed (SenderId.ofExtended?_eq_some_iff.mp hsender)
    · rw [contents_of_same_layout hpayload hid hother hkept hslot]

/-- A burst packet with a flag byte names its sender, and so does a legacy broadcast. The latter is
longer than its layout; a burst packet that ends with the layout reads the same. -/
theorem route_hands_on_senders_of_device :
    let fresh : Session Unit Unit := start {}
    let session := { fresh with table := fresh.table.assign 3 ⟨(), ()⟩ }
    let found (message : Message) := (session.route message).2.buffers.contents ()
    let layout : List UInt8 := [3, 0x31, 2, 120, 5, 1, 2, 3, 4, 5, 6, 7, 8]
    let flagged : Message :=
      ⟨0x50, [0xA3, 1, 2, 3, 4, 5, 6, 7, 8, 0xC0, 0x31, 2, 120, 5, 9], by decide⟩
    let extended : Message := ⟨0x5D, layout ++ [0x80, 9, 9], by decide⟩
    let short : Message := ⟨0x5F, layout, by decide⟩
    (∃ code ∈ EventCode.flaggedCodes, ∃ sender,
      (session.route flagged).1 = some ⟨⟨(), ()⟩, 3, code⟩ ∧
        SenderId.ofFlagged? (found flagged) = some sender ∧ flagged.CarriesSender 10 sender) ∧
    ∃ sender, SenderId.ofExtended? (found extended) = some sender ∧
      extended.CarriesSender 1 sender ∧ SenderId.ofExtended? (found short) = some sender := by
  intro fresh session found layout flagged extended short
  constructor
  · obtain ⟨code, hcall, hsome, hread, -⟩ := (@route_hands_on_senders Unit Unit _ session flagged
      ⟨(), ()⟩ (by decide) (by decide)).1 (by decide)
    obtain ⟨sender, hsender⟩ := Option.isSome_iff_exists.mp (hsome.mpr (by decide))
    obtain ⟨hcarries, hcode⟩ := hread sender hsender
    rw [show flagged.channel = 3 by decide] at hcall
    exact ⟨code, hcode, sender, hcall, hsender, hcarries⟩
  · obtain ⟨_, -, -, hsome, hread, hcut⟩ := (@route_hands_on_senders Unit Unit _ session extended
      ⟨(), ()⟩ (by decide) (by decide)).2 (by decide)
    obtain ⟨sender, hsender⟩ := Option.isSome_iff_exists.mp (hsome.mpr (by decide))
    exact ⟨sender, hsender, hread sender hsender,
      (hcut short (by decide) (by decide)).trans hsender⟩

end Session

end AntHost
