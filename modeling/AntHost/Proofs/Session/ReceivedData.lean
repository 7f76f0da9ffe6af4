import AntHost.Proofs.Session.Delivery
/-!
# Received data

The codes for received data tell a handler how its buffer is laid out. The router derives them from
the identifier and from the size of a data message being above a threshold or not: a shorter message
than its layout asks for gets the code all the same, and so does a channel event that carries such a
code itself. Every other message keeps the promise of its code.
-/

namespace AntHost

namespace EventCode

/-- One packet, with nothing behind it. -/
def packetCodes : List UInt8 := [rxBroadcast.value, rxAcknowledged.value]

/-- A packet, a flag byte and the fields the flags announce. -/
def flaggedCodes : List UInt8 :=
  [rxFlagBroadcast.value, rxFlagAcknowledged.value, rxFlagBurstPacket.value]

/-- A sender id and a packet. -/
def extendedCodes : List UInt8 :=
  [rxExtBroadcast.value, rxExtAcknowledged.value, rxExtBurstPacket.value]

/-- Data without a flag byte. -/
def plainCodes : List UInt8 := packetCodes ++ [rxBurstPacket.value]

/-- The codes made by the host when data arrives. -/
def receivedCodes : List UInt8 :=
  packetCodes ++ rxBurstPacket.value :: flaggedCodes ++ extendedCodes

theorem not_mem_flaggedCodes_of_plain : ∀ code ∈ plainCodes, code ∉ flaggedCodes := by
  simp [plainCodes, packetCodes, flaggedCodes, value]

end EventCode

namespace Message

def IsExtendedData (message : Message) : Prop := message.id ∈ [0x5D, 0x5E, 0x5F]

def IsStandardData (message : Message) : Prop := message.id ∈ [0x4E, 0x4F, 0x50, 0x72]

/-- Data of one packet. What follows the packet begins with a flag byte. -/
def IsPacketData (message : Message) : Prop := message.id ∈ [0x4E, 0x4F, 0x50]

def IsData (message : Message) : Prop := message.IsStandardData ∨ message.IsExtendedData

instance (message : Message) : Decidable message.IsExtendedData :=
  inferInstanceAs (Decidable (_ ∈ _))

instance (message : Message) : Decidable message.IsStandardData :=
  inferInstanceAs (Decidable (_ ∈ _))

instance (message : Message) : Decidable message.IsPacketData :=
  inferInstanceAs (Decidable (_ ∈ _))

instance (message : Message) : Decidable message.IsData := inferInstanceAs (Decidable (_ ∨ _))

theorem IsStandardData.not_isExtendedData {message : Message} (hstandard : message.IsStandardData) :
    ¬ message.IsExtendedData := by
  simp only [IsStandardData, List.mem_cons, List.not_mem_nil, or_false] at hstandard
  unfold IsExtendedData
  rcases hstandard with hid | hid | hid | hid
  all_goals
    rw [hid]
    decide

theorem isStandardData_iff {message : Message} :
    message.IsStandardData ↔ message.IsPacketData ∨ message.id = 0x72 := by
  simp [IsStandardData, IsPacketData, or_assoc]

/-- A channel event that carries a code for received data. -/
def ForgesData (message : Message) : Prop :=
  message.id = 0x40 ∧ message.byteAt 2 ∈ EventCode.receivedCodes

/-- A data message that ends before its packet does. -/
def CutShort (message : Message) : Prop :=
  message.IsStandardData ∧ message.size < standardDataSize ∨
    message.IsExtendedData ∧ message.size < extendedDataSize

/-- What its code lets a handler rely on, about the message behind the call and the bytes in the
buffer. -/
def Promised (message : Message) (code : UInt8) (data : List UInt8) : Prop :=
  (code ∈ EventCode.packetCodes → message.IsData ∧ data.length = standardDataSize) ∧
  (code = EventCode.rxBurstPacket.value → message.IsData ∧ standardDataSize ≤ data.length) ∧
  (code ∈ EventCode.flaggedCodes → message.IsData ∧ standardDataSize < data.length) ∧
  (code ∈ EventCode.extendedCodes → message.IsExtendedData ∧ data.length = extendedDataSize)

instance (message : Message) (code : UInt8) (data : List UInt8) :
    Decidable (message.Promised code data) :=
  inferInstanceAs (Decidable (_ ∧ _))

/-- Under a code for received data nothing is promised of another message; under any other code
there is nothing to promise. -/
theorem promised_of_not_isData {message : Message} (hdata : ¬ message.IsData) (code : UInt8)
    (data : List UInt8) : message.Promised code data ↔ code ∉ EventCode.receivedCodes := by
  have hextended : ¬ message.IsExtendedData := fun hextended => hdata (.inr hextended)
  simp only [Promised, hdata, hextended, false_and, imp_false, EventCode.receivedCodes,
    List.mem_append, List.mem_cons, not_or, and_assoc]

section Layouts

variable {message : Message} {code : UInt8} {data : List UInt8}

theorem promised_of_packet (hcode : code ∈ EventCode.packetCodes) :
    message.Promised code data ↔ message.IsData ∧ data.length = standardDataSize := by
  revert code
  simp [EventCode.packetCodes, EventCode.flaggedCodes, EventCode.extendedCodes, EventCode.value,
    Promised]

theorem promised_of_burst :
    message.Promised EventCode.rxBurstPacket.value data ↔
      message.IsData ∧ standardDataSize ≤ data.length := by
  simp [EventCode.packetCodes, EventCode.flaggedCodes, EventCode.extendedCodes, EventCode.value,
    Promised]

theorem promised_of_flagged (hcode : code ∈ EventCode.flaggedCodes) :
    message.Promised code data ↔ message.IsData ∧ standardDataSize < data.length := by
  revert code
  simp [EventCode.packetCodes, EventCode.flaggedCodes, EventCode.extendedCodes, EventCode.value,
    Promised]

theorem promised_of_extended (hcode : code ∈ EventCode.extendedCodes) :
    message.Promised code data ↔
      message.IsExtendedData ∧ data.length = extendedDataSize := by
  revert code
  simp [EventCode.packetCodes, EventCode.flaggedCodes, EventCode.extendedCodes, EventCode.value,
    Promised]

/-- The code of a packet tells whether more than the packet was sent. -/
theorem dataDelivery?_packet {length : Nat} (hid : message.IsPacketData)
    (hdata : message.dataDelivery? = some (code, length)) :
    length = message.size ∧
      (standardDataSize < message.size ∧ code ∈ EventCode.flaggedCodes ∨
        message.size ≤ standardDataSize ∧ code ∈ EventCode.plainCodes) := by
  unfold dataDelivery? at hdata
  split at hdata
  case h_1 | h_2 | h_3 =>
    cases hdata
    refine ⟨rfl, ?_⟩
    by_cases hsize : 9 < message.size
    · rw [if_pos hsize]
      exact .inl ⟨hsize, by decide⟩
    · rw [if_neg hsize]
      exact .inr ⟨Nat.not_lt.mp hsize, by decide⟩
  case h_8 => cases hdata
  all_goals
    next hid' => simp [IsPacketData, hid'] at hid

/-- The codes of the standard layout go by the size, but for burst packets that are not flagged. -/
theorem dataDelivery?_standard {length : Nat} (hid : message.IsStandardData)
    (hdata : message.dataDelivery? = some (code, length)) :
    length = message.size ∧
      (code ∈ EventCode.packetCodes ∧ message.size ≤ standardDataSize ∨
        code = EventCode.rxBurstPacket.value ∨
        code ∈ EventCode.flaggedCodes ∧ standardDataSize < message.size) := by
  rcases isStandardData_iff.mp hid with hpacket | hadvanced
  · obtain ⟨hlength, ⟨hsize, hcode⟩ | ⟨hsize, hcode⟩⟩ := dataDelivery?_packet hpacket hdata
    · exact ⟨hlength, .inr (.inr ⟨hcode, hsize⟩)⟩
    · rcases List.mem_append.mp hcode with hpacket | hburst
      · exact ⟨hlength, .inl ⟨hpacket, hsize⟩⟩
      · exact ⟨hlength, .inr (.inl (List.mem_singleton.mp hburst))⟩
  · simp only [dataDelivery?, hadvanced] at hdata
    cases hdata
    exact ⟨rfl, .inr (.inl rfl)⟩

theorem dataDelivery?_extended {length : Nat} (hid : message.IsExtendedData)
    (hdata : message.dataDelivery? = some (code, length)) :
    length = min message.size extendedDataSize ∧ code ∈ EventCode.extendedCodes := by
  unfold dataDelivery? at hdata
  split at hdata
  case h_4 | h_5 | h_6 =>
    cases hdata
    exact ⟨rfl, by decide⟩
  case h_8 => cases hdata
  all_goals
    next hid' => simp [IsExtendedData, hid'] at hid

theorem isData_of_dataDelivery? {delivery : UInt8 × Nat}
    (hdata : message.dataDelivery? = some delivery) : message.IsData := by
  unfold dataDelivery? at hdata
  split at hdata
  case h_8 => cases hdata
  all_goals
    next hid => simp [IsData, IsStandardData, IsExtendedData, hid]

theorem isSome_dataDelivery? (hdata : message.IsData) : (message.dataDelivery?).isSome := by
  simp only [IsData, IsStandardData, IsExtendedData, List.mem_cons, List.not_mem_nil,
    or_false] at hdata
  rcases hdata with (hid | hid | hid | hid) | (hid | hid | hid)
  all_goals
    simp only [dataDelivery?, hid]
    rfl

/-- Data in the standard layout keeps its promise from nine bytes on. -/
theorem promised_of_standard {length : Nat} (hid : message.IsStandardData)
    (hdata : message.dataDelivery? = some (code, length)) :
    message.Promised code (message.payload.take length) ↔ standardDataSize ≤ message.size := by
  have hisData : message.IsData := .inl hid
  obtain ⟨rfl, ⟨hcode, hsize⟩ | rfl | ⟨hcode, hsize⟩⟩ := dataDelivery?_standard hid hdata
  · rw [promised_of_packet hcode, size, List.take_length]
    exact ⟨fun hpromised => Nat.le_of_eq hpromised.2.symm,
      fun hle => ⟨hisData, Nat.le_antisymm hsize hle⟩⟩
  · rw [promised_of_burst, size, List.take_length]
    exact ⟨fun hpromised => hpromised.2, fun hle => ⟨hisData, hle⟩⟩
  · rw [promised_of_flagged hcode, size, List.take_length]
    exact ⟨fun _ => Nat.le_of_lt hsize, fun _ => ⟨hisData, hsize⟩⟩

/-- Data in the legacy extended layout keeps its promise from thirteen bytes on. -/
theorem promised_of_legacy {length : Nat} (hid : message.IsExtendedData)
    (hdata : message.dataDelivery? = some (code, length)) :
    message.Promised code (message.payload.take length) ↔ extendedDataSize ≤ message.size := by
  obtain ⟨rfl, hcode⟩ := dataDelivery?_extended hid hdata
  rw [promised_of_extended hcode, List.length_take]
  simp only [hid, true_and, size]
  omega

end Layouts

/-- The code of an event keeps its promise unless a channel event forges it or the data is cut
short. -/
theorem promised_of_event {message : Message} {event : QueuedEvent}
    (hevent : message.event? = some event) :
    message.Promised event.event event.data ↔ ¬ message.ForgesData ∧ ¬ message.CutShort := by
  obtain ⟨-, ⟨hid, -, rfl⟩ | ⟨hid, code, length, hdata, rfl⟩⟩ := event?_cases hevent
  · -- the device's own events are never data, whatever their code says
    have hdata : ¬ message.IsData := by
      simp [IsData, IsStandardData, IsExtendedData, hid]
    have hcut : ¬ message.CutShort := fun hcut => hdata (hcut.imp And.left And.left)
    rw [promised_of_not_isData hdata, ForgesData]
    simp only [hid, hcut, true_and, not_false_eq_true, and_true]
  · have hforges : ¬ message.ForgesData := fun hforges => hid hforges.1
    simp only [hforges, not_false_eq_true, true_and]
    rcases isData_of_dataDelivery? hdata with hstandard | hextended
    · have hlegacy := hstandard.not_isExtendedData
      rw [promised_of_standard hstandard hdata, CutShort]
      simp only [hstandard, hlegacy, true_and, false_and, or_false, Nat.not_lt]
    · have hstandard : ¬ message.IsStandardData :=
        fun hstandard => hstandard.not_isExtendedData hextended
      rw [promised_of_legacy hextended hdata, CutShort]
      simp only [hstandard, hextended, true_and, false_and, false_or, Nat.not_lt]

end Message

namespace Session

variable {H β : Type} [DecidableEq β]

/-- A message with an event reaches the handler of its channel, if there is one, and then the code
tells the handler the truth about its buffer, unless a channel event forges the code or the data is
cut short. No other message reaches a channel's handler. -/
theorem route_promises (session : Session H β) (message : Message) :
    match message.event? with
    | some event =>
        Delivers (session.table.slot? event.channel) event.channel event.event event.data session
            (session.route message).1 (session.route message).2 ∧
          (message.Promised event.event event.data ↔
            ¬ message.ForgesData ∧ ¬ message.CutShort)
    | none =>
        ∀ invocation, (session.route message).1 = some invocation →
          session.table.response = some invocation.slot := by
  cases hevent : message.event? with
  | some event => exact ⟨delivers_of_event hevent, Message.promised_of_event hevent⟩
  | none => exact fun invocation hcall => responds_of_no_event hevent hcall

/-- A broadcast of two bytes and a channel event both reach the handler as a broadcast packet. -/
theorem route_breaks_promises :
    let fresh : Session Unit Unit := start {}
    let session := { fresh with table := fresh.table.assign 0 ⟨(), ()⟩ }
    let short : Message := ⟨0x4E, [0x00, 0x01], by decide⟩
    let forged : Message := ⟨0x40, [0x00, 0x01, 0x9A], by decide⟩
    ∀ message ∈ [short, forged],
      (session.route message).1 = some ⟨⟨(), ()⟩, 0, EventCode.rxBroadcast.value⟩ ∧
        ¬ message.Promised EventCode.rxBroadcast.value
          ((session.route message).2.buffers.contents ()) := by
  decide

end Session

end AntHost
