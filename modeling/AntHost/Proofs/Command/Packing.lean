import AntHost.Frame.Encode
import AntHost.Proofs.Command.Layout
import AntHost.Proofs.Frame.Run
/-!
# Packing commands and reading them back

Packing and reading undo each other for every kind of command. Packing changes no byte but those it
writes, reading forgets nothing but reserved bits, and what does not fit is refused. Framed and
deframed in any chunks, a command is still the same.
-/

namespace AntHost

/-! ## Reading a command from its bytes -/

namespace CommandKind

/-- Bytes whose channel type, where the kind has one, is the value of a channel type. -/
def Readable (kind : CommandKind) (bytes : List UInt8) : Prop :=
  kind = .assignChannel → ∃ channelType : ChannelType, bytes[1]? = some channelType.value

/-- The right number of bytes is read as a command, unless its channel type is unknown. -/
theorem isSome_ofPayload?_iff {kind : CommandKind} {bytes : List UInt8}
    (hlength : bytes.length = kind.packedSize) :
    (kind.ofPayload? bytes).isSome ↔ kind.Readable bytes := by
  cases kind with
  | assignChannel =>
      match bytes, hlength with
      | [channel, type, network], _ =>
          change ((ChannelType.ofByte? type).map _).isSome ↔ _
          rw [Option.isSome_map, Option.isSome_iff_exists]
          constructor
          · rintro ⟨channelType, htype⟩ _
            exact ⟨channelType, congrArg some (ChannelType.value_of_ofByte? htype).symm⟩
          · intro hreadable
            obtain ⟨channelType, htype⟩ := hreadable rfl
            obtain rfl := Option.some.inj htype
            exact ⟨channelType, ChannelType.ofByte?_value channelType⟩
  | unassignChannel | resetSystem | openChannel | closeChannel =>
      match bytes, hlength with
      | [_], _ => exact ⟨fun _ => nofun, fun _ => rfl⟩
  | searchTimeout | channelRfFrequency | transmitPower | setChannelTransmitPower
  | enableExtRxMessages | libConfig | requestMessage =>
      match bytes, hlength with
      | [_, _], _ => exact ⟨fun _ => nofun, fun _ => rfl⟩
  | channelPeriod =>
      match bytes, hlength with
      | [_, _, _], _ => exact ⟨fun _ => nofun, fun _ => rfl⟩
  | channelId =>
      match bytes, hlength with
      | [_, _, _, _, _], _ => exact ⟨fun _ => nofun, fun _ => rfl⟩
  | setNetworkKey | broadcastData | acknowledgedData | burstData =>
      match bytes, hlength with
      | [_, _, _, _, _, _, _, _, _], _ => exact ⟨fun _ => nofun, fun _ => rfl⟩

/-- What is read is a command of the kind asked for, and packing it clears reserved bits only. -/
theorem bitsOf_payload_of_ofPayload? {kind : CommandKind} {bytes : List UInt8} {command : Command}
    (hread : kind.ofPayload? bytes = some command) :
    command.kind = kind ∧ bitsOf command.payload = keepBits command.fieldMask (bitsOf bytes) := by
  -- a kind without reserved bits gives its bytes back, the others are compared bit by bit
  suffices hpacked : command.kind = kind ∧
      (command.payload = bytes ∨
        command.fieldBits = keepBits command.fieldMask (bitsOf bytes)) by
    refine ⟨hpacked.1, ?_⟩
    rcases hpacked.2 with rfl | hmasked
    · exact command.keepBits_payload.symm
    · rw [command.bitsOf_payload, hmasked]
  unfold ofPayload? at hread
  split at hread
  case h_2 channel type network =>
    obtain ⟨channelType, htype, rfl⟩ := Option.map_eq_some_iff.mp hread
    have hvalue := ChannelType.value_of_ofByte? htype
    exact ⟨rfl, .inl (congrArg (fun byte => [channel, byte, network]) hvalue)⟩
  case h_3 channel low high deviceType transmissionType =>
    cases hread
    have hnumber := littleEndian_ofLittleEndian low high
    exact ⟨rfl, .inl (congrArg (channel :: · ++ [deviceType, transmissionType]) hnumber)⟩
  case h_4 channel low high =>
    cases hread
    exact ⟨rfl, .inl (congrArg (channel :: ·) (littleEndian_ofLittleEndian low high))⟩
  case h_8 | h_12 =>
    cases hread
    exact ⟨rfl, .inr rfl⟩
  case h_10 _ flags =>
    cases hread
    have henable : (flags &&& 0x01 != 0) = flags.toNat.testBit 0 :=
      @and_mask_ne_zero flags 0 (by decide)
    rw [henable]
    exact ⟨rfl, .inr rfl⟩
  case h_11 _ flags =>
    cases hread
    have hsender : (flags &&& 0x80 != 0) = flags.toNat.testBit 7 :=
      @and_mask_ne_zero flags 7 (by decide)
    have hrssi : (flags &&& 0x40 != 0) = flags.toNat.testBit 6 :=
      @and_mask_ne_zero flags 6 (by decide)
    have htimestamp : (flags &&& 0x20 != 0) = flags.toNat.testBit 5 :=
      @and_mask_ne_zero flags 5 (by decide)
    rw [hsender, hrssi, htimestamp]
    exact ⟨rfl, .inr rfl⟩
  case h_19 => cases hread
  all_goals
    cases hread
    exact ⟨rfl, .inl rfl⟩

/-- Reading bytes of this kind, and what packing the result comes to. -/
def ReadsFrom (kind : CommandKind) (bytes : List UInt8) : Prop :=
  (bytes.length ≠ kind.packedSize ∧
      kind.unpack bytes = .error (.bufferSizeMismatch kind.packedSize bytes.length)) ∨
    (bytes.length = kind.packedSize ∧ ¬ kind.Readable bytes ∧
      kind.unpack bytes = .error .invalidValue) ∨
    bytes.length = kind.packedSize ∧ kind.Readable bytes ∧
      ∃ command, kind.unpack bytes = .ok command ∧ command.kind = kind ∧
        bitsOf command.payload = keepBits command.fieldMask (bitsOf bytes)

theorem unpack_of_some {kind : CommandKind} {bytes : List UInt8} {command : Command}
    (hlength : bytes.length = kind.packedSize) (hread : kind.ofPayload? bytes = some command) :
    kind.unpack bytes = .ok command := by
  rw [unpack, if_neg (not_not_intro hlength), hread]

theorem readsFrom (kind : CommandKind) (bytes : List UInt8) : kind.ReadsFrom bytes := by
  by_cases hlength : bytes.length = kind.packedSize
  · have hreadable := isSome_ofPayload?_iff hlength
    cases hread : kind.ofPayload? bytes with
    | none =>
        rw [hread] at hreadable
        refine .inr (.inl ⟨hlength, fun h => Bool.noConfusion (hreadable.mpr h), ?_⟩)
        rw [unpack, if_neg (not_not_intro hlength), hread]
    | some command =>
        rw [hread] at hreadable
        exact .inr (.inr ⟨hlength, hreadable.mp rfl, command, unpack_of_some hlength hread,
          bitsOf_payload_of_ofPayload? hread⟩)
  · exact .inl ⟨hlength, if_pos hlength⟩

end CommandKind

/-! ## Packing a command into a buffer -/

namespace Command

theorem exists_octets (octets : Octets) :
    ∃ b0 b1 b2 b3 b4 b5 b6 b7, octets = #v[b0, b1, b2, b3, b4, b5, b6, b7] := by
  obtain ⟨⟨bytes⟩, hlength⟩ := octets
  match bytes, hlength with
  | [b0, b1, b2, b3, b4, b5, b6, b7], _ => exact ⟨b0, b1, b2, b3, b4, b5, b6, b7, rfl⟩

/-- A packed command is read back as it was. -/
theorem ofPayload?_payload (command : Command) :
    command.kind.ofPayload? command.payload = some command := by
  cases command with
  | assignChannel channel channelType network => cases channelType <;> rfl
  | channelId channel sender =>
      change some (Command.channelId channel ⟨ofLittleEndian _ _, _, _⟩) = _
      rw [ofLittleEndian_bytes]
  | channelPeriod channel period =>
      exact congrArg (fun number => some (Command.channelPeriod channel number))
        (ofLittleEndian_bytes period)
  | enableExtRxMessages enable => cases enable <;> rfl
  | libConfig senderId rssi rxTimestamp =>
      cases senderId <;> cases rssi <;> cases rxTimestamp <;> rfl
  | setNetworkKey _ octets | broadcastData _ octets | acknowledgedData _ octets
  | burstData _ octets =>
      obtain ⟨b0, b1, b2, b3, b4, b5, b6, b7, rfl⟩ := exists_octets octets
      rfl
  | _ => rfl

theorem unpack_payload (command : Command) : command.kind.unpack command.payload = .ok command :=
  CommandKind.unpack_of_some command.length_payload command.ofPayload?_payload

/-- Packing writes the fields of a command at the front of a buffer, from where it is read back, and
nothing else. Where there is no room for all of them it writes nothing. -/
def PacksInto (command : Command) (buffer : List UInt8) : Prop :=
  let size := command.kind.packedSize
  let (result, after) := command.packInto buffer
  if size ≤ buffer.length then
    result = .ok size ∧ after.length = buffer.length ∧ after.drop size = buffer.drop size ∧
      bitsOf (after.take size) = command.fieldBits ∧
      command.kind.unpack (after.take size) = .ok command
  else result = .error (.bufferSizeMismatch size buffer.length) ∧ after = buffer

theorem packsInto (command : Command) (buffer : List UInt8) : command.PacksInto buffer := by
  unfold PacksInto packInto
  by_cases hroom : command.kind.packedSize ≤ buffer.length
  · rw [if_neg (Nat.not_lt.mpr hroom)]
    dsimp only
    rw [if_pos hroom, List.take_left' command.length_payload,
      List.drop_left' command.length_payload, List.length_append, List.length_drop,
      command.length_payload]
    exact ⟨rfl, Nat.add_sub_cancel' hroom, rfl, command.bitsOf_payload, command.unpack_payload⟩
  · rw [if_pos (Nat.not_le.mp hroom)]
    dsimp only
    rw [if_neg hroom]
    exact ⟨rfl, rfl⟩

/-! ## Through frames -/

/-- The message as which a command is sent. -/
def message (command : Command) : Message :=
  ⟨command.messageId.value, command.payload, command.packedSize_le⟩

/-- A frame that is pushed in chunks and pulled until nothing is left gives this command, and leaves
nothing behind. -/
def Arrives (limit : PayloadLimit) (command : Command) (frame : List UInt8) : Prop :=
  ∀ actions, Deframer.pushed actions = frame →
    (∃ pulls, Deframer.Settles { limit } (actions ++ List.replicate pulls .pull)) ∧
      (Deframer.Settles { limit } actions →
        ∃ message, Deframer.found (Deframer.run { limit } actions).1 = [.message message] ∧
          (Deframer.run { limit } actions).2.buffer = [] ∧
          message.messageId? = some command.messageId ∧
          command.kind.unpack message.payload = .ok command)

theorem arrives_frame {limit : PayloadLimit} {command : Command}
    (hsize : command.kind.packedSize ≤ limit.bytes) :
    command.Arrives limit command.message.frame := by
  intro actions hpushed
  refine ⟨Deframer.exists_settles _ actions, fun hsettles => ?_⟩
  have hread := hsettles.read_eq
  have hframe := @Stream.read_frames limit [command.message]
    (List.forall_mem_singleton.mpr (Nat.le_trans (Nat.le_of_eq command.length_payload) hsize))
  rw [List.map_singleton, List.flatten_singleton] at hframe
  rw [hpushed, hframe, Prod.mk.injEq] at hread
  exact ⟨command.message, hread.1.symm, hread.2.symm, MessageId.ofByte?_value _,
    command.unpack_payload⟩

/-- Packing and reading are inverse to each other up to reserved bits, for every command and for
all bytes, and a command survives being framed and deframed. -/
theorem packing_inverts_reading :
    (∀ command buffer, PacksInto command buffer) ∧
      (∀ kind bytes, CommandKind.ReadsFrom kind bytes) ∧
      ∀ limit command output, command.kind.packedSize ≤ limit.bytes →
        frameSize command.kind.packedSize ≤ output.length →
          ∃ frame, (encodeCommand limit command output).1 = .ok frame ∧
            command.Arrives limit frame := by
  refine ⟨packsInto, CommandKind.readsFrom, fun limit command output hsize hroom => ?_⟩
  refine ⟨command.message.frame, ?_, arrives_frame hsize⟩
  rw [encodeCommand_of_fits hsize hroom]
  rfl

/-- Flags under the smallest limit, in a buffer one byte too long, cut in the header and pulled in
between. -/
theorem packing_inverts_reading_of_flags :
    (encodeCommand (.ofNat 2) (.libConfig true false true) (List.replicate 7 0xFF)).1 =
        .ok [0xA4, 0x02, 0x6E, 0x00, 0xA0, 0x68] ∧
      ∃ message, Deframer.found (Deframer.run { limit := .ofNat 2 }
          [.push [0xA4, 0x02], .pull, .push [0x6E, 0x00, 0xA0, 0x68], .pull, .pull, .pull]).1 =
            [.message message] ∧
        message.messageId? = some .libConfig ∧
        CommandKind.libConfig.unpack message.payload = .ok (.libConfig true false true) := by
  obtain ⟨frame, hframe, harrives⟩ := packing_inverts_reading.2.2 (.ofNat 2)
    (.libConfig true false true) (List.replicate 7 0xFF) (by decide) (by decide)
  have hbytes : frame = [0xA4, 0x02, 0x6E, 0x00, 0xA0, 0x68] := (Except.ok.inj hframe).symm
  subst hbytes
  obtain ⟨_, hsettled⟩ := harrives
    [.push [0xA4, 0x02], .pull, .push [0x6E, 0x00, 0xA0, 0x68], .pull, .pull, .pull] rfl
  obtain ⟨message, hfound, _, hid, hunpack⟩ := hsettled
    ⟨[.push [0xA4, 0x02], .pull, .push [0x6E, 0x00, 0xA0, 0x68], .pull],
      [.ok none, .ok (some ⟨0x6E, [0x00, 0xA0], by decide⟩)], rfl, rfl⟩
  exact ⟨hframe, message, hfound, hid, hunpack⟩

end Command

end AntHost
