import AntHost.Frame.Basic
import AntHost.Proofs.Transport.UsbRead
/-!
# The room that inbound transfers ask for

A controller fills whole packets, so a transfer that asks for part of one may overflow. A read asks
for a packet at least; it asks for whole packets as long as its caller's buffer is no larger than
one, and above that only where the buffer is itself a number of packets. The largest frame is not,
over the packets of 64 bytes that most sticks have.
-/

namespace AntHost

/-- The rooms that calls ask a device for, one for each inbound transfer. -/
def roomsAsked (calls : List UsbCall) : List Nat :=
  calls.filterMap fun
    | .bulkIn _ asked _ _ => some asked
    | _ => none

theorem roomsAsked_sendFreely (pipe : UsbPipe) (rest : List UInt8) :
    roomsAsked (sendFreely pipe rest).2 = [] := by
  fun_induction sendFreely pipe rest with
  | case1 => rfl
  | case2 => rfl
  | case3 rest _ _ offered result calls hsend ih =>
      rw [hsend] at ih
      exact ih

theorem roomsAsked_sendChunks (pipe : UsbPipe) (outbound : List BulkOut) (rest : List UInt8) :
    roomsAsked (sendChunks pipe outbound rest).2.1 = [] := by
  fun_induction sendChunks pipe outbound rest with
  | case1 => rfl
  | case2 first rest result calls hsend =>
      have hnone := roomsAsked_sendFreely pipe (first :: rest)
      rwa [hsend] at hnone
  | case3 => rfl
  | case4 _ _ _ _ _ _ _ _ _ _ _ result calls unused hsend ih =>
      rw [hsend] at ih
      exact ih

/-- The larger of a packet and a buffer is whole packets unless the buffer is larger than one
packet and not itself a number of them. -/
theorem dvd_max_left_iff {size room : Nat} : size ∣ max size room ↔ room ≤ size ∨ size ∣ room := by
  rcases Nat.le_total room size with hfits | hexceeds
  · rw [Nat.max_eq_left hfits]
    exact ⟨fun _ => .inl hfits, fun _ => Nat.dvd_refl size⟩
  · rw [Nat.max_eq_right hexceeds]
    refine ⟨.inr, ?_⟩
    rintro (hfits | hwhole)
    · cases Nat.le_antisymm hfits hexceeds
      exact Nat.dvd_refl size
    · exact hwhole

namespace UsbStick

/-- A read asks the device for bytes once, and only over an open link that keeps none. -/
theorem roomsAsked_read (stick : UsbStick) (room timeout : Nat) :
    roomsAsked (stick.read room timeout).2.1 =
      if stick.link.closed = false ∧ stick.link.kept = [] then
        [max stick.link.inPipe.packetSize room]
      else [] := by
  unfold read UsbLink.request?
  cases hclosed : stick.link.closed with
  | true => simp [roomsAsked]
  | false =>
      by_cases hkept : stick.link.kept = []
      · simp [hkept, roomsAsked]
      · simp [hkept, roomsAsked]

theorem roomsAsked_write (stick : UsbStick) (bytes : List UInt8) :
    roomsAsked (stick.write bytes).2.1 = [] := by
  unfold write
  split
  next => rfl
  next => exact roomsAsked_sendChunks ..

theorem ReadCourse.inPipe_eq {stick next : UsbStick} {room timeout : Nat}
    {answer : Except TransportError (List UInt8)} {calls : List UsbCall}
    (hcourse : ReadCourse stick room timeout answer calls next) :
    next.link.inPipe = stick.link.inPipe := by
  cases hcourse <;> rfl

theorem write_inPipe (stick : UsbStick) (bytes : List UInt8) :
    (stick.write bytes).2.2.link.inPipe = stick.link.inPipe := by
  unfold write
  split <;> rfl

/-- Of all actions only a read asks for bytes, and none changes where they are read from. -/
theorem act_asks {stick next : UsbStick} {action : UsbAction}
    {answer : Except TransportError (List UInt8)} {calls : List UsbCall}
    (hact : act stick action = some ((answer, calls), next)) :
    next.link.inPipe = stick.link.inPipe ∧
      ∀ asked ∈ roomsAsked calls, ∃ room timeout, action = .read room timeout ∧
        roomsAsked calls = [asked] ∧ asked = max stick.link.inPipe.packetSize room := by
  cases action with
  | read room timeout =>
      obtain ⟨⟨rfl, rfl⟩, rfl⟩ := by
        simpa only [act, Option.some.injEq, Prod.mk.injEq] using hact
      refine ⟨(read_course stick room timeout).inPipe_eq, fun asked hasked => ?_⟩
      rw [roomsAsked_read] at hasked ⊢
      split at hasked
      next hneeded =>
        rw [if_pos hneeded]
        cases List.mem_singleton.mp hasked
        exact ⟨room, timeout, rfl, rfl, rfl⟩
      next => cases hasked
  | write bytes =>
      obtain ⟨⟨rfl, rfl⟩, rfl⟩ := by
        simpa only [act, Option.some.injEq, Prod.mk.injEq] using hact
      refine ⟨write_inPipe stick bytes, ?_⟩
      rw [roomsAsked_write]
      exact fun asked hasked => absurd hasked List.not_mem_nil
  | close =>
      cases hact
      exact ⟨rfl, fun asked hasked => absurd hasked List.not_mem_nil⟩

/-- In any run, whatever the stick keeps and however large the buffers are, an inbound transfer
belongs to a read and is the only one of it. It asks for a packet or for the buffer, whichever is
more, so for a whole packet at least. It asks for whole packets exactly if the buffer is no larger
than a packet or itself a number of packets. -/
theorem run_asks_for_packet_or_buffer (stick : UsbStick)
    (hsize : 1 ≤ stick.link.inPipe.packetSize) (actions : List UsbAction) :
    ∃ log last, replay act stick actions = some (log, last) ∧
      (∀ action answer calls, (action, answer, calls) ∈ log → ∀ asked ∈ roomsAsked calls,
        ∃ room timeout, action = .read room timeout ∧ roomsAsked calls = [asked] ∧
          asked = max stick.link.inPipe.packetSize room ∧
          0 < asked ∧ stick.link.inPipe.packetSize ≤ asked ∧
            (stick.link.inPipe.packetSize ∣ asked ↔
              room ≤ stick.link.inPipe.packetSize ∨ stick.link.inPipe.packetSize ∣ room)) ∧
      ∀ room timeout, roomsAsked (last.read room timeout).2.1 =
        if last.link.closed = false ∧ last.link.kept = [] then
          [max stick.link.inPipe.packetSize room]
        else [] := by
  obtain ⟨log, last, hrun⟩ := exists_replay exists_act stick actions
  have hasks : last.link.inPipe = stick.link.inPipe ∧
      ∀ action answer calls, (action, answer, calls) ∈ log → ∀ asked ∈ roomsAsked calls,
        ∃ room timeout, action = .read room timeout ∧ roomsAsked calls = [asked] ∧
          asked = max stick.link.inPipe.packetSize room := by
    apply replay_invariant ?_ ?_ hrun
    · exact ⟨rfl, fun _ _ _ hentry => absurd hentry List.not_mem_nil⟩
    · rintro earlier middle action ⟨answer, calls⟩ next ⟨hpipe, hearlier⟩ hact
      obtain ⟨hkept, hnow⟩ := act_asks hact
      rw [hpipe] at hkept hnow
      refine ⟨hkept, fun event reply made hentry => ?_⟩
      rcases List.mem_append.mp hentry with hbefore | hlast
      · exact hearlier event reply made hbefore
      · cases List.mem_singleton.mp hlast
        exact hnow
  refine ⟨log, last, hrun, ?_, fun room timeout => hasks.1 ▸ roomsAsked_read last room timeout⟩
  intro action answer calls hentry asked hasked
  obtain ⟨room, timeout, rfl, hone, rfl⟩ := hasks.2 action answer calls hentry asked hasked
  have hpacket := Nat.le_max_left stick.link.inPipe.packetSize room
  exact ⟨room, timeout, rfl, hone, rfl, Nat.le_trans hsize hpacket, hpacket, dvd_max_left_iff⟩

/-- A stick that has nothing to send. -/
def silentStick (packetSize : Nat) : UsbStick :=
  ⟨0, { vendor := stickVendor, product := 0x1008, interfaces := [] },
    { interface := 0, inPipe := ⟨0x81, packetSize⟩, outPipe := ⟨0x01, packetSize⟩ }⟩

/-- Over packets of 64 bytes, a read that has room for the largest frame asks for 68 bytes. -/
theorem run_asks_for_packet_or_buffer_of_largest_frame :
    let actions : List UsbAction := [.read maxFrameSize 100, .write [1], .read 13 100]
    1 ≤ (silentStick 64).link.inPipe.packetSize ∧
      ((replay act (silentStick 64) actions).map fun run =>
        run.1.map fun entry => roomsAsked entry.2.2) = some [[68], [], [64]] ∧
      ∃ log last, replay act (silentStick 64) actions = some (log, last) ∧
        ∀ action answer calls, (action, answer, calls) ∈ log → ∀ asked ∈ roomsAsked calls,
          ∃ room timeout, action = .read room timeout ∧ asked = max 64 room ∧ 64 ≤ asked ∧
            (64 ∣ asked ↔ room ≤ 64 ∨ 64 ∣ room) := by
  intro actions
  obtain ⟨log, last, hrun, hasks, -⟩ :=
    run_asks_for_packet_or_buffer (silentStick 64) (by decide) actions
  refine ⟨by decide, by decide +kernel, log, last, hrun, ?_⟩
  intro action answer calls hentry asked hasked
  obtain ⟨room, timeout, hread, -, heq, -, hle, hwhole⟩ :=
    hasks action answer calls hentry asked hasked
  exact ⟨room, timeout, hread, heq, hle, hwhole⟩

/-- The router's reads ask for a part of a packet of 64 bytes. -/
theorem not_forall_whole_packets :
    ¬ ∀ (stick : UsbStick) (room timeout : Nat), 1 ≤ stick.link.inPipe.packetSize →
      ∀ asked ∈ roomsAsked (stick.read room timeout).2.1,
        stick.link.inPipe.packetSize ∣ asked := by
  intro hwhole
  have hpackets := hwhole (silentStick 64) maxFrameSize 100 (by decide) 68
    (by rw [roomsAsked_read]; decide)
  revert hpackets
  decide

end UsbStick

end AntHost
