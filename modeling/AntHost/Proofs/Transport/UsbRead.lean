import AntHost.Transport.Usb.Link
import AntHost.Proofs.Replay
import AntHost.Proofs.Transport.Traffic
/-!
# Reads from a USB device

A read hands out what is kept of an earlier packet, and asks the device only where nothing is kept.
What a packet has too much for the caller is kept in turn, so the bytes handed out and the bytes
kept are together all the bytes that the device has sent.
-/

namespace AntHost

/-- The bytes that a device has sent, given the transfers to come and the calls made since. A device
that has no transfer to come times out. -/
def received : List BulkIn → List UsbCall → List UInt8
  | _, [] => []
  | script, .bulkIn _ asked _ _ :: calls =>
      handed ((script.headD ⟨[], some .timeout⟩).run asked).1 ++ received script.tail calls
  | script, _ :: calls => received script calls

@[simp] theorem received_nil (script : List BulkIn) : received script [] = [] := by
  rw [received]

theorem received_bulkIn {device next : UsbDevice} {asked transferred : Nat}
    {outcome : Except UsbFault (List UInt8)}
    (hbulk : device.bulkIn asked = (outcome, transferred, next)) (endpoint : UInt8)
    (timeout : Nat) (later : List UsbCall) :
    received device.inbound (.bulkIn endpoint asked timeout transferred :: later) =
      handed outcome ++ received next.inbound later := by
  unfold UsbDevice.bulkIn at hbulk
  cases hinbound : device.inbound with
  | nil =>
      simp only [hinbound, Prod.mk.injEq] at hbulk
      obtain ⟨rfl, rfl, rfl⟩ := hbulk
      rw [hinbound]
      rfl
  | cons transfer rest =>
      simp only [hinbound, Prod.mk.injEq] at hbulk
      obtain ⟨rfl, rfl, rfl⟩ := hbulk
      rfl

theorem received_sendFreely (pipe : UsbPipe) (rest : List UInt8) (script : List BulkIn)
    (later : List UsbCall) :
    received script ((sendFreely pipe rest).2 ++ later) = received script later := by
  fun_induction sendFreely pipe rest with
  | case1 => rfl
  | case2 => rfl
  | case3 rest _ _ offered result calls hsend ih =>
      rw [hsend] at ih
      exact ih

/-- Writing asks a device for no bytes. -/
theorem received_sendChunks (pipe : UsbPipe) (outbound : List BulkOut) (rest : List UInt8)
    (script : List BulkIn) (later : List UsbCall) :
    received script ((sendChunks pipe outbound rest).2.1 ++ later) = received script later := by
  fun_induction sendChunks pipe outbound rest with
  | case1 => rfl
  | case2 first rest result calls hsend =>
      have hnone := received_sendFreely pipe (first :: rest) script later
      rwa [hsend] at hnone
  | case3 => rfl
  | case4 _ _ _ _ _ _ _ _ _ _ _ result calls unused hsend ih =>
      rw [hsend] at ih
      exact ih

namespace UsbStick

/-- The ways a read can go: its answer, the calls that reach the device, and the stick after it. -/
inductive ReadCourse (stick : UsbStick) (room timeout : Nat) :
    Except TransportError (List UInt8) → List UsbCall → UsbStick → Prop
  | closed (hclosed : stick.link.closed = true) :
      ReadCourse stick room timeout (.error .closed) [] stick
  | kept (hopen : stick.link.closed = false) (hkept : stick.link.kept ≠ []) :
      ReadCourse stick room timeout (.ok (stick.link.kept.take room)) []
        { stick with link.kept := stick.link.kept.drop room }
  | packet (hopen : stick.link.closed = false) (hkept : stick.link.kept = [])
      {asked transferred : Nat} {packet : List UInt8} {device : UsbDevice}
      (hbulk : stick.device.bulkIn asked = (.ok packet, transferred, device)) :
      ReadCourse stick room timeout (.ok (packet.take room))
        [.bulkIn stick.link.inPipe.address asked (transferTimeout timeout) transferred]
        { stick with device, link.kept := packet.drop room }
  | timedOut (hopen : stick.link.closed = false) (hkept : stick.link.kept = [])
      {asked transferred : Nat} {device : UsbDevice}
      (hbulk : stick.device.bulkIn asked = (.error .timeout, transferred, device)) :
      ReadCourse stick room timeout (.ok [])
        [.bulkIn stick.link.inPipe.address asked (transferTimeout timeout) transferred]
        { stick with device }
  | failed (hopen : stick.link.closed = false) (hkept : stick.link.kept = [])
      {asked transferred : Nat} {fault : UsbFault} {device : UsbDevice} (hfault : fault ≠ .timeout)
      (hbulk : stick.device.bulkIn asked = (.error fault, transferred, device)) :
      ReadCourse stick room timeout (.error (.usb fault))
        [.bulkIn stick.link.inPipe.address asked (transferTimeout timeout) transferred]
        { stick with device }

theorem receive_error {fault : UsbFault} (hfault : fault ≠ .timeout) (link : UsbLink)
    (room : Nat) : link.receive room (.error fault) = (.error (.usb fault), link) := by
  cases fault with
  | timeout => exact absurd rfl hfault
  | _ => rfl

theorem read_course (stick : UsbStick) (room timeout : Nat) :
    ReadCourse stick room timeout (stick.read room timeout).1 (stick.read room timeout).2.1
      (stick.read room timeout).2.2 := by
  cases hclosed : stick.link.closed with
  | true =>
      rw [read, if_pos hclosed]
      exact .closed hclosed
  | false =>
      rw [read, if_neg (Bool.eq_false_iff.mp hclosed)]
      by_cases hkept : stick.link.kept = []
      · rw [UsbLink.request?, if_pos hkept]
        dsimp only
        generalize hbulk : stick.device.bulkIn (max stick.link.inPipe.packetSize room) = bulk
        obtain ⟨outcome, transferred, device⟩ := bulk
        cases outcome with
        | ok packet =>
            rw [UsbLink.receive, hkept]
            exact .packet hclosed hkept hbulk
        | error fault =>
            by_cases hfault : fault = .timeout
            · subst hfault
              exact .timedOut hclosed hkept hbulk
            · rw [receive_error hfault]
              exact .failed hclosed hkept hfault hbulk
      · rw [UsbLink.request?, if_neg hkept]
        exact .kept hclosed hkept

/-- These bytes were handed out and these calls made from one moment to a later one. -/
structure Moves (stick : UsbStick) (bytes : List UInt8) (calls : List UsbCall)
    (next : UsbStick) : Prop where
  bytes_eq : bytes ++ next.link.kept = stick.link.kept ++ received stick.device.inbound calls
  /-- What the device sends later is up to the transfers that it has left. -/
  received_append : ∀ later, received stick.device.inbound (calls ++ later) =
    received stick.device.inbound calls ++ received next.device.inbound later
  closed_of_closed : stick.link.closed = true → next.link.closed = true

namespace Moves

variable {stick middle next : UsbStick} {bytes more : List UInt8} {calls later : List UsbCall}

theorem refl (stick : UsbStick) : Moves stick [] [] stick where
  bytes_eq := by simp
  received_append _ := by simp
  closed_of_closed := id

theorem trans (hfirst : Moves stick bytes calls middle) (hsecond : Moves middle more later next) :
    Moves stick (bytes ++ more) (calls ++ later) next where
  bytes_eq := by
    rw [List.append_assoc, hsecond.bytes_eq, ← List.append_assoc, hfirst.bytes_eq,
      hfirst.received_append, List.append_assoc]
  received_append last := by
    rw [List.append_assoc, hfirst.received_append, hfirst.received_append,
      hsecond.received_append, List.append_assoc]
  closed_of_closed hclosed := hsecond.closed_of_closed (hfirst.closed_of_closed hclosed)

/-- What a transfer brings to a stick that keeps nothing is handed out or kept. -/
theorem of_bulkIn {asked transferred timeout : Nat} {outcome : Except UsbFault (List UInt8)}
    {endpoint : UInt8} (hkept : stick.link.kept = [])
    (hbulk : stick.device.bulkIn asked = (outcome, transferred, next.device))
    (hbytes : bytes ++ next.link.kept = handed outcome)
    (hclosed : next.link.closed = stick.link.closed) :
    Moves stick bytes [.bulkIn endpoint asked timeout transferred] next where
  bytes_eq := by simp [hbytes, hkept, received_bulkIn hbulk]
  received_append later := by simp [received_bulkIn hbulk]
  closed_of_closed := hclosed.trans

end Moves

theorem ReadCourse.moves {stick next : UsbStick} {room timeout : Nat}
    {answer : Except TransportError (List UInt8)} {calls : List UsbCall}
    (hcourse : ReadCourse stick room timeout answer calls next) :
    Moves stick (handed answer) calls next := by
  cases hcourse with
  | closed => exact .refl stick
  | kept => exact ⟨by simp [handed], by simp, id⟩
  | packet _ hkept hbulk => exact .of_bulkIn hkept hbulk (List.take_append_drop room _) rfl
  | timedOut _ hkept hbulk => exact .of_bulkIn hkept hbulk hkept rfl
  | failed _ hkept _ hbulk => exact .of_bulkIn hkept hbulk hkept rfl

theorem write_moves (stick : UsbStick) (bytes : List UInt8) :
    Moves stick [] (stick.write bytes).2.1 (stick.write bytes).2.2 := by
  unfold write
  split
  next => exact .refl stick
  next =>
    have hsent := received_sendChunks stick.link.outPipe stick.device.outbound bytes
      stick.device.inbound
    have hnone := hsent []
    rw [List.append_nil] at hnone
    exact ⟨by simp [hnone], by simp [hnone, hsent], id⟩

end UsbStick

/-! ## Runs -/

/-- What is done with a stick. -/
inductive UsbAction where
  | read (room timeout : Nat)
  | write (bytes : List UInt8)
  | close
deriving DecidableEq, Repr

namespace UsbStick

/-- Carries out an action. Answers the bytes that it hands out and the calls that reach the
device. -/
def act (stick : UsbStick) : UsbAction →
    Option ((Except TransportError (List UInt8) × List UsbCall) × UsbStick)
  | .read room timeout =>
      let (answer, calls, next) := stick.read room timeout
      some ((answer, calls), next)
  | .write bytes =>
      let (result, calls, next) := stick.write bytes
      some ((result.map fun () => [], calls), next)
  | .close => some ((.ok [], []), { stick with link := stick.link.close })

theorem act_moves {stick next : UsbStick} {action : UsbAction}
    {answer : Except TransportError (List UInt8)} {calls : List UsbCall}
    (hact : act stick action = some ((answer, calls), next)) :
    Moves stick (handed answer) calls next := by
  cases action with
  | read room timeout =>
      cases hact
      exact (read_course stick room timeout).moves
  | write bytes =>
      have hmoves := write_moves stick bytes
      obtain ⟨⟨rfl, rfl⟩, rfl⟩ := by
        simpa only [act, Option.some.injEq, Prod.mk.injEq] using hact
      cases (stick.write bytes).1 with
      | ok => exact hmoves
      | error => exact hmoves
  | close =>
      cases hact
      exact ⟨by simp [handed, UsbLink.close], by simp, fun _ => rfl⟩

theorem exists_act (stick : UsbStick) (action : UsbAction) :
    ∃ answer next, act stick action = some (answer, next) := by
  cases action with
  | read => exact ⟨_, _, rfl⟩
  | write => exact ⟨_, _, rfl⟩
  | close => exact ⟨_, _, rfl⟩

/-- After any run, what was handed out and what is kept are together what was kept before and what
the device has sent since; a read asks the device only where nothing is kept, and gives up what is
kept only by handing it out; and after a close every read fails without touching anything. -/
theorem run_keeps_bytes (stick : UsbStick) (actions : List UsbAction) :
    ∃ log last, replay act stick actions = some (log, last) ∧
      log.flatMap (fun entry => handed entry.2.1) ++ last.link.kept =
          stick.link.kept ++ received stick.device.inbound (log.flatMap fun entry => entry.2.2) ∧
        (∀ room timeout, ReadCourse last room timeout (last.read room timeout).1
          (last.read room timeout).2.1 (last.read room timeout).2.2) ∧
        (.close ∈ actions →
          ∀ room timeout, last.read room timeout = (.error .closed, [], last)) := by
  obtain ⟨log, last, hrun⟩ := exists_replay exists_act stick actions
  -- along with the bytes goes that a close is not undone by any later action
  have hmoves : Moves stick (log.flatMap fun entry => handed entry.2.1)
      (log.flatMap fun entry => entry.2.2) last ∧
        (.close ∈ log.map Prod.fst → last.link.closed = true) := by
    apply replay_invariant ?_ ?_ hrun
    · exact ⟨.refl stick, by simp⟩
    · rintro earlier middle action ⟨answer, calls⟩ next ⟨hearlier, hclosed⟩ hact
      have hnext := act_moves hact
      refine ⟨by simpa using hearlier.trans hnext, ?_⟩
      rw [List.map_append, List.mem_append]
      rintro (hbefore | hnow)
      · exact hnext.closed_of_closed (hclosed hbefore)
      · cases List.mem_singleton.mp hnow
        cases hact
        rfl
  refine ⟨log, last, hrun, hmoves.1.bytes_eq, read_course last, ?_⟩
  rw [← replay_events hrun]
  intro hclose room timeout
  rw [read, if_pos (hmoves.2 hclose)]

end UsbStick

end AntHost
