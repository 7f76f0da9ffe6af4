import AntHost.Transport.Usb.Device
/-!
# USB links

Taking over a stick's interface, and carrying bytes over its bulk endpoints. Every call that
reaches the device is reported. Outbound bytes go in chunks of at most one packet; an inbound
packet that is longer than what was asked for is kept for the next read.
-/

namespace AntHost

/-- Milliseconds an outbound transfer may take. -/
def usbWriteTimeout : Nat := 100

/-- The milliseconds a transfer is given for a timeout, of which it counts 32 bits. -/
def transferTimeout (timeout : Nat) : Nat := timeout % UInt32.size

/-- A call that reaches a device. -/
inductive UsbCall where
  | openDevice (place : Nat)
  | driverActive (interface : UInt8)
  | detach (interface : UInt8)
  | reset
  | claim (interface : UInt8)
  | release (interface : UInt8)
  | attach (interface : UInt8)
  | closeHandle
  | bulkOut (endpoint : UInt8) (offered : List UInt8) (timeout transferred : Nat)
  | bulkIn (endpoint : UInt8) (room timeout transferred : Nat)
deriving DecidableEq, Repr

/-- An address and the largest packet it carries. -/
structure UsbPipe where
  address : UInt8
  packetSize : Nat
deriving DecidableEq, Repr

/-- An interface in use. -/
structure UsbLink where
  interface : UInt8
  inPipe : UsbPipe
  outPipe : UsbPipe
  /-- Bytes of the last packet that nobody has read. -/
  kept : List UInt8 := []
  closed : Bool := false
deriving DecidableEq, Repr

/-- The bulk pipe of a direction. -/
def UsbInterface.pipe (interface : UsbInterface) (direction : UsbDirection) :
    Except UsbSetupError UsbPipe :=
  match interface.bulkEndpoint? direction with
  | some endpoint => .ok ⟨endpoint.address, endpoint.packetSize⟩
  | none => .error (.cannotFindEndpoint direction)

/-- The fault an operation fails with, as a setup error. -/
def failing (fault : Option UsbFault) (error : UsbFault → UsbSetupError) :
    Except UsbSetupError Unit :=
  match fault with
  | some fault => .error (error fault)
  | none => .ok ()

namespace UsbDevice

/-- Takes over an interface of an open device: finds its pipes, detaches a bound driver, resets
the device and claims the interface. -/
def takeOver (device : UsbDevice) (interface : UsbInterface) :
    Except UsbSetupError UsbLink × List UsbCall :=
  let number := interface.number
  let asked := [UsbCall.driverActive number]
  match interface.pipe .outward, interface.pipe .inward with
  | .error error, _ | .ok _, .error error => (.error error, asked)
  | .ok outPipe, .ok inPipe =>
      let bound := match device.driver with
        | .ok bound => bound
        | .error _ => false
      let detached := if bound then asked ++ [.detach number] else asked
      match if bound then failing device.detachFault .unableToDetachDriver else .ok () with
      | .error error => (.error error, detached)
      | .ok () =>
          let reset := detached ++ [.reset]
          match failing device.resetFault .failedToReset with
          | .error error => (.error error, reset)
          | .ok () =>
              let claimed := reset ++ [.claim number]
              match failing device.claimFault .cannotClaimInterface with
              | .error error => (.error error, claimed)
              | .ok () => (.ok { interface := number, inPipe, outPipe }, claimed)

/-- Opens a device and takes over its first interface. A device that was opened in vain is closed
again. -/
def setUp (device : UsbDevice) (place : Nat) : Except UsbSetupError UsbLink × List UsbCall :=
  let opened := [UsbCall.openDevice place]
  match device.openFault with
  | some fault => (.error (.failedToOpenDevice fault), opened)
  | none =>
      match device.configFault, device.interfaces with
      | some fault, _ => (.error (.missingConfig fault), opened ++ [.closeHandle])
      | none, [] => (.error .noInterfaces, opened ++ [.closeHandle])
      | none, interface :: _ =>
          match device.takeOver interface with
          | (.ok link, calls) => (.ok link, opened ++ calls)
          | (.error error, calls) => (.error error, opened ++ calls ++ [.closeHandle])

end UsbDevice

/-- Where a write stands after one transfer. -/
inductive WriteProgress where
  | more (rest : List UInt8)
  | failed (error : TransportError)
deriving DecidableEq, Repr

/-- What an outbound transfer makes of the bytes still to be written: accepted bytes are done, a
timeout is tried again, any other fault ends the write. -/
def WriteProgress.after (rest : List UInt8) : Except UsbFault Nat → WriteProgress
  | .ok accepted => .more (rest.drop accepted)
  | .error .timeout => .more rest
  | .error fault => .failed (.usb fault)

namespace UsbLink

/-- The bytes offered next. -/
def chunk (link : UsbLink) (rest : List UInt8) : List UInt8 := rest.take link.outPipe.packetSize

/-- The room an inbound transfer asks for, if one is needed: a read takes kept bytes first. -/
def request? (link : UsbLink) (room : Nat) : Option Nat :=
  if link.kept = [] then some (max link.inPipe.packetSize room) else none

/-- Hands out kept bytes. -/
def handOut (link : UsbLink) (room : Nat) : List UInt8 × UsbLink :=
  (link.kept.take room, { link with kept := link.kept.drop room })

/-- What an inbound transfer makes of a read: its bytes are handed out as far as there is room, a
timeout hands out nothing, any other fault ends the read. -/
def receive (link : UsbLink) (room : Nat) :
    Except UsbFault (List UInt8) → Except TransportError (List UInt8) × UsbLink
  | .ok data =>
      let (handed, next) := { link with kept := link.kept ++ data }.handOut room
      (.ok handed, next)
  | .error .timeout => (.ok [], link)
  | .error fault => (.error (.usb fault), link)

def close (link : UsbLink) : UsbLink := { link with closed := true }

end UsbLink

/-- One outbound transfer over a pipe. -/
def UsbPipe.outCall (pipe : UsbPipe) (offered : List UInt8) (transferred : Nat) : UsbCall :=
  .bulkOut pipe.address offered usbWriteTimeout transferred

/-- Writes bytes over a pipe that takes everything it is offered. A pipe without packets never
finishes; its write is given up as timed out. -/
def sendFreely (pipe : UsbPipe) (rest : List UInt8) : Except TransportError Unit × List UsbCall :=
  if _hrest : rest = [] then (.ok (), [])
  else if _hsize : pipe.packetSize = 0 then (.error (.usb .timeout), [])
  else
    let offered := rest.take pipe.packetSize
    let (result, calls) := sendFreely pipe (rest.drop pipe.packetSize)
    (result, pipe.outCall offered offered.length :: calls)
termination_by rest.length
decreasing_by
  have hpos := List.length_pos_iff.mpr _hrest
  simp only [List.length_drop]
  omega

/-- Writes bytes chunk by chunk over a pipe whose next transfers are known, up to the first fault
other than a timeout. Answers the transfers not used. -/
def sendChunks (pipe : UsbPipe) : List BulkOut → List UInt8 →
    Except TransportError Unit × List UsbCall × List BulkOut
  | script, [] => (.ok (), [], script)
  | [], first :: rest =>
      let (result, calls) := sendFreely pipe (first :: rest)
      (result, calls, [])
  | transfer :: script, first :: rest =>
      let offered := (first :: rest).take pipe.packetSize
      let (outcome, transferred) := transfer.run offered.length
      let call := pipe.outCall offered transferred
      match WriteProgress.after (first :: rest) outcome with
      | .failed error => (.error error, [call], script)
      | .more left =>
          let (result, calls, unused) := sendChunks pipe script left
          (result, call :: calls, unused)

/-- A link together with its device. -/
structure UsbStick where
  place : Nat
  device : UsbDevice
  link : UsbLink

namespace UsbStick

/-- Takes over the `index`th stick on a bus. -/
def connect (bus : UsbBus) (index : Nat) : Except TransportError UsbStick × List UsbCall :=
  match findStick bus index with
  | .error error => (.error error, [])
  | .ok (place, device) =>
      match device.setUp place with
      | (.ok link, calls) => (.ok ⟨place, device, link⟩, calls)
      | (.error error, calls) => (.error (.usbSetup error), calls)

def write (stick : UsbStick) (bytes : List UInt8) :
    Except TransportError Unit × List UsbCall × UsbStick :=
  if stick.link.closed then (.error .closed, [], stick)
  else
    let (result, calls, unused) := sendChunks stick.link.outPipe stick.device.outbound bytes
    (result, calls, { stick with device := { stick.device with outbound := unused } })

/-- Reads up to `room` bytes, waiting at most `timeout` milliseconds. -/
def read (stick : UsbStick) (room timeout : Nat) :
    Except TransportError (List UInt8) × List UsbCall × UsbStick :=
  if stick.link.closed then (.error .closed, [], stick)
  else
    match stick.link.request? room with
    | none =>
        let (handed, link) := stick.link.handOut room
        (.ok handed, [], { stick with link })
    | some asked =>
        let (outcome, transferred, device) := stick.device.bulkIn asked
        let (result, link) := stick.link.receive room outcome
        (result, [.bulkIn stick.link.inPipe.address asked (transferTimeout timeout) transferred],
          { stick with device, link })

/-- The calls with which a handle goes away. -/
def dropCalls (stick : UsbStick) : List UsbCall := [.release stick.link.interface, .closeHandle]

/-- Hands the interface back to the kernel. A release that fails is tried again as the handle goes
away; a driver that cannot be attached again is left alone. -/
def release (stick : UsbStick) : Except TransportError Unit × List UsbCall :=
  let first := UsbCall.release stick.link.interface
  match stick.device.releaseFault with
  | some fault => (.error (.usb fault), first :: stick.dropCalls)
  | none => (.ok (), [first, .attach stick.link.interface, .closeHandle])

end UsbStick

end AntHost
