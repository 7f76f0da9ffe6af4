import AntHost.Transport.Error
/-!
# USB devices

The part of a USB device that matters to a host: its descriptors, what its operations answer, and
what its bulk transfers will do. A stick is known by its vendor and product.
-/

namespace AntHost

/-- Vendor of the sticks. -/
def stickVendor : UInt16 := 0x0FCF

/-- Products of the two kinds of sticks. -/
def stickProducts : List UInt16 := [0x1008, 0x1009]

/-- Whether vendor and product name a stick. -/
def isStick (vendor product : UInt16) : Bool :=
  vendor == stickVendor && stickProducts.contains product

structure UsbEndpoint where
  address : UInt8
  attributes : UInt8
  packetSize : Nat
deriving DecidableEq, Repr

namespace UsbEndpoint

/-- The top address bit gives the direction. -/
def direction (endpoint : UsbEndpoint) : UsbDirection :=
  if endpoint.address &&& 0x80 = 0 then .outward else .inward

/-- The low two attribute bits give the kind of transfer. -/
def isBulk (endpoint : UsbEndpoint) : Bool := endpoint.attributes &&& 0x03 == 2

end UsbEndpoint

/-- An interface with the endpoints of its alternate settings. -/
structure UsbInterface where
  number : UInt8
  settings : List (List UsbEndpoint)
deriving DecidableEq, Repr

/-- The first bulk endpoint of a direction, over all settings. -/
def UsbInterface.bulkEndpoint? (interface : UsbInterface) (direction : UsbDirection) :
    Option UsbEndpoint :=
  interface.settings.flatten.find? fun endpoint =>
    endpoint.direction == direction && endpoint.isBulk

/-- An outbound bulk transfer to come: how much it takes, and what it reports. -/
structure BulkOut where
  accepts : Nat := 0
  fault : Option UsbFault := none
deriving DecidableEq, Repr

/-- An inbound bulk transfer to come: what arrives, and what it reports. -/
structure BulkIn where
  data : List UInt8 := []
  fault : Option UsbFault := none
deriving DecidableEq, Repr

/-- A device on the bus. An operation with a fault fails with it whenever it is tried. -/
structure UsbDevice where
  vendor : UInt16
  product : UInt16
  interfaces : List UsbInterface
  /-- Whether a kernel driver is bound, or why that is unknown. -/
  driver : Except UsbFault Bool := .ok false
  descriptorFault : Option UsbFault := none
  openFault : Option UsbFault := none
  configFault : Option UsbFault := none
  detachFault : Option UsbFault := none
  resetFault : Option UsbFault := none
  claimFault : Option UsbFault := none
  releaseFault : Option UsbFault := none
  attachFault : Option UsbFault := none
  outbound : List BulkOut := []
  inbound : List BulkIn := []

namespace UsbDevice

/-- Whether the device is a stick; one whose descriptor cannot be read is none. -/
def isStick (device : UsbDevice) : Bool :=
  device.descriptorFault.isNone && AntHost.isStick device.vendor device.product

end UsbDevice

/-- The devices on a bus, or why they cannot be listed. -/
abbrev UsbBus := Except UsbFault (List UsbDevice)

/-- The `index`th stick on the bus, with its place on the bus. -/
def findStick (bus : UsbBus) (index : Nat) : Except TransportError (Nat × UsbDevice) :=
  match bus with
  | .error fault => .error (.usb fault)
  | .ok devices =>
      match (devices.zipIdx.filter fun (device, _) => device.isStick)[index]? with
      | some (device, place) => .ok (place, device)
      | none => .error (.noDevice ("ANT USB stick #" ++ toString index))

/-- Whether a transfer that reports a fault still counts as done: a timeout or an interruption
after some bytes. -/
def UsbFault.isPartial (fault : UsbFault) (transferred : Nat) : Bool :=
  0 < transferred && (fault == .timeout || fault == .interrupted)

/-- What a transfer of `transferred` bytes answers. -/
def transferResult (fault : Option UsbFault) (transferred : Nat) : Except UsbFault Nat :=
  match fault with
  | none => .ok transferred
  | some fault => if fault.isPartial transferred then .ok transferred else .error fault

/-- Offers bytes to the transfer. Answers the outcome and the bytes transferred. -/
def BulkOut.run (transfer : BulkOut) (offered : Nat) : Except UsbFault Nat × Nat :=
  let transferred := min transfer.accepts offered
  (transferResult transfer.fault transferred, transferred)

/-- Asks the transfer for up to `room` bytes. A packet that is too long is lost as an overflow. -/
def BulkIn.run (transfer : BulkIn) (room : Nat) : Except UsbFault (List UInt8) × Nat :=
  if room < transfer.data.length then (.error .overflow, 0)
  else
    ((transferResult transfer.fault transfer.data.length).map fun _ => transfer.data,
      transfer.data.length)

/-- Asks a device for up to `room` bytes; one with no transfer to come times out. -/
def UsbDevice.bulkIn (device : UsbDevice) (room : Nat) :
    Except UsbFault (List UInt8) × Nat × UsbDevice :=
  match device.inbound with
  | [] => (.error .timeout, 0, device)
  | transfer :: rest =>
      let (outcome, transferred) := transfer.run room
      (outcome, transferred, { device with inbound := rest })

end AntHost
