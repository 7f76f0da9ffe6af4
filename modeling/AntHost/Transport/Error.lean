/-!
# Transport errors

What can go wrong on the byte link to a device, whichever kind of link it is, and the words for it.
-/

namespace AntHost

/-- Direction of a USB endpoint, seen from the host. -/
inductive UsbDirection where
  | outward
  | inward
deriving DecidableEq, Repr

/-- What a USB operation fails with. -/
inductive UsbFault where
  | io | invalidParam | access | noDevice | notFound | busy | timeout | overflow | pipe
  | interrupted | noMem | notSupported | other
deriving DecidableEq, Repr

/-- Why the interface of a stick could not be taken over. -/
inductive UsbSetupError where
  | cannotFindEndpoint (direction : UsbDirection)
  | failedToOpenDevice (fault : UsbFault)
  | missingConfig (fault : UsbFault)
  | unableToDetachDriver (fault : UsbFault)
  | failedToReset (fault : UsbFault)
  | cannotClaimInterface (fault : UsbFault)
  | noInterfaces
deriving DecidableEq, Repr

/-- What a serial line reports. -/
inductive SerialFault where
  | overrun | frameFormat | parity | noise | other
deriving DecidableEq, Repr

/-- Level of the sleep line. -/
inductive PinLevel where
  | low | high
deriving DecidableEq, Repr

/-- Why a link cannot carry bytes. -/
inductive TransportError where
  | closed
  | noDevice (device : String)
  | io (reason : String)
  | serial (fault : SerialFault)
  /-- The sleep line could not be driven to a level. -/
  | pinChange (level : PinLevel)
  | usb (fault : UsbFault)
  | usbSetup (error : UsbSetupError)
  | serialPort (reason : String)
deriving DecidableEq, Repr

namespace UsbFault

def name : UsbFault → String
  | io => "Io"
  | invalidParam => "InvalidParam"
  | access => "Access"
  | noDevice => "NoDevice"
  | notFound => "NotFound"
  | busy => "Busy"
  | timeout => "Timeout"
  | overflow => "Overflow"
  | pipe => "Pipe"
  | interrupted => "Interrupted"
  | noMem => "NoMem"
  | notSupported => "NotSupported"
  | other => "Other"

def message : UsbFault → String
  | io => "Input/Output Error"
  | invalidParam => "Invalid parameter"
  | access => "Access denied (insufficient permissions)"
  | noDevice => "No such device (it may have been disconnected)"
  | notFound => "Entity not found"
  | busy => "Resource busy"
  | timeout => "Operation timed out"
  | overflow => "Overflow"
  | pipe => "Pipe error"
  | interrupted => "System call interrupted (perhaps due to signal)"
  | noMem => "Insufficient memory"
  | notSupported => "Operation not supported or unimplemented on this platform"
  | other => "Other error"

def all : List UsbFault :=
  [io, invalidParam, access, noDevice, notFound, busy, timeout, overflow, pipe, interrupted,
    noMem, notSupported, other]

end UsbFault

/-- The setup error as a short term. -/
def UsbSetupError.describe : UsbSetupError → String
  | cannotFindEndpoint .outward => "CannotFindEndpoint(Out)"
  | cannotFindEndpoint .inward => "CannotFindEndpoint(In)"
  | failedToOpenDevice fault => "FailedToOpenDevice(" ++ fault.name ++ ")"
  | missingConfig fault => "MissingConfig(" ++ fault.name ++ ")"
  | unableToDetachDriver fault => "UnableToDetachDriver(" ++ fault.name ++ ")"
  | failedToReset fault => "FailedToReset(" ++ fault.name ++ ")"
  | cannotClaimInterface fault => "CantClaimIface(" ++ fault.name ++ ")"
  | noInterfaces => "NoInterfaces"

def SerialFault.name : SerialFault → String
  | overrun => "Overrun"
  | frameFormat => "FrameFormat"
  | parity => "Parity"
  | noise => "Noise"
  | other => "Other"

def SerialFault.all : List SerialFault := [overrun, frameFormat, parity, noise, other]

def PinLevel.name : PinLevel → String
  | low => "Low"
  | high => "High"

def TransportError.name : TransportError → String
  | closed => "Closed"
  | noDevice _ => "NoDevice"
  | io _ => "Io"
  | serial _ => "Serial"
  | pinChange _ => "PinChange"
  | usb _ => "Usb"
  | usbSetup _ => "UsbSetup"
  | serialPort _ => "SerialPort"

def TransportError.message : TransportError → String
  | closed => "transport has been closed"
  | noDevice device => "no matching device: " ++ device
  | io reason => "IO error: " ++ reason
  | serial fault => "serial line error: " ++ fault.name
  | pinChange level => "sleep pin could not be driven " ++ level.name
  | usb fault => "USB error: " ++ fault.message
  | usbSetup error => "USB setup failed: " ++ error.describe
  | serialPort reason => "serial port error: " ++ reason

end AntHost
