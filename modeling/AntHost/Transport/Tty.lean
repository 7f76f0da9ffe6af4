import AntHost.Transport.Error
/-!
# Terminal lines

A line is a pair of byte pipes. Reads take what is waiting; once the device is gone reads and
writes fail until the line is closed.
-/

namespace AntHost

/-- An open serial line. -/
structure TtyLine where
  baudRate : Nat
  /-- Bytes from the device that nobody has read. -/
  waiting : List UInt8 := []
  unplugged : Bool := false
  closed : Bool := false
deriving DecidableEq, Repr

namespace TtyLine

/-- Opens the line at a path, if there is one. -/
def openPath (present : Bool) (baudRate : Nat) : Except TransportError TtyLine :=
  if present then .ok { baudRate := baudRate } else .error (.serialPort "No such file or directory")

/-- Why the line carries no bytes, if it does not. -/
def obstacle? (line : TtyLine) : Option TransportError :=
  if line.closed then some .closed
  else if line.unplugged then some (.io "Broken pipe")
  else none

/-- Writes bytes; the device receives them all. -/
def write (line : TtyLine) (bytes : List UInt8) : Except TransportError (List UInt8) :=
  match line.obstacle? with
  | some error => .error error
  | none => .ok bytes

/-- Reads up to `room` of the bytes that are waiting. -/
def read (line : TtyLine) (room : Nat) : Except TransportError (List UInt8) × TtyLine :=
  match line.obstacle? with
  | some error => (.error error, line)
  | none => (.ok (line.waiting.take room), { line with waiting := line.waiting.drop room })

def feed (line : TtyLine) (bytes : List UInt8) : TtyLine :=
  { line with waiting := line.waiting ++ bytes }

/-- The device goes away; nothing is waiting then. -/
def unplug (line : TtyLine) : TtyLine := { line with unplugged := true, waiting := [] }

def close (line : TtyLine) : TtyLine := { line with closed := true }

end TtyLine

end AntHost
