import AntHost.Clock
import AntHost.Transport.Error
/-!
# Serial lines

A link over a UART that never blocks, with the optional sleep line of serial modules driven low
around each write. The UART is given by what it will answer: a script of inbound items and a
script of the outcomes of its write and flush attempts. Every operation reports the calls it made
in order.
-/

namespace AntHost

/-- What one read of the UART finds. -/
inductive UartRead where
  | byte (byte : UInt8)
  | wouldBlock
  | fault (fault : SerialFault)
deriving DecidableEq, Repr

/-- What one write or flush attempt at the UART meets. -/
inductive UartAttempt where
  | accepted
  | wouldBlock
  | fault (fault : SerialFault)
deriving DecidableEq, Repr

/-- A UART with nothing more to say once its scripts are used up: reads would block, writes
succeed. -/
structure Uart where
  inbound : List UartRead := []
  outbound : List UartAttempt := []
deriving DecidableEq, Repr

/-- The sleep line of a module. -/
inductive SleepLine where
  | absent
  /-- A stand-in that is never wired up. -/
  | unwired
  /-- A line that can be driven to the levels it responds to. -/
  | wired (responds : PinLevel → Bool)

/-- How an attempt ended. -/
inductive AttemptResult where
  | ok | block | fail
deriving DecidableEq, Repr

/-- A call at the UART or the sleep line. -/
inductive SerialCall where
  | write (byte : UInt8) (result : AttemptResult)
  | flush (result : AttemptResult)
  | pin (level : PinLevel) (driven : Bool)
deriving DecidableEq, Repr

/-- A serial link. -/
structure SerialLink where
  uart : Uart
  sleep : SleepLine
  closed : Bool := false

/-- Repeats an attempt until it no longer would block. -/
def attempt (call : AttemptResult → SerialCall) :
    List UartAttempt → Except SerialFault Unit × List SerialCall × List UartAttempt
  | [] => (.ok (), [call .ok], [])
  | .accepted :: rest => (.ok (), [call .ok], rest)
  | .wouldBlock :: rest =>
      let (result, calls, left) := attempt call rest
      (result, call .block :: calls, left)
  | .fault fault :: rest => (.error fault, [call .fail], rest)

/-- Writes bytes in order and flushes, up to the first fault. -/
def sendAll : List UInt8 → List UartAttempt →
    Except SerialFault Unit × List SerialCall × List UartAttempt
  | [], script => attempt .flush script
  | byte :: bytes, script =>
      match attempt (.write byte) script with
      | (.error fault, calls, left) => (.error fault, calls, left)
      | (.ok (), calls, left) =>
          let (result, more, rest) := sendAll bytes left
          (result, calls ++ more, rest)

/-- One pass over the inbound items: at most `room` bytes, up to the first item that would block. A
fault loses the bytes of its pass. -/
def receivePass : Nat → List UartRead → Except SerialFault (List UInt8) × List UartRead
  | 0, script => (.ok [], script)
  | _ + 1, [] => (.ok [], [])
  | _ + 1, .wouldBlock :: rest => (.ok [], rest)
  | _ + 1, .fault fault :: rest => (.error fault, rest)
  | room + 1, .byte byte :: rest =>
      let (result, left) := receivePass room rest
      (result.map (byte :: ·), left)

/-- Passes until one finds something or the time is over. After each pass that finds nothing comes a
look at the clock, and once these looks are used up the deadline has come. -/
def receive (room deadline : Nat) :
    List Nat → List UartRead → Except SerialFault (List UInt8) × List UartRead
  | [], script => receivePass room script
  | look :: looks, script =>
      match receivePass room script with
      | (.ok [], left) =>
          if deadline ≤ look then (.ok [], left) else receive room deadline looks left
      | finished => finished

namespace SerialLink

/-- Drives the sleep line, where there is one. -/
def drive (link : SerialLink) (level : PinLevel) : Except TransportError Unit × List SerialCall :=
  match link.sleep with
  | .absent | .unwired => (.ok (), [])
  | .wired responds =>
      (if responds level then .ok () else .error (.pinChange level), [.pin level (responds level)])

/-- Writes bytes between driving the sleep line low and driving it high. -/
def write (link : SerialLink) (bytes : List UInt8) :
    Except TransportError Unit × List SerialCall × SerialLink :=
  if link.closed then (.error .closed, [], link)
  else
    match link.drive .low with
    | (.error error, calls) => (.error error, calls, link)
    | (.ok (), calls) =>
        let (result, sent, left) := sendAll bytes link.uart.outbound
        let link := { link with uart.outbound := left }
        match result with
        | .error fault => (.error (.serial fault), calls ++ sent, link)
        | .ok () =>
            let (raised, last) := link.drive .high
            (raised, calls ++ sent ++ last, link)

/-- Reads up to `room` bytes within a timeout that starts now, and at each of the looks the clock
shows the next of `looks`. It works out its deadline first, and panics if the clock cannot hold
it. -/
def read (link : SerialLink) (room timeout now : Nat) (looks : List Nat) :
    Except ClockOverflow (Except TransportError (List UInt8)) × SerialLink :=
  match instantAfter now timeout with
  | .error overflow => (.error overflow, link)
  | .ok deadline =>
      if link.closed then (.ok (.error .closed), link)
      else
        let (result, left) := receive room deadline looks link.uart.inbound
        (.ok (result.mapError .serial), { link with uart.inbound := left })

def close (link : SerialLink) : SerialLink := { link with closed := true }

end SerialLink

end AntHost
