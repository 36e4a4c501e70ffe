import DifferentialDrive.Document.Value
import DifferentialDrive.Outcome
import DifferentialDrive.Robot

/-!
# Machines

What a program runs on: a clock, a serial port, a socket for datagrams and the statements of the
program itself. A machine may refuse or interrupt each of them. What it answers depends on all that
has passed between it and the program, and on nothing else that is known here: whatever is taken for
granted about a machine is a named hypothesis, such as `Port.InOrder` and `Net.InOrder`.
-/

namespace DifferentialDrive

/-! ## What passes between a program and its machine -/

structure Address where
  host : String
  number : Int
  deriving Repr, DecidableEq

structure Datagram where
  peer : Address
  bytes : List UInt8
  deriving Repr, DecidableEq

/-- What is left of a datagram for a reader with room for so many bytes. -/
def Datagram.cut (limit : Nat) (d : Datagram) : Datagram := { d with bytes := d.bytes.take limit }

theorem Datagram.cut_of_short {limit : Nat} {d : Datagram} (short : d.bytes.length ≤ limit) :
    d.cut limit = d := by
  simp [cut, List.take_of_length_le short]

/-- What a serial port is opened with, as it is set. -/
structure LineSettings where
  port : Document.Value
  baud : Document.Value
  timeout : Document.Value

/-- What a socket is bound to, as it is set. -/
structure AddressSettings where
  host : Document.Value
  number : Document.Value

/-- Something that has passed between a program and its machine, with what came of it. -/
inductive Passed where
  | clock (answer : Except Strike Float)
  | sleep (time : Float) (answer : Except Strike Unit)
  /-- The program has come to its next statement. -/
  | statement (answer : Except Strike Unit)
  | openLine (settings : LineSettings) (answer : Except Strike Unit)
  /-- How many bytes wait at the port. -/
  | waiting (answer : Except Strike Nat)
  | read (count : Nat) (answer : Except Strike (List UInt8))
  | write (bytes : List UInt8) (answer : Except Strike Unit)
  | closeLine (answer : Except Strike Unit)
  | openSocket (answer : Except Strike Unit)
  | bind (settings : AddressSettings) (answer : Except Strike Unit)
  /-- What the socket is bound to. -/
  | address (answer : Except Strike Address)
  /-- The datagrams handed over one by one, each cut to so many bytes, until there was no more, and
  what ended that earlier. -/
  | receive (limit : Nat) (datagrams : List Datagram) (stop : Option Strike)
  | send (d : Datagram) (answer : Except Strike Unit)
  | closeSocket (answer : Except Strike Unit)
  /-- A datagram was sent to the socket from outside. -/
  | arrival (d : Datagram)

namespace Passed

/-- The bytes that were read from the port. -/
def read? : Passed → List UInt8
  | read _ (.ok bytes) => bytes
  | _ => []

/-- The bytes that were written to the port. -/
def written : Passed → List UInt8
  | write bytes (.ok ()) => bytes
  | _ => []

def received : Passed → List Datagram
  | receive _ ds _ => ds
  | _ => []

def sent : Passed → List Datagram
  | send d (.ok ()) => [d]
  | _ => []

def arrived : Passed → List Datagram
  | arrival d => [d]
  | _ => []

end Passed

/-- All that has passed, the latest first. -/
abbrev Past := List Passed

namespace Past

/-- What was gathered from all that has passed, in order. -/
def gather {β : Type} (f : Passed → List β) : Past → List β
  | [] => []
  | p :: past => gather f past ++ f p

/-- The bytes that were read from the port. -/
def bytesRead (past : Past) : List UInt8 := past.gather Passed.read?

/-- The bytes that were written to the port. -/
def written (past : Past) : List UInt8 := past.gather Passed.written

def received (past : Past) : List Datagram := past.gather Passed.received

def sent (past : Past) : List Datagram := past.gather Passed.sent

/-- The datagrams that were sent to the socket from outside. -/
def arrived (past : Past) : List Datagram := past.gather Passed.arrived

/-- Whether the port is open. -/
def lineOpen : Past → Bool
  | [] => false
  | .openLine _ (.ok ()) :: _ => true
  | .closeLine (.ok ()) :: _ => false
  | _ :: past => lineOpen past

/-- Whether the socket is open. -/
def socketOpen : Past → Bool
  | [] => false
  | .openSocket (.ok ()) :: _ => true
  | .closeSocket (.ok ()) :: _ => false
  | _ :: past => socketOpen past

end Past

/-! ## Machines -/

/-- A serial port. -/
structure Port where
  opens : Past → LineSettings → Except Strike Unit
  waiting : Past → Except Strike Nat
  /-- At most so many of the bytes that wait. -/
  read : Past → Nat → Except Strike (List UInt8)
  write : Past → List UInt8 → Except Strike Unit
  closes : Past → Except Strike Unit

/-- A socket for datagrams. -/
structure Net where
  opens : Past → Except Strike Unit
  bind : Past → AddressSettings → Except Strike Unit
  address : Past → Except Strike Address
  /-- The datagrams that are handed over one by one, cut to so many bytes, until none is left or one
  is refused or interrupted. -/
  receive : Past → Nat → List Datagram × Option Strike
  send : Past → Datagram → Except Strike Unit
  closes : Past → Except Strike Unit

structure Machine where
  clock : Past → Except Strike Float
  sleep : Past → Float → Except Strike Unit
  /-- Lets the program go on with its next statement. -/
  statement : Past → Except Strike Unit
  /-- What a statement that is interrupted has made of the robot by then. -/
  cut : Past → Robot Float → Robot Float
  port : Port
  net : Net

/-- The port hands over what comes to it in order: what has come stays, and a reader is given the
front of what has not been read. -/
structure Port.InOrder (port : Port) (came : Past → List UInt8) : Prop where
  stays : ∀ p past, came past <+: came (p :: past)
  read : ∀ past count bytes, port.read past count = .ok bytes →
    bytes <+: (came (.read count (.ok bytes) :: past)).drop past.bytesRead.length

/-- The socket hands over the datagrams that come to it in order, each cut to the room there is. -/
structure Net.InOrder (net : Net) (came : Past → List Datagram) : Prop where
  stays : ∀ p past, came past <+: came (p :: past)
  receive : ∀ past limit ds stop, net.receive past limit = (ds, stop) →
    ds <+: ((came (.receive limit ds stop :: past)).map (Datagram.cut limit)).drop
      past.received.length

/-! ## Programs on a machine -/

/-- A machine, and what has passed between it and the program so far. -/
structure World where
  machine : Machine
  past : Past := []

namespace World

variable {β : Type}

/-- Notes what came of a request. -/
def note (w : World) (p : Passed) : World := { w with past := p :: w.past }

/-- What has been gathered since an earlier state of a world. -/
def since (w before : World) (f : Passed → List β) : List β :=
  (w.past.gather f).drop (before.past.gather f).length

/-- What came of a request, which is noted. -/
def ask (w : World) (answer : Except Strike β) (p : Except Strike β → Passed) :
    Outcome World Strike β :=
  ⟨w.note (p answer), answer⟩

def clock (w : World) : Outcome World Strike Float := w.ask (w.machine.clock w.past) .clock

def sleep (w : World) (time : Float) : Outcome World Strike Unit :=
  w.ask (w.machine.sleep w.past time) (.sleep time)

def statement (w : World) : Outcome World Strike Unit :=
  w.ask (w.machine.statement w.past) .statement

def openLine (w : World) (l : LineSettings) : Outcome World Strike Unit :=
  w.ask (w.machine.port.opens w.past l) (.openLine l)

def waiting (w : World) : Outcome World Strike Nat :=
  w.ask (w.machine.port.waiting w.past) .waiting

def read (w : World) (count : Nat) : Outcome World Strike (List UInt8) :=
  w.ask (w.machine.port.read w.past count) (.read count)

def write (w : World) (bytes : List UInt8) : Outcome World Strike Unit :=
  w.ask (w.machine.port.write w.past bytes) (.write bytes)

def closeLine (w : World) : Outcome World Strike Unit :=
  w.ask (w.machine.port.closes w.past) .closeLine

def openSocket (w : World) : Outcome World Strike Unit :=
  w.ask (w.machine.net.opens w.past) .openSocket

def bind (w : World) (a : AddressSettings) : Outcome World Strike Unit :=
  w.ask (w.machine.net.bind w.past a) (.bind a)

def address (w : World) : Outcome World Strike Address :=
  w.ask (w.machine.net.address w.past) .address

def receive (w : World) (limit : Nat) : World × List Datagram × Option Strike :=
  let answer := w.machine.net.receive w.past limit
  (w.note (.receive limit answer.1 answer.2), answer)

def send (w : World) (d : Datagram) : Outcome World Strike Unit :=
  w.ask (w.machine.net.send w.past d) (.send d)

def closeSocket (w : World) : Outcome World Strike Unit :=
  w.ask (w.machine.net.closes w.past) .closeSocket

end World

end DifferentialDrive
