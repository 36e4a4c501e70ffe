import DifferentialDrive.Machine

/-!
# Fed machines

Machines on which nothing goes wrong: whatever a source has brought to the port or to the socket is
handed over in order. The source may be laid down beforehand, or be the other end of the same line.
-/

namespace DifferentialDrive

/-! ## Ports -/

namespace Port

/-- What an open port answers; a closed one refuses every use. -/
def ifOpen {β : Type} (past : Past) (answer : β) : Except Strike β :=
  if past.lineOpen then .ok answer
  else .error (.refused ⟨"closed port", "Attempting to use a port that is not open"⟩)

/-- A port that hands over what a source has brought. -/
def fed (source : Past → List UInt8) : Port where
  opens _ _ := .ok ()
  waiting past := ifOpen past ((source past).drop past.bytesRead.length).length
  read past count := ifOpen past (((source past).drop past.bytesRead.length).take count)
  write past _ := ifOpen past ()
  closes _ := .ok ()

end Port

/-! ## Sockets -/

namespace Net

/-- A socket at an address that hands over what a source has brought. -/
def fed (address : Address) (source : Past → List Datagram) : Net where
  opens _ := .ok ()
  bind _ _ := .ok ()
  address _ := .ok address
  receive past limit := (((source past).drop past.received.length).map (Datagram.cut limit), none)
  send _ _ := .ok ()
  closes _ := .ok ()

end Net

/-! ## Machines -/

namespace Machine

/-- A machine with a clock that stands still. -/
def still (port : Port) (net : Net) : Machine where
  clock _ := .ok 0
  sleep _ _ := .ok ()
  statement _ := .ok ()
  cut _ r := r
  port := port
  net := net

/-- The machine of a looped line: what is written to the port is what it hands over. -/
def looped : Machine :=
  still (.fed Past.written) (.fed ⟨"0.0.0.0", 5005⟩ Past.arrived)

/-- A machine at the other end of whose line so much has been written. -/
def wired (bytes : List UInt8) : Machine :=
  still (.fed fun _ => bytes) (.fed ⟨"0.0.0.0", 5005⟩ Past.arrived)

end Machine

end DifferentialDrive
