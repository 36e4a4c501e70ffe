import DifferentialDrive.Station

/-!
# The datagram socket

Each datagram holds raw command bytes. Telemetry goes back to whoever sent the last datagram;
before the first there is nobody to send it to and it stays where it is.
-/

namespace DifferentialDrive

/-- The most bytes that are taken of one datagram. -/
def Socket.limit : Nat := 1500

namespace Station

variable {α : Type}

/-- A datagram that was received becomes command bytes, and its sender the peer. -/
def take (now : α) (s : Station α) (d : Datagram) : Station α :=
  { s with socket := some { peer := some d.peer }, sim := s.sim.push d.bytes now }

/-- Every datagram that the socket hands over becomes command bytes of the simulation. -/
def socketIngress (s : Station α) (now : α) : Outcome (Station α) (Fault α) Nat :=
  let (world, ds, stop) := s.world.receive Socket.limit
  let s := ds.foldl (take now) { s with world := world }
  match stop with
  | none => ⟨s, .ok (ds.flatMap (·.bytes)).length⟩
  | some k => ⟨s, .error (.struck k)⟩

/-- All telemetry is sent to the last peer; it is gone even if it is not sent. -/
def socketEgress (s : Station α) : Outcome (Station α) (Fault α) Nat :=
  match s.socket.bind (·.peer) with
  | none => ⟨s, .ok 0⟩
  | some peer =>
    let (bytes, sim) := s.sim.drain
    let s := { s with sim := sim }
    if bytes.isEmpty then ⟨s, .ok 0⟩
    else (s.ask (·.send ⟨peer, bytes⟩)).andThen fun s _ => ⟨s, .ok bytes.length⟩

end Station

end DifferentialDrive
