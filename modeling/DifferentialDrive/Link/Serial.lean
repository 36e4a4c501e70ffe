import DifferentialDrive.Station

/-!
# The serial line

What is read from the serial port becomes command bytes of the simulation, and telemetry is written
to it.
-/

namespace DifferentialDrive.Station

variable {α : Type}

/-- As many bytes as wait at the port are read and become command bytes. -/
def lineIngress (s : Station α) (now : α) : Outcome (Station α) (Fault α) Nat :=
  (s.ask World.waiting).andThen fun s count =>
    if count = 0 then ⟨s, .ok 0⟩
    else (s.ask (·.read count)).andThen fun s bytes =>
      ⟨{ s with sim := s.sim.push bytes now }, .ok bytes.length⟩

/-- All telemetry is written to the port; it is gone even if the port refuses it. -/
def lineEgress (s : Station α) : Outcome (Station α) (Fault α) Nat :=
  let (bytes, sim) := s.sim.drain
  let s := { s with sim := sim }
  if bytes.isEmpty then ⟨s, .ok 0⟩
  else (s.ask (·.write bytes)).andThen fun s _ => ⟨s, .ok bytes.length⟩

/-- Closes the port unless it is closed. -/
def closeLine (s : Station α) : Outcome (Station α) (Fault α) Unit :=
  if s.world.past.lineOpen then s.ask World.closeLine else ⟨s, .ok ()⟩

end DifferentialDrive.Station
