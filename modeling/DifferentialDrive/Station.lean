import DifferentialDrive.Machine
import DifferentialDrive.Simulation

/-!
# Stations

A simulation on a machine, with the links it has to the outside: a serial line and a datagram
socket. What the links do is in the modules of `Link`.
-/

namespace DifferentialDrive

/-- What a datagram socket remembers. -/
structure Socket where
  /-- Who sent the last datagram. -/
  peer : Option Address := none
  deriving Repr, DecidableEq

structure Station (α : Type) where
  sim : Simulation α
  world : World
  /-- Whether there is a serial line. -/
  line : Bool := false
  socket : Option Socket := none

namespace Station

variable {α β : Type}

/-- What comes of a request to the machine. -/
def ask (s : Station α) (f : World → Outcome World Strike β) : Outcome (Station α) (Fault α) β :=
  let o := f s.world
  ⟨{ s with world := o.state }, o.result.mapError .struck⟩

end Station

end DifferentialDrive
