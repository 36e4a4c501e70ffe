import DifferentialDrive.Arena
import DifferentialDrive.Robot

/-!
# The simulation

A robot in its arena, which runs only between a start and a stop. Time spent stopped is not
followed.
-/

namespace DifferentialDrive

open Scalar

structure Simulation (α : Type) where
  robot : Robot α
  arena : Arena α
  running : Bool := false

namespace Simulation

variable {α : Type} [Scalar α]

def initial (chassis : Chassis α) (arena : Arena α) (simSpeed start : α) (timeout : Bool) :
    Simulation α where
  robot := Robot.initial chassis simSpeed start timeout
  arena := arena

def note (s : Simulation α) (e : Event α) : Simulation α := { s with robot := s.robot.note e }

def start (s : Simulation α) (now : α) : Simulation α :=
  { s with
    robot := { s.robot.note (.started now) with lastStep := later now s.robot.lastStep }
    running := true }

def stop (s : Simulation α) : Simulation α := { s.note .stopped with running := false }

def receive (s : Simulation α) (bytes : List (Wire.Stamped α)) : Simulation α :=
  { s with robot := s.robot.receive bytes }

def push (s : Simulation α) (bytes : List UInt8) (stamp : α) : Simulation α :=
  { s with robot := s.robot.push bytes stamp }

def drain (s : Simulation α) : List UInt8 × Simulation α :=
  let (bytes, robot) := s.robot.drain
  (bytes, { s with robot := robot })

/-- Runs the robot up to the given time; the result says whether the simulation is running. -/
def tick (s : Simulation α) (now : α) : Outcome (Simulation α) (Fault α) Bool :=
  if s.running then
    let o := s.robot.run now
    ⟨{ s with robot := o.state }, o.result.map fun _ => true⟩
  else ⟨s, .ok false⟩

/-- The obstacles that the robot overlaps. -/
def collisions (s : Simulation α) : Except (Fault α) (List Nat) :=
  s.arena.collisions s.robot.track.pose.x s.robot.track.pose.y s.robot.chassis.radius

end Simulation

end DifferentialDrive
