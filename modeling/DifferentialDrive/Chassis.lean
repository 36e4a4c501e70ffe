import DifferentialDrive.Quantity

/-!
# The chassis

The measures of a robot with two driven wheels and an encoder on each.
-/

namespace DifferentialDrive

/-- Lengths are in millimetres and times in seconds. -/
structure Chassis (α : Type) where
  /-- Half the distance between the wheels. -/
  radius : Quantity α
  wheelDiameter : Quantity α
  /-- Encoder counts in one turn of a wheel. -/
  countsPerTurn : Quantity α
  /-- Millimetres per second for one unit of wheel speed. -/
  unitSpeed : Quantity α
  /-- How long the motors run on without a speed command. -/
  motorTimeout : Quantity α
  deriving Repr

namespace Chassis

variable {α : Type} [Scalar α]

open Scalar

def standard : Chassis α where
  radius := .scalar (ofInt 250)
  wheelDiameter := .scalar (ofInt 125)
  countsPerTurn := .whole 980
  unitSpeed := .scalar (ofInt 25 / ofInt 4)
  motorTimeout := .scalar (ofInt 2)

/-- The way that one encoder count stands for. -/
def lengthPerCount (c : Chassis α) : Except (Fault α) α := do
  let turn ← c.wheelDiameter.mul (.scalar pi)
  turn.div c.countsPerTurn

/-- The whole counts in a way, toward zero. -/
def counts (c : Chassis α) (way : α) : Except (Fault α) Int := do
  let length ← c.lengthPerCount
  toInteger (← quotient way length)

end Chassis

end DifferentialDrive
