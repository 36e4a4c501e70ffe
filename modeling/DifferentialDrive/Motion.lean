import DifferentialDrive.Heading
import DifferentialDrive.Wheel

/-!
# Motion of the chassis

Two wheels at constant speeds move the robot on a straight line, or on a circle about the point
both wheels turn around. `Pose.advance` follows either for a given time; `travel` adds what each
wheel covers on the way.
-/

namespace DifferentialDrive

/-- Where the robot is, in millimetres, and where it looks, in degrees. -/
structure Pose (α : Type) where
  x : α
  y : α
  heading : α
  deriving Repr

variable {α : Type} [Scalar α]

open Scalar

/-- Wheels whose speeds differ by less than this drive straight. -/
def straightBelow : α := ofInt 1 / ofInt 100000

namespace Pose

def origin : Pose α := ⟨zero, zero, zero⟩

/-- Along the heading for `dt` seconds. -/
def straight (p : Pose α) (speed : Quantity α) (dt : α) : Except (Fault α) (Pose α) := do
  let angle := radians p.heading
  let c ← cosine angle
  let speed ← speed.toScalar
  let s ← sine angle
  return ⟨p.x + speed * c * dt, p.y + speed * s * dt, Heading.normalize p.heading⟩

/-- About the centre of the circle for `dt` seconds. -/
def arc (p : Pose α) (left right : Quantity α) (dt : α) (radius : Quantity α) :
    Except (Fault α) (Pose α) := do
  let angle := radians p.heading
  let base ← (Quantity.whole 2).mul radius
  let half ← base.div (.whole 2)
  let sum ← left.add right
  let product := half * (← sum.toScalar)
  let difference ← right.sub left
  let r ← (Quantity.scalar product).div difference
  let turnRate ← difference.div base
  let centreX := p.x - r * (← sine angle)
  let centreY := p.y + r * (← cosine angle)
  let turn := turnRate * dt
  let c ← cosine turn
  let s ← sine turn
  return {
    x := c * (p.x - centreX) - s * (p.y - centreY) + centreX
    y := s * (p.x - centreX) + c * (p.y - centreY) + centreY
    heading := Heading.normalize (p.heading + turn * ofInt 180 / pi) }

/-- The pose after `dt` seconds at constant wheel speeds. -/
def advance (p : Pose α) (left right : Quantity α) (dt : α) (radius : Quantity α) :
    Except (Fault α) (Pose α) :=
  if dt == zero then .ok { p with heading := Heading.normalize p.heading }
  else do
    let difference ← left.sub right
    if ← difference.abs.isBelow straightBelow then p.straight left dt
    else p.arc left right dt radius

end Pose

/-- A stretch of motion: its length in simulated seconds, the pose it ends in and the way of each
wheel. -/
structure Travel (α : Type) where
  duration : α
  pose : Pose α
  left : α
  right : α
  deriving Repr

/-- The motion between two instants at the speeds the registers stand for. -/
def travel (c : Chassis α) (m : Mode) (a b : Int) (start stop factor : α) (p : Pose α) :
    Except (Fault α) (Travel α) := do
  let dt := (stop - start) * factor
  let (left, right) ← wheelSpeeds c m a b
  let pose ← p.advance left right dt c.radius
  let leftWay := (← left.toScalar) * dt
  let rightWay := (← right.toScalar) * dt
  return ⟨dt, pose, leftWay, rightWay⟩

end DifferentialDrive
