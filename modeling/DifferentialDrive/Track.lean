import DifferentialDrive.Motion

/-!
# The track of the robot

A track is the robot's pose and the points it has passed since it was last placed by hand. No
point is kept twice in a row.
-/

namespace DifferentialDrive

structure Track (α : Type) where
  pose : Pose α
  trace : Array (α × α)
  deriving Repr

namespace Track

variable {α : Type} [Scalar α]

def start : Track α := ⟨Pose.origin, #[]⟩

/-- Whether the trace ends in the given point. -/
def endsIn (t : Track α) (x y : α) : Bool :=
  match t.trace.back? with
  | some p => p.1 == x && p.2 == y
  | none => false

/-- A pose that motion led to. -/
def moveTo (t : Track α) (p : Pose α) : Track α where
  pose := { p with heading := Heading.normalize p.heading }
  trace := if t.endsIn p.x p.y then t.trace else t.trace.push (p.x, p.y)

/-- Whether a coordinate is still the one that was noted, be it a number or not. -/
def isStill (a b : α) : Bool := a == b || Scalar.isNaN a && Scalar.isNaN b

/-- Whether the trace ends in the pose, of which nothing has been computed anew. -/
def endsHere (t : Track α) : Bool :=
  match t.trace.back? with
  | some p => isStill p.1 t.pose.x && isStill p.2 t.pose.y
  | none => false

/-- No motion: the pose is kept. -/
def stay (t : Track α) : Track α where
  pose := { t.pose with heading := Heading.normalize t.pose.heading }
  trace := if t.endsHere then t.trace else t.trace.push (t.pose.x, t.pose.y)

/-- A pose given by hand, in those coordinates that are given; a new trace begins. -/
def place (t : Track α) (x y heading : Option α) : Track α where
  pose :=
    ⟨x.getD t.pose.x, y.getD t.pose.y,
      (heading.map Heading.normalize).getD t.pose.heading⟩
  trace := #[]

end Track

end DifferentialDrive
