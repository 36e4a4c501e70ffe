import DifferentialDrive.Quantity

/-!
# The arena

Rectangular obstacles in the plane. A filled obstacle is overlapped by a circle that reaches any
of its points, a border only by one that reaches an edge.
-/

namespace DifferentialDrive

open Scalar

/-- A rectangle along the axes, by its lower left corner. -/
structure Obstacle (α : Type) where
  x : Quantity α
  y : Quantity α
  width : Quantity α
  height : Quantity α
  /-- Whether the inside counts and not the border alone. -/
  filled : Bool := true
  deriving Repr

structure Arena (α : Type) where
  width : Quantity α
  height : Quantity α
  obstacles : List (Obstacle α) := []
  deriving Repr

variable {α : Type} [Scalar α]

/-- A segment shorter than this in both directions is a point. -/
def pointBelow : α := ofInt 1 / ofInt 10000

/-- A scalar moved into the range from 0 to 1. -/
def clampUnit (t : α) : α := later zero (earlier (ofInt 1) t)

/-- A point of the plane, by two quantities. -/
abbrev Corner (α : Type) := Quantity α × Quantity α

/-- How far the point `(px, py)` is from the segment between `a` and `b`. -/
def segmentDistance (px py : α) (a b : Corner α) : Except (Fault α) α := do
  let dx ← b.1.sub a.1
  let dy ← b.2.sub a.2
  if (← dx.abs.isBelow pointBelow) && (← dy.abs.isBelow pointBelow) then
    let across := px - (← a.1.toScalar)
    let along := py - (← a.2.toScalar)
    return hypot across along
  else
    let across := (px - (← a.1.toScalar)) * (← dx.toScalar)
    let along := (py - (← a.2.toScalar)) * (← dy.toScalar)
    let square ← (← dx.mul dx).add (← dy.mul dy)
    let t := clampUnit (← (Quantity.scalar (across + along)).div square)
    let x := (← a.1.toScalar) + t * (← dx.toScalar)
    let y := (← a.2.toScalar) + t * (← dy.toScalar)
    return hypot (px - x) (py - y)

namespace Obstacle

/-- The corners in turn. -/
def corners (o : Obstacle α) : Except (Fault α) (List (Corner α)) := do
  let top ← o.y.add o.height
  let right ← o.x.add o.width
  return [(o.x, o.y), (o.x, top), (right, top), (right, o.y)]

/-- The edges between corners in turn, each between a corner and the next. -/
def edges (corners : List (Corner α)) : List (Corner α × Corner α) :=
  corners.zip (corners.drop 1 ++ corners.take 1)

/-- Whether a circle reaches one of the edges. -/
def meetsEdge (cx cy : α) (radius : Quantity α) :
    List (Corner α × Corner α) → Except (Fault α) Bool
  | [] => .ok false
  | (a, b) :: rest => do
    if ← radius.reaches (← segmentDistance cx cy a b) then return true
    else meetsEdge cx cy radius rest

/-- Whether a circle reaches the border. -/
def meetsBorder (o : Obstacle α) (cx cy : α) (radius : Quantity α) : Except (Fault α) Bool := do
  meetsEdge cx cy radius (edges (← o.corners))

/-- Whether a circle reaches the filled rectangle. The circle is looked at from the rectangle's
centre; only beyond a corner is the distance needed. -/
def meetsInside (o : Obstacle α) (cx cy : α) (radius : Quantity α) : Except (Fault α) Bool := do
  let halfWidth ← o.width.div (.scalar (ofInt 2))
  let halfHeight ← o.height.div (.scalar (ofInt 2))
  let dx := Scalar.abs (cx - ((← o.x.toScalar) + halfWidth))
  let dy := Scalar.abs (cy - ((← o.y.toScalar) + halfHeight))
  let reach ← radius.toScalar
  if reach + halfWidth < dx ∨ reach + halfHeight < dy then return false
  else if dx ≤ halfWidth ∨ dy ≤ halfHeight then return true
  else
    let across ← squared (dx - halfWidth)
    let along ← squared (dy - halfHeight)
    (← radius.squared).reaches (across + along)

def intersects (o : Obstacle α) (cx cy : α) (radius : Quantity α) : Except (Fault α) Bool :=
  if o.filled then o.meetsInside cx cy radius else o.meetsBorder cx cy radius

end Obstacle

namespace Arena

def standard : Arena α := ⟨.scalar (ofInt 5000), .scalar (ofInt 5000), []⟩

/-- The places in the list of the obstacles that a circle overlaps. -/
def collisions (a : Arena α) (cx cy : α) (radius : Quantity α) :
    Except (Fault α) (List Nat) := do
  let hits ← a.obstacles.zipIdx.filterM fun (o, _) => o.intersects cx cy radius
  return hits.map (·.2)

end Arena

end DifferentialDrive
