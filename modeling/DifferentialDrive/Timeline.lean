import DifferentialDrive.Journal
import DifferentialDrive.Wire.Frame
import DifferentialDrive.Wire.Reply
import DifferentialDrive.Wire.Request

/-!
# Timelines

A client lays out motion on a time cursor. Every move begins at the cursor and leaves it at the
move's end, so moves follow each other. While a speed is held its command is repeated at a fixed
interval, so that the motors do not stop in the middle of a move. A call is refused before anything
is sent.
-/

namespace DifferentialDrive

open Wire Scalar

structure Timeline (α : Type) where
  chassis : Chassis α
  /-- The cursor. -/
  t : α
  /-- The interval at which a held speed is repeated. -/
  keepalive : α
  replies : ReplyStream := {}

/-- Commands sent together at one instant. -/
structure Push (α : Type) where
  stamp : α
  commands : List Command

def Push.bytes {α : Type} (p : Push α) : List UInt8 := p.commands.flatMap Command.bytes

/-- What a client can ask of a timeline. Distances are in millimetres, angles in degrees and wheel
speeds in units. -/
inductive Call (α : Type) where
  | holdSeconds (seconds : α) (wheel1 wheel2 : Int)
  | holdDistance (distance : α) (wheel1 wheel2 : Int)
  | holdAngle (degrees : α) (wheel1 wheel2 : Int)
  | forward (distance : α) (speed : Int)
  | backward (distance : α) (speed : Int)
  | forwardSeconds (seconds : α) (speed : Int)
  | backwardSeconds (seconds : α) (speed : Int)
  | rotateLeft (degrees : α) (speed : Int)
  | rotateRight (degrees : α) (speed : Int)
  | wait (seconds : α)
  | stop
  | place (x y degrees : α)
  | query (opcode : Int)
  | read (bytes : List UInt8)
  | reset
  deriving Repr

/-- What came of a call: the timeline after it, what it sent in order, what it wrote to the
journal and the replies it read. -/
structure Reaction (α : Type) where
  timeline : Timeline α
  pushes : List (Push α) := []
  events : List (Event α) := []
  replies : List (Query × Reply α) := []

/-- The bytes a call sent, in order, each with the time it was sent. -/
def Reaction.stamped {α : Type} (r : Reaction α) : List (Stamped α) :=
  r.pushes.flatMap fun p => stampAll p.bytes p.stamp

namespace Timeline

variable {α : Type} [Scalar α]

/-- An empty timeline; the keepalive must not be zero or less. -/
def create (chassis : Chassis α) (start keepalive : α) : Except (Fault α) (Timeline α) :=
  if keepalive ≤ zero then .error (.keepaliveNotPositive keepalive)
  else .ok { chassis := chassis, t := start, keepalive := keepalive }

def nonNegative (argument : String) (value : α) : Except (Fault α) α :=
  if value < zero then .error (.negative argument value) else .ok value

def wheel (argument : String) (value : Int) : Except (Fault α) Int :=
  if -128 ≤ value ∧ value ≤ 127 then .ok value
  else .error (.outOfRange argument (-128) 127 value)

/-- The instants at which a speed is sent while it is held from `t` to `finish`: `t` itself and
then each keepalive that comes before the end. There are none if a keepalive does not move the
time, for then the end is never reached, or if `fuel` instants are not enough. -/
def holdStamps (keepalive finish : α) : Nat → α → Option (List α)
  | 0, _ => none
  | fuel + 1, t =>
    if finish ≤ t + keepalive then some [t]
    else if t < t + keepalive then
      (holdStamps keepalive finish fuel (t + keepalive)).map (t :: ·)
    else none

/-- As many instants as there are binary64 numbers, so that no hold that ends is cut short. -/
def holdLimit : Nat := 0x10000000000000000

def hold (tl : Timeline α) (seconds : α) (wheel1 wheel2 : Int) : Except (Fault α) (Reaction α) := do
  let seconds ← nonNegative "seconds" seconds
  let speed1 := (← wheel "wheel1" wheel1) + 128
  let speed2 := (← wheel "wheel2" wheel2) + 128
  let finish := tl.t + seconds
  let mode ← Request.mode 0
  let speeds ← Request.speeds speed1 speed2
  match holdStamps tl.keepalive finish holdLimit tl.t with
  | none => throw .endlessHold
  | some stamps =>
    return {
      timeline := { tl with t := finish }
      pushes := ⟨tl.t, mode⟩ :: stamps.map fun t => ⟨t, speeds⟩
      events := [.holding tl.t wheel1 wheel2 seconds] }

/-- How long it takes the robot's centre to cover the distance. -/
def secondsForDistance (tl : Timeline α) (distance : α) (wheel1 wheel2 : Int) :
    Except (Fault α) α := do
  let distance ← nonNegative "distance_mm" distance
  let sum := (← wheel "wheel1" wheel1) + (← wheel "wheel2" wheel2)
  let centre := ofInt sum.natAbs / ofInt 2 * (← tl.chassis.unitSpeed.toScalar)
  if centre == zero then throw .centreAtRest
  return distance / centre

/-- How long it takes the heading to turn by the angle. -/
def secondsForAngle (tl : Timeline α) (degrees : α) (wheel1 wheel2 : Int) :
    Except (Fault α) α := do
  let degrees ← nonNegative "degrees" degrees
  let difference := (← wheel "wheel1" wheel1) - (← wheel "wheel2" wheel2)
  let speed ← (Quantity.whole difference).mul tl.chassis.unitSpeed
  if speed.isZero then throw .equalWheelSpeeds
  let base ← (Quantity.whole 2).mul tl.chassis.radius
  let way := (← base.toScalar) * radians degrees
  return Scalar.abs (← (Quantity.scalar way).div speed)

/-- Holds the speeds until the robot's centre has covered the distance. -/
def holdDistance (tl : Timeline α) (distance : α) (wheel1 wheel2 : Int) :
    Except (Fault α) (Reaction α) := do
  tl.hold (← tl.secondsForDistance distance wheel1 wheel2) wheel1 wheel2

/-- Holds the speeds until the heading has turned by the angle. -/
def holdAngle (tl : Timeline α) (degrees : α) (wheel1 wheel2 : Int) :
    Except (Fault α) (Reaction α) := do
  tl.hold (← tl.secondsForAngle degrees wheel1 wheel2) wheel1 wheel2

def stopAll : List Command := [.mode 0, .speed1 128, .speed2 128]

/-- Commands sent at the cursor. -/
def send (tl : Timeline α) (commands : List Command) : Reaction α :=
  { timeline := tl, pushes := [⟨tl.t, commands⟩] }

def place (tl : Timeline α) (x y degrees : α) : Except (Fault α) (Reaction α) := do
  let x ← Request.placeX (← toNearest x)
  let y ← Request.placeY (← toNearest y)
  let heading ← Request.placeHeading (Heading.wrap degrees)
  return tl.send (x ++ y ++ heading)

def query (tl : Timeline α) (opcode : Int) : Except (Fault α) (Reaction α) := do
  match Query.ofCode? opcode with
  | none => throw (.noReply opcode)
  | some q =>
    let replies ← tl.replies.expect opcode
    return { tl with replies := replies }.send [.query q]

def read (tl : Timeline α) (bytes : List UInt8) : Except (Fault α) (Reaction α) := do
  let (read, replies) ← (tl.replies.push bytes).popAll
  return { timeline := { tl with replies := replies }, replies := read }

/-- Forgets queries without reply and bytes without query. -/
def reset (tl : Timeline α) : Reaction α where
  timeline := { tl with replies := {} }
  events :=
    if tl.replies.pending.isEmpty then [] else [.queriesDropped tl.replies.pending.length]

def perform (tl : Timeline α) : Call α → Except (Fault α) (Reaction α)
  | .holdSeconds s a b => tl.hold s a b
  | .holdDistance d a b => tl.holdDistance d a b
  | .holdAngle d a b => tl.holdAngle d a b
  | .forward d s => tl.holdDistance d s.natAbs s.natAbs
  | .backward d s => tl.holdDistance d (-s.natAbs) (-s.natAbs)
  | .forwardSeconds d s => tl.hold d s.natAbs s.natAbs
  | .backwardSeconds d s => tl.hold d (-s.natAbs) (-s.natAbs)
  | .rotateLeft d s => tl.holdAngle d (-s.natAbs) s.natAbs
  | .rotateRight d s => tl.holdAngle d s.natAbs (-s.natAbs)
  | .wait s => do
    let s ← nonNegative "seconds" s
    return { timeline := { tl with t := tl.t + s } }
  | .stop => .ok (tl.send stopAll)
  | .place x y d => tl.place x y d
  | .query opcode => tl.query opcode
  | .read bytes => tl.read bytes
  | .reset => .ok tl.reset

end Timeline

end DifferentialDrive
