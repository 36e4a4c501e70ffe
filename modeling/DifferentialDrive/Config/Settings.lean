import DifferentialDrive.Binary64.Scalar
import DifferentialDrive.Document.Shown
import DifferentialDrive.Failure
import DifferentialDrive.Simulation

/-!
# Settings

What a configuration says about the robot, its arena and the service. A section that is left out
has its standard settings; one that is there must hold the right ones. A number is taken as it is
set, and what is none is refused only where it is used.
-/

namespace DifferentialDrive.Config

open Document Scalar

/-- Named settings. -/
abbrev Fields := List (Datum × Value)

/-- A setting, if it is there. -/
def get? (v : Value) (name : String) : Except Failure (Option Value) :=
  match v.view with
  | .map fields => .ok (named? fields name)
  | _ => .error .noSettings

/-- A section; without it there are no settings in it. -/
def part (v : Value) (name : String) : Except Failure Value :=
  return (← get? v name).getD .empty

def isAmong (known : List String) (key : Datum) : Bool := known.any (key.isNamed ·)

/-- The settings of a section, of which all must be among the given ones. -/
def settings (v : Value) (known : List String) : Except Failure Fields :=
  match v.view with
  | .map fields => if fields.all fun f => isAmong known f.1 then .ok fields else .error .badSetting
  | _ => .error .badSetting

/-- A value as a number of the robot or its arena. -/
def quantity (v : Value) : Quantity Float :=
  match v.view with
  | .datum (.int n) => .whole n
  | .datum (.bool b) => .whole (if b then 1 else 0)
  | .datum (.float x) => .scalar x
  | _ => .unusable

/-- The characters that bytes stand for; beyond plain ones there are only replacements. -/
def charsOf (bs : List UInt8) : List Char :=
  bs.map fun b => if b < 128 then Char.ofNat b.toNat else '\ufffd'

def readScalar (s : List Char) (shown : String) : Except Failure Float :=
  ((Decimal.readChars? (Decimal.plainForm s)).map .ok).getD (.error (.notANumber shown))

/-- A value as a scalar, which text and bytes may write. -/
def scalar (v : Value) : Except Failure Float :=
  match v.view with
  | .datum (.text s) => readScalar (Text.Letters.chars s) (Text.quotedLetters s)
  | .datum (.bytes bs) => readScalar (charsOf bs) (shownBytes bs)
  | _ =>
    match quantity v with
    | .unusable => .error .badSetting
    | q => q.toScalar.mapError .fault

/-- A number by name, or the standard for it. -/
def number (fields : Fields) (name : String) (default : Quantity Float) : Quantity Float :=
  ((named? fields name).map quantity).getD default

def chassisFields (cfg : Value) : Except Failure Fields := do
  settings (← part cfg "robot")
    ["radius", "wheel_diameter", "counts_per_turn", "speed_to_mmps", "motor_timeout_s"]

def chassis (cfg : Value) : Except Failure (Chassis Float) := do
  let fields ← chassisFields cfg
  let std : Chassis Float := Chassis.standard
  return {
    radius := number fields "radius" std.radius
    wheelDiameter := number fields "wheel_diameter" std.wheelDiameter
    countsPerTurn := number fields "counts_per_turn" std.countsPerTurn
    unitSpeed := number fields "speed_to_mmps" std.unitSpeed
    motorTimeout := number fields "motor_timeout_s" std.motorTimeout }

/-- What has to be set of an obstacle. -/
def obstacleNeeds : List String := ["x", "y", "width", "height"]

def obstacleFields (v : Value) : Except Failure Fields := do
  let fields ← settings v ("filled" :: obstacleNeeds)
  if obstacleNeeds.all fun name => (named? fields name).isSome then return fields
  else .error .badSetting

def obstacle (fields : Fields) : Obstacle Float where
  x := number fields "x" .unusable
  y := number fields "y" .unusable
  width := number fields "width" .unusable
  height := number fields "height" .unusable
  filled := ((named? fields "filled").map Value.isSet).getD true

/-- The settings of each obstacle. -/
def obstaclesFields (cfg : Value) : Except Failure (List Fields) := do
  match ← get? (← part cfg "environment") "obstacles" with
  | some v =>
    match v.view with
    | .list vs => vs.mapM obstacleFields
    | _ => if v.isSet then .error .badSetting else .ok []
  | none => .ok []

def arena (cfg : Value) : Except Failure (Arena Float) := do
  let v ← part cfg "environment"
  let width ← get? v "width"
  let height ← get? v "height"
  let std : Arena Float := Arena.standard
  return {
    width := (width.map quantity).getD std.width
    height := (height.map quantity).getD std.height
    obstacles := (← obstaclesFields cfg).map obstacle }

/-- The simulation that a configuration describes, at rest at a given time. -/
def simulation (cfg : Value) (now : Float) : Except Failure (Simulation Float) := do
  let sim ← part cfg "sim"
  let chassis ← chassis cfg
  let speed ← get? sim "sim_speed"
  let timeout ← get? sim "timeout_enabled"
  let arena ← arena cfg
  let speed ← (speed.map scalar).getD (.ok 1)
  return Simulation.initial chassis arena speed now ((timeout.map Value.isSet).getD true)

/-- How often the robot is moved and its status is logged, as the time from one to the next. -/
structure Intervals where
  tick : Float
  status : Float

def interval (rate : Option Value) (default : Int) : Except Failure Float :=
  let rate := (rate.map quantity).getD (.whole default)
  ((Quantity.scalar 1).div rate).mapError .fault

def intervals (cfg : Value) : Except Failure Intervals := do
  let sim ← part cfg "sim"
  let tick ← interval (← get? sim "update_hz") 60
  let status ← interval (← get? sim "status_hz") 1
  return ⟨tick, status⟩

end DifferentialDrive.Config
