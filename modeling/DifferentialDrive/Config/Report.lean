import DifferentialDrive.Config.Settings

/-!
# Reports

The settings of the robot and its arena in plain terms: measures as scalars, and the others as
they are set.
-/

namespace DifferentialDrive.Config

open Document

structure ObstacleReport where
  x : Float
  y : Float
  width : Float
  height : Float
  filled : Value

structure Report where
  radius : Float
  wheelDiameter : Float
  countsPerTurn : Value
  unitSpeed : Float
  motorTimeout : Float
  width : Float
  height : Float
  obstacles : List ObstacleReport
  /-- Whether the motors stop when commands stay out, before a command says so. -/
  timeout : Value

/-- A setting as a scalar, or the standard for it. -/
def scalarOr (fields : Fields) (name : String) (default : Float) : Except Failure Float :=
  ((named? fields name).map scalar).getD (.ok default)

def obstacleReport (fields : Fields) : Except Failure ObstacleReport := do
  return {
    x := ← scalarOr fields "x" 0
    y := ← scalarOr fields "y" 0
    width := ← scalarOr fields "width" 0
    height := ← scalarOr fields "height" 0
    filled := (named? fields "filled").getD (.ofDatum (.bool true)) }

def report (cfg : Value) : Except Failure Report := do
  let robot ← chassisFields cfg
  let around ← part cfg "environment"
  return {
    radius := ← scalarOr robot "radius" 250
    wheelDiameter := ← scalarOr robot "wheel_diameter" 125
    countsPerTurn := (named? robot "counts_per_turn").getD (.ofDatum (.int 980))
    unitSpeed := ← scalarOr robot "speed_to_mmps" 6.25
    motorTimeout := ← scalarOr robot "motor_timeout_s" 2
    width := ← ((← get? around "width").map scalar).getD (.ok 5000)
    height := ← ((← get? around "height").map scalar).getD (.ok 5000)
    obstacles := ← (← obstaclesFields cfg).mapM obstacleReport
    timeout := (← get? (← part cfg "sim") "timeout_enabled").getD (.ofDatum (.bool true)) }

/-- Whether an event is a command that says whether the motors stop when commands stay out. -/
def saysTimeout : Event Float → Bool
  | .executed (.timeout _) _ => true
  | _ => false

/-- Whether the motors stop when commands stay out: as the last command said, or else as it is
set. -/
def Report.currentTimeout (r : Report) (s : Simulation Float) : Value :=
  if s.robot.journal.any saysTimeout then .ofDatum (.bool s.robot.registers.timeout) else r.timeout

end DifferentialDrive.Config
