import DifferentialDrive.Wheel
import DifferentialDrive.Wire.Integer

/-!
# Registers of the motor driver

The speed registers are read with the mode that held when one of them was last written. A mode
written on its own waits for the next speed: it moves the mode of reading to the value it
replaces.
-/

namespace DifferentialDrive

structure Registers (α : Type) where
  speed1 : UInt8
  speed2 : UInt8
  mode : Mode
  /-- The mode in which the speed registers are read. -/
  decodeMode : Mode
  acceleration : Int
  encoder1 : Int
  encoder2 : Int
  regulator : Bool
  /-- Whether the motors stop when commands stay out. -/
  timeout : Bool
  /-- Whether they were stopped so, and no speed has been written since. -/
  timedOut : Bool
  lastCommand : α
  deriving Repr

namespace Registers

variable {α : Type}

def initial (timeout : Bool) (start : α) : Registers α where
  speed1 := Mode.centred.rest
  speed2 := Mode.centred.rest
  mode := .centred
  decodeMode := .centred
  acceleration := 5
  encoder1 := 0
  encoder2 := 0
  regulator := false
  timeout := timeout
  timedOut := false
  lastCommand := start

def setSpeed1 (r : Registers α) (value : UInt8) : Registers α :=
  { r with decodeMode := r.mode, speed1 := value, timedOut := false }

def setSpeed2 (r : Registers α) (value : UInt8) : Registers α :=
  { r with decodeMode := r.mode, speed2 := value, timedOut := false }

def setMode (r : Registers α) (m : Mode) : Registers α :=
  { r with decodeMode := r.mode, mode := m }

/-- The mode with a given code, refused where there is none. -/
def assignMode (r : Registers α) (code : Int) : Except (Fault α) (Registers α) :=
  match Mode.ofCode? code with
  | some m => .ok (r.setMode m)
  | none => .error (.modeRegister code)

/-- The acceleration nearest to the given one within 1 and 10. -/
def setAcceleration (r : Registers α) (value : Int) : Registers α :=
  { r with acceleration := max 1 (min 10 value) }

/-- Both speeds at rest, by a stop that no command asked for. -/
def forceStop (r : Registers α) : Registers α :=
  { (r.setSpeed1 r.mode.rest).setSpeed2 r.mode.rest with timedOut := true }

def resetEncoders (r : Registers α) : Registers α := { r with encoder1 := 0, encoder2 := 0 }

def addCounts (r : Registers α) (counts1 counts2 : Int) : Registers α :=
  { r with
    encoder1 := Wire.wrap32 (r.encoder1 + counts1)
    encoder2 := Wire.wrap32 (r.encoder2 + counts2) }

/-- The wheel units that the speed registers stand for. -/
def units (r : Registers α) : Int × Int :=
  wheelUnits r.decodeMode r.speed1.toNat r.speed2.toNat

@[simp] theorem units_forceStop (r : Registers α) : r.forceStop.units = (0, 0) :=
  wheelUnits_rest r.mode

end Registers

end DifferentialDrive
