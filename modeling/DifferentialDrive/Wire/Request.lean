import DifferentialDrive.Scalar
import DifferentialDrive.Wire.Command

/-!
# Requests

Commands from arguments that a client chooses freely. Each is checked against what its operand
bytes can hold, so that a request either is refused or is a list of whole commands.
-/

namespace DifferentialDrive.Wire.Request

variable {α : Type} [Scalar α]

def byte (argument : String) (n : Int) : Except (Fault α) UInt8 :=
  if 0 ≤ n ∧ n ≤ 255 then .ok n.toNat.toUInt8 else .error (.outOfRange argument 0 255 n)

def word (argument : String) (n : Int) : Except (Fault α) UInt16 :=
  if 0 ≤ n ∧ n ≤ 65535 then .ok n.toNat.toUInt16 else .error (.outOfRange argument 0 65535 n)

/-- An opcode with operands as they are. -/
def raw (opcode : Int) (operands : List UInt8) : Except (Fault α) (List UInt8) :=
  return 0 :: (← byte "opcode" opcode) :: operands

def speeds (a b : Int) : Except (Fault α) (List Command) := do
  let a ← byte "speed1" a
  let b ← byte "speed2" b
  return [.speed1 a, .speed2 b]

def mode (code : Int) : Except (Fault α) (List Command) :=
  if 0 ≤ code ∧ code ≤ 3 then .ok [.mode code.toNat.toUInt8] else .error (.modeArgument code)

def acceleration (value : Int) : Except (Fault α) (List Command) :=
  if 1 ≤ value ∧ value ≤ 10 then .ok [.acceleration value.toNat.toUInt8]
  else .error (.accelerationArgument value)

def placeX (millimetres : Int) : Except (Fault α) (List Command) :=
  return [.placeX (← word "x" millimetres)]

def placeY (millimetres : Int) : Except (Fault α) (List Command) :=
  return [.placeY (← word "y" millimetres)]

/-- Tenths of a unit, the nearest whole number of them. -/
def tenths (argument : String) (x : α) : Except (Fault α) UInt16 := do
  word argument (← Scalar.toNearest (x * Scalar.ofInt 10))

def placeHeading (degrees : α) : Except (Fault α) (List Command) :=
  return [.placeHeading (← tenths "angle" degrees)]

def simSpeed (factor : α) : Except (Fault α) (List Command) :=
  return [.simSpeed (← tenths "sim speed" factor)]

end DifferentialDrive.Wire.Request
