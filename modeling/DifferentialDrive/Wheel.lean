import DifferentialDrive.Chassis

/-!
# Wheel speeds

The driver has two speed registers and four modes of reading them: as one speed per wheel or as
speed and turn, each either around a centre of 128 or as a signed byte. `wheelUnits` gives the
signed speeds of the left and the right wheel.
-/

namespace DifferentialDrive

/-- How the speed registers are read. -/
inductive Mode where
  | centred
  | signed
  | centredTurn
  | signedTurn
  deriving Repr, DecidableEq

namespace Mode

def code : Mode → UInt8
  | centred => 0
  | signed => 1
  | centredTurn => 2
  | signedTurn => 3

def ofCode? : Int → Option Mode
  | 0 => some centred
  | 1 => some signed
  | 2 => some centredTurn
  | 3 => some signedTurn
  | _ => none

@[simp] theorem ofCode?_code (m : Mode) : ofCode? m.code.toNat = some m := by
  cases m <;> rfl

/-- The register value that stands for no speed. -/
def rest : Mode → UInt8
  | centred | centredTurn => 128
  | signed | signedTurn => 0

end Mode

/-- The low byte of an integer as a signed number. -/
def signedByte (n : Int) : Int := n.bmod 256

/-- Speed and turn as the speeds of the two wheels, within -128 and 127; the wheels change sides
when the robot backs. -/
def turning (speed turn : Int) : Int × Int :=
  if speed ≥ 0 then (min (speed + turn) 127, min (speed - turn) 127)
  else (max (speed - turn) (-128), max (speed + turn) (-128))

/-- The signed units of the left and the right wheel. -/
def wheelUnits : Mode → Int → Int → Int × Int
  | .centred, a, b => (a - 128, b - 128)
  | .signed, a, b => (signedByte a, signedByte b)
  | .centredTurn, a, b =>
    if a ≥ 128 then (min (a + b - 256) 127, min (a - b) 127)
    else (max (a - b) (-128), max (a + b - 256) (-128))
  | .signedTurn, a, b => turning (signedByte a) (signedByte b)

theorem wheelUnits_rest (m : Mode) :
    wheelUnits m m.rest.toNat m.rest.toNat = (0, 0) := by
  cases m <;> decide

variable {α : Type} [Scalar α]

/-- A mode by its code; `wheelUnits` is defined for these four alone. -/
def Mode.ofCode (code : Int) : Except (Fault α) Mode :=
  match Mode.ofCode? code with
  | some m => .ok m
  | none => .error (.unknownMode code)

/-- Millimetres per second of the left and the right wheel. -/
def wheelSpeeds (c : Chassis α) (m : Mode) (a b : Int) :
    Except (Fault α) (Quantity α × Quantity α) := do
  let units := wheelUnits m a b
  let left ← (Quantity.whole units.1).mul c.unitSpeed
  let right ← (Quantity.whole units.2).mul c.unitSpeed
  return (left, right)

end DifferentialDrive
