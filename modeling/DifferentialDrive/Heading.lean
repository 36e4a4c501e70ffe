import DifferentialDrive.Scalar

/-!
# Headings

A heading is an angle in degrees, kept in the turn from 0 up to but without 360.
-/

namespace DifferentialDrive.Heading

variable {α : Type} [Scalar α]

open Scalar

def fullTurn : α := ofInt 360

/-- What is left of an angle after whole turns toward minus infinity. Just below a whole turn the
sum may round up to the full turn. -/
def wrap (angle : α) : α :=
  let rest := remainder angle fullTurn
  if rest == zero then zero
  else if rest < zero then rest + fullTurn
  else rest

def normalize (angle : α) : α :=
  let rest := wrap angle
  if fullTurn ≤ rest then zero else rest

end DifferentialDrive.Heading
