import DifferentialDrive.Fault

/-!
# Scalars

The arithmetic that lengths, angles and times are computed with. A `Scalar` is a type of numbers
with the operations the robot's geometry needs and no laws, so that binary64 is one as well as
the rationals and the reals. Each operation that can be refused has a checked form here, and the
rest of the library uses only those.
-/

namespace DifferentialDrive

/-- Numbers for lengths, angles and times. -/
class Scalar (α : Type) extends Add α, Sub α, Mul α, Div α, Neg α, LT α, LE α, BEq α where
  decidableLT : DecidableLT α
  decidableLE : DecidableLE α
  ofInt : Int → α
  /-- The scalar nearest to the quotient of two integers, of which the second is not zero. -/
  ratio : Int → Int → α
  pi : α
  abs : α → α
  sin : α → α
  cos : α → α
  square : α → α
  /-- The length of the vector with the given components. -/
  hypot : α → α → α
  /-- What is left of the first argument after as many whole multiples of the second as fit in
  it toward zero; it has the first argument's sign. -/
  remainder : α → α → α
  /-- The integer part; meaningful for finite scalars. -/
  truncate : α → Int
  /-- The nearest integer, a half going to the even neighbour; meaningful for finite scalars. -/
  nearest : α → Int
  isNaN : α → Bool
  isInfinite : α → Bool

attribute [reducible, instance] Scalar.decidableLT Scalar.decidableLE

namespace Scalar

variable {α : Type} [Scalar α]

def zero : α := ofInt 0

/-- The later of two instants; the first where they cannot be compared. -/
def later (a b : α) : α := if a < b then b else a

/-- The earlier of two instants; the first where they cannot be compared. -/
def earlier (a b : α) : α := if b < a then b else a

def radians (degrees : α) : α := degrees * (pi / ofInt 180)

def ofInteger (n : Int) : Except (Fault α) α :=
  let x : α := ofInt n
  if isInfinite x then .error .integerTooLarge else .ok x

def quotient (a b : α) : Except (Fault α) α :=
  if b == zero then .error .divisionByZero else .ok (a / b)

def sine (angle : α) : Except (Fault α) α :=
  if isInfinite angle then .error .angleInfinite else .ok (sin angle)

def cosine (angle : α) : Except (Fault α) α :=
  if isInfinite angle then .error .angleInfinite else .ok (cos angle)

def finite (x : α) : Except (Fault α) α :=
  if isInfinite x then .error .infinityToInteger
  else if isNaN x then .error .nanToInteger
  else .ok x

/-- The integer part, refused where there is none. -/
def toInteger (x : α) : Except (Fault α) Int := return truncate (← finite x)

/-- The nearest integer, refused where there is none. -/
def toNearest (x : α) : Except (Fault α) Int := return nearest (← finite x)

/-- The square, refused where that of a finite scalar is not finite. -/
def squared (x : α) : Except (Fault α) α :=
  let y := square x
  if isInfinite y && !isInfinite x then .error .squareOverflow else .ok y

end Scalar

end DifferentialDrive
