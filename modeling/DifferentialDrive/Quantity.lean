import DifferentialDrive.Scalar

/-!
# Quantities

Numbers as they are set. A whole number may have any size: whole numbers are added, multiplied and
compared as they are, and one becomes a scalar only where it meets a scalar or is divided. What is
no number at all is refused where it is used.
-/

namespace DifferentialDrive

inductive Quantity (α : Type) where
  | whole (n : Int)
  | scalar (x : α)
  | unusable
  deriving Repr, DecidableEq

namespace Quantity

variable {α : Type} [Scalar α]

open Scalar

def toScalar : Quantity α → Except (Fault α) α
  | whole n => ofInteger n
  | scalar x => .ok x
  | unusable => .error .notANumber

/-- An operation that whole numbers have of their own. -/
def combine (onWhole : Int → Int → Int) (onScalar : α → α → α) :
    Quantity α → Quantity α → Except (Fault α) (Quantity α)
  | scalar x, scalar y => .ok (scalar (onScalar x y))
  | whole m, whole n => .ok (whole (onWhole m n))
  | scalar x, whole n => return scalar (onScalar x (← ofInteger n))
  | whole m, scalar y => return scalar (onScalar (← ofInteger m) y)
  | unusable, _ | _, unusable => .error .notANumber

def add : Quantity α → Quantity α → Except (Fault α) (Quantity α) := combine (· + ·) (· + ·)

def sub : Quantity α → Quantity α → Except (Fault α) (Quantity α) := combine (· - ·) (· - ·)

def mul : Quantity α → Quantity α → Except (Fault α) (Quantity α) := combine (· * ·) (· * ·)

/-- The quotient, which is a scalar. That of two whole numbers is rounded once. -/
def div : Quantity α → Quantity α → Except (Fault α) α
  | scalar x, scalar y => quotient x y
  | whole m, whole n =>
    if n = 0 then .error .wholeDivisionByZero
    else
      let x : α := ratio m n
      if isInfinite x then .error .quotientTooLarge else .ok x
  | scalar x, whole n => do quotient x (← ofInteger n)
  | whole m, scalar y => do quotient (← ofInteger m) y
  | unusable, _ | _, unusable => .error .notANumber

def abs : Quantity α → Quantity α
  | whole n => whole n.natAbs
  | scalar x => scalar (Scalar.abs x)
  | unusable => unusable

def squared : Quantity α → Except (Fault α) (Quantity α)
  | whole n => .ok (whole (n * n))
  | scalar x => return scalar (← Scalar.squared x)
  | unusable => .error .notANumber

def isZero : Quantity α → Bool
  | whole n => n == 0
  | scalar x => x == zero
  | unusable => false

/-- The least integer that is not less than a finite scalar. -/
def ceiling (x : α) : Int := if ofInt (truncate x) < x then truncate x + 1 else truncate x

/-- Whether a quantity is less than a scalar. -/
def isBelow : Quantity α → α → Except (Fault α) Bool
  | scalar y, x => .ok (y < x)
  | whole n, x => .ok (if isInfinite x then zero < x else !isNaN x && n < ceiling x)
  | unusable, _ => .error .notANumber

/-- Whether a scalar is at most a quantity. -/
def reaches : Quantity α → α → Except (Fault α) Bool
  | scalar y, x => .ok (x ≤ y)
  | whole n, x => .ok (if isInfinite x then x < zero else !isNaN x && ceiling x ≤ n)
  | unusable, _ => .error .notANumber

@[simp] theorem toScalar_scalar (x : α) : (scalar x).toScalar = .ok x := rfl

@[simp] theorem add_scalar (x y : α) : add (scalar x) (scalar y) = .ok (scalar (x + y)) := rfl

@[simp] theorem sub_scalar (x y : α) : sub (scalar x) (scalar y) = .ok (scalar (x - y)) := rfl

@[simp] theorem mul_scalar (x y : α) : mul (scalar x) (scalar y) = .ok (scalar (x * y)) := rfl

@[simp] theorem div_scalar (x y : α) : div (scalar x) (scalar y) = quotient x y := rfl

@[simp] theorem isBelow_scalar (x y : α) : isBelow (scalar y) x = .ok (decide (y < x)) := rfl

@[simp] theorem reaches_scalar (x y : α) : reaches (scalar y) x = .ok (decide (x ≤ y)) := rfl

end Quantity

end DifferentialDrive
