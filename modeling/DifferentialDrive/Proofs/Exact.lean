import DifferentialDrive.Quantity
import Mathlib.Analysis.SpecialFunctions.Trigonometric.Basic

/-!
# Exact arithmetic

Scalars that lose nothing: the numbers of an ordered field in which every number lies between two
integers. They stand beside the field as a type of their own, so that a sum of scalars is always one
of the library's and a sum of values always one of the field's; `value` leads from the first to the
second. On them a quantity that is a number is added, multiplied, divided and compared as that
number, whether it was set as a whole one or not (`Quantity.exists_add`, `Quantity.isBelow_eq`).
-/

namespace DifferentialDrive

/-- What the plane over a field is measured with. A field need not have these, so they are given. -/
class Plane (K : Type) where
  pi : K
  sin : K → K
  cos : K → K
  /-- The length of the vector with the given components. -/
  hypot : K → K → K

noncomputable instance : Plane ℝ where
  pi := Real.pi
  sin := Real.sin
  cos := Real.cos
  hypot x y := √(x ^ 2 + y ^ 2)

/-- A number of a field as a scalar. -/
@[ext]
structure Exact (K : Type) where
  value : K

namespace Exact

section

variable {K : Type} [Field K] [LinearOrder K] [FloorRing K]

/-- The integer part, toward zero. -/
def wholePart (x : K) : Int := if 0 ≤ x then ⌊x⌋ else ⌈x⌉

/-- What is left of a number without its integer part is less than one. -/
theorem abs_sub_wholePart_lt [IsStrictOrderedRing K] (x : K) : |x - wholePart x| < 1 := by
  unfold wholePart
  split_ifs
  · rw [Int.self_sub_floor, abs_of_nonneg (Int.fract_nonneg x)]
    exact Int.fract_lt_one x
  · rw [abs_sub_comm, abs_of_nonneg (sub_nonneg.2 (Int.le_ceil x))]
    linarith [Int.ceil_lt_add_one x]

/-- The nearest integer, a half going to the even neighbour. -/
def nearestInteger (x : K) : Int :=
  let rest := x - ⌊x⌋
  if rest + rest < 1 ∨ rest + rest = 1 ∧ Even ⌊x⌋ then ⌊x⌋ else ⌊x⌋ + 1

end

variable {K : Type} [Field K] [LinearOrder K] [FloorRing K] [Plane K]

instance : Scalar (Exact K) where
  add x y := ⟨x.value + y.value⟩
  sub x y := ⟨x.value - y.value⟩
  mul x y := ⟨x.value * y.value⟩
  div x y := ⟨x.value / y.value⟩
  neg x := ⟨-x.value⟩
  lt x y := x.value < y.value
  le x y := x.value ≤ y.value
  beq x y := x.value = y.value
  decidableLT x y := inferInstanceAs (Decidable (x.value < y.value))
  decidableLE x y := inferInstanceAs (Decidable (x.value ≤ y.value))
  ofInt n := ⟨n⟩
  ratio m n := ⟨m / n⟩
  pi := ⟨Plane.pi⟩
  abs x := ⟨|x.value|⟩
  sin x := ⟨Plane.sin x.value⟩
  cos x := ⟨Plane.cos x.value⟩
  square x := ⟨x.value ^ 2⟩
  hypot x y := ⟨Plane.hypot x.value y.value⟩
  remainder x y := ⟨x.value - y.value * wholePart (x.value / y.value)⟩
  truncate x := wholePart x.value
  nearest x := nearestInteger x.value
  isNaN _ := false
  isInfinite _ := false

/-! ## Values -/

variable (x y : Exact K) (n : Int)

@[simp] theorem value_add : (x + y).value = x.value + y.value := rfl

@[simp] theorem value_sub : (x - y).value = x.value - y.value := rfl

@[simp] theorem value_mul : (x * y).value = x.value * y.value := rfl

@[simp] theorem value_div : (x / y).value = x.value / y.value := rfl

@[simp] theorem value_ofInt : (Scalar.ofInt n : Exact K).value = n := rfl

@[simp] theorem value_zero : (Scalar.zero : Exact K).value = 0 := Int.cast_zero

@[simp] theorem value_pi : (Scalar.pi : Exact K).value = Plane.pi := rfl

@[simp] theorem value_abs : (Scalar.abs x).value = |x.value| := rfl

@[simp] theorem value_later : (Scalar.later x y).value = max x.value y.value :=
  (apply_ite value (x < y) y x).trans (max_def_lt _ _).symm

@[simp] theorem value_earlier : (Scalar.earlier x y).value = min x.value y.value :=
  (apply_ite value (y < x) y x).trans (min_comm x.value y.value ▸ (min_def_lt _ _).symm)

theorem value_remainder : (Scalar.remainder x y).value =
    x.value - y.value * wholePart (x.value / y.value) := rfl

@[simp] theorem value_radians : (Scalar.radians x).value = x.value * (Plane.pi / 180) := by
  simp [Scalar.radians]

theorem lt_iff : x < y ↔ x.value < y.value := Iff.rfl

theorem le_iff : x ≤ y ↔ x.value ≤ y.value := Iff.rfl

theorem zero_lt_iff : Scalar.zero < x ↔ 0 < x.value := by
  rw [lt_iff, value_zero]

theorem not_lt_zero_iff : ¬ x < Scalar.zero ↔ 0 ≤ x.value := by
  rw [lt_iff, value_zero, not_lt]

theorem beq_iff : (x == y) = true ↔ x.value = y.value := decide_eq_true_iff

theorem beq_zero_iff : (x == Scalar.zero) = true ↔ x.value = 0 := by
  rw [beq_iff, value_zero]

/-! ## Checked operations -/

variable {x y}

theorem quotient_eq (h : y.value ≠ 0) : Scalar.quotient x y = .ok (x / y) :=
  if_neg fun zero => h ((beq_zero_iff y).1 zero)

@[simp] theorem ofInteger_eq : Scalar.ofInteger n = .ok (Scalar.ofInt n : Exact K) := rfl

@[simp] theorem sine_eq : Scalar.sine x = .ok ⟨Plane.sin x.value⟩ := rfl

@[simp] theorem cosine_eq : Scalar.cosine x = .ok ⟨Plane.cos x.value⟩ := rfl

@[simp] theorem squared_eq : Scalar.squared x = .ok ⟨x.value ^ 2⟩ := rfl

theorem ceiling_eq [IsStrictOrderedRing K] : Quantity.ceiling x = ⌈x.value⌉ := by
  have part : Scalar.truncate x = wholePart x.value := rfl
  simp only [Quantity.ceiling, part, lt_iff, value_ofInt, wholePart]
  split_ifs with positive short short
  · refine (Int.ceil_eq_iff.2 ⟨?_, ?_⟩).symm
    · push_cast
      linarith
    · push_cast
      exact (Int.lt_floor_add_one _).le
  · have whole : (⌊x.value⌋ : K) = x.value := le_antisymm (Int.floor_le _) (not_lt.1 short)
    rw [← whole, Int.ceil_intCast, Int.floor_intCast]
  · exact absurd short (not_lt.2 (Int.le_ceil _))
  · rfl

end Exact

/-! ## Quantities that are numbers -/

namespace Quantity

open Scalar

variable {K : Type} [Field K] [LinearOrder K] [FloorRing K] [Plane K]
  {p q : Quantity (Exact K)} {x y : Exact K}

/-- An operation on whole numbers that is that on scalars. -/
theorem exists_combine {onWhole : Int → Int → Int} {onScalar : Exact K → Exact K → Exact K}
    (same : ∀ m n, ofInt (onWhole m n) = onScalar (ofInt m) (ofInt n)) (hp : p.toScalar = .ok x)
    (hq : q.toScalar = .ok y) :
    ∃ s, combine onWhole onScalar p q = .ok s ∧ s.toScalar = .ok (onScalar x y) := by
  cases p <;> cases q <;> cases hp <;> cases hq
  · exact ⟨_, rfl, congrArg _ (same _ _)⟩
  all_goals exact ⟨_, rfl, rfl⟩

variable (hp : p.toScalar = .ok x) (hq : q.toScalar = .ok y)
include hp hq

theorem exists_add : ∃ s, p.add q = .ok s ∧ s.toScalar = .ok (x + y) :=
  exists_combine (fun _ _ => Exact.ext (by simp)) hp hq

theorem exists_sub : ∃ s, p.sub q = .ok s ∧ s.toScalar = .ok (x - y) :=
  exists_combine (fun _ _ => Exact.ext (by simp)) hp hq

theorem exists_mul : ∃ s, p.mul q = .ok s ∧ s.toScalar = .ok (x * y) :=
  exists_combine (fun _ _ => Exact.ext (by simp)) hp hq

omit hq

theorem exists_squared : ∃ s, p.squared = .ok s ∧ s.toScalar = .ok ⟨x.value ^ 2⟩ := by
  cases p <;> cases hp
  · exact ⟨_, rfl, congrArg _ (Exact.ext (by simp [sq]))⟩
  · exact ⟨_, rfl, rfl⟩

theorem isZero_iff : p.isZero = true ↔ x.value = 0 := by
  cases p <;> cases hp
  · simp [isZero]
  · exact Exact.beq_zero_iff x

theorem div_eq (hq : q.toScalar = .ok y) (h : y.value ≠ 0) : p.div q = .ok (x / y) := by
  cases p <;> cases q <;> cases hp <;> cases hq
  · next m n =>
    have nonzero : n ≠ 0 := fun zero => h (by simp [zero])
    simp only [div, if_neg nonzero]
    rfl
  all_goals exact Exact.quotient_eq h

variable [IsStrictOrderedRing K]

theorem abs_toScalar : p.abs.toScalar = .ok (Scalar.abs x) := by
  cases p <;> cases hp
  · exact congrArg _ (Exact.ext (by simp))
  · rfl

theorem isBelow_eq (b : Exact K) : p.isBelow b = .ok (decide (x < b)) := by
  cases p <;> cases hp
  · next n =>
    have below : n < ceiling b ↔ (ofInt n : Exact K) < b := by
      rw [Exact.ceiling_eq, Int.lt_ceil, Exact.lt_iff, Exact.value_ofInt]
    exact congrArg Except.ok (decide_eq_decide.2 below)
  · rfl

theorem reaches_eq (b : Exact K) : p.reaches b = .ok (decide (b ≤ x)) := by
  cases p <;> cases hp
  · next n =>
    have reached : ceiling b ≤ n ↔ b ≤ (ofInt n : Exact K) := by
      rw [Exact.ceiling_eq, Int.ceil_le, Exact.le_iff, Exact.value_ofInt]
    exact congrArg Except.ok (decide_eq_decide.2 reached)
  · rfl

end Quantity

end DifferentialDrive
