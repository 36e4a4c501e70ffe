import DifferentialDrive.Motion
import DifferentialDrive.Proofs.Exact
import Mathlib.Tactic.FieldSimp
import Mathlib.Tactic.Ring

/-!
# Motion in exact arithmetic

Where a robot gets in exact arithmetic, in closed form: a way straight ahead, or a turn about the
point at a distance to its left. Neither is ever refused if the robot has a radius
(`Pose.advance_eq`).
-/

namespace DifferentialDrive

open Scalar

variable {K : Type} [Field K] [LinearOrder K] [FloorRing K] [Plane K]

namespace Pose

/-- Where the robot looks, in radians. -/
def angle (p : Pose (Exact K)) : K := (radians p.heading).value

/-- Straight ahead by a way. -/
def ahead (p : Pose (Exact K)) (way : K) : Pose (Exact K) where
  x := ⟨p.x.value + way * Plane.cos p.angle⟩
  y := ⟨p.y.value + way * Plane.sin p.angle⟩
  heading := Heading.normalize p.heading

/-- About the point at a distance to the left, by a turn in radians. -/
def about (p : Pose (Exact K)) (distance turn : K) : Pose (Exact K) where
  x := ⟨p.x.value + distance * (Plane.sin turn * Plane.cos p.angle +
    Plane.cos turn * Plane.sin p.angle - Plane.sin p.angle)⟩
  y := ⟨p.y.value - distance * (Plane.cos turn * Plane.cos p.angle -
    Plane.sin turn * Plane.sin p.angle - Plane.cos p.angle)⟩
  heading := Heading.normalize ⟨p.heading.value + turn * 180 / Plane.pi⟩

/-- The pose after some seconds at constant wheel speeds. -/
def driven (p : Pose (Exact K)) (left right radius dt : K) : Pose (Exact K) :=
  if dt = 0 then { p with heading := Heading.normalize p.heading }
  else if |left - right| < (straightBelow : Exact K).value then p.ahead (left * dt)
  else p.about (radius * (left + right) / (right - left)) ((right - left) / (2 * radius) * dt)

variable {left right radius : Quantity (Exact K)} {l r ρ : Exact K} {p : Pose (Exact K)}

theorem straight_eq (hl : left.toScalar = .ok l) (dt : Exact K) :
    p.straight left dt = .ok (p.ahead (l.value * dt.value)) := by
  simp only [straight, hl, Exact.cosine_eq, Exact.sine_eq, bind, Except.bind, pure, Except.pure,
    ahead, angle, Except.ok.injEq, mk.injEq, Exact.ext_iff, Exact.value_add, Exact.value_mul,
    and_true]
  constructor <;> ring

/-- Wheels that do not drive straight turn the robot. -/
theorem heading_driven {left right radius : K}
    (wide : (straightBelow : Exact K).value ≤ |left - right|) (p : Pose (Exact K)) (dt : K) :
    (p.driven left right radius dt).heading = Heading.normalize
      ⟨p.heading.value + (right - left) / (2 * radius) * dt * 180 / Plane.pi⟩ := by
  unfold driven
  split
  · next still => simp [still]
  · rw [if_neg (not_lt.2 wide)]
    rfl

variable [IsStrictOrderedRing K]

theorem arc_eq (hl : left.toScalar = .ok l) (hr : right.toScalar = .ok r)
    (hρ : radius.toScalar = .ok ρ) (broad : ρ.value ≠ 0) (apart : r.value - l.value ≠ 0)
    (dt : Exact K) :
    p.arc left right dt radius =
      .ok (p.about (ρ.value * (l.value + r.value) / (r.value - l.value))
        ((r.value - l.value) / (2 * ρ.value) * dt.value)) := by
  have two : (Quantity.whole 2 : Quantity (Exact K)).toScalar = .ok (ofInt 2) := rfl
  obtain ⟨base, hbase, base_eq⟩ := Quantity.exists_mul two hρ
  obtain ⟨sum, hsum, sum_eq⟩ := Quantity.exists_add hl hr
  obtain ⟨difference, hdifference, difference_eq⟩ := Quantity.exists_sub hr hl
  have half : base.div (.whole 2) = .ok ρ := by
    rw [Quantity.div_eq base_eq two (by simp)]
    exact congrArg _ (Exact.ext (by simp))
  have distance (x : Exact K) := Quantity.div_eq (Quantity.toScalar_scalar x) difference_eq apart
  have turnRate := Quantity.div_eq difference_eq base_eq (by simpa using broad)
  simp only [arc, hbase, half, hsum, sum_eq, hdifference, distance, turnRate, Exact.cosine_eq,
    Exact.sine_eq, bind, Except.bind, pure, Except.pure, about, angle, Except.ok.injEq, mk.injEq,
    Exact.ext_iff (x := _ + _), Exact.value_add, Exact.value_sub, Exact.value_mul, Exact.value_div,
    Exact.value_ofInt, Int.cast_ofNat]
  refine ⟨?_, ?_, ?_⟩
  · ring
  · ring
  · exact congrArg Heading.normalize (Exact.ext (by simp))

theorem straightBelow_pos : 0 < (straightBelow : Exact K).value := by
  simp [straightBelow]

theorem advance_eq (hl : left.toScalar = .ok l) (hr : right.toScalar = .ok r)
    (hρ : radius.toScalar = .ok ρ) (broad : ρ.value ≠ 0) (p : Pose (Exact K)) (dt : Exact K) :
    p.advance left right dt radius = .ok (p.driven l.value r.value ρ.value dt.value) := by
  unfold advance driven
  by_cases still : dt.value = 0
  · rw [if_pos ((Exact.beq_zero_iff dt).2 still), if_pos still]
  · obtain ⟨difference, hdifference, difference_eq⟩ := Quantity.exists_sub hl hr
    have below := Quantity.isBelow_eq (Quantity.abs_toScalar difference_eq) straightBelow
    rw [if_neg (still ∘ (Exact.beq_zero_iff dt).1), if_neg still]
    simp only [hdifference, below, bind, Except.bind, decide_eq_true_eq, Exact.lt_iff,
      Exact.value_abs, Exact.value_sub]
    split
    · exact straight_eq hl dt
    · next wide =>
      refine arc_eq hl hr hρ broad (fun same => wide ?_) dt
      rw [abs_sub_comm, same, abs_zero]
      exact straightBelow_pos

end Pose

variable {c : Chassis (Exact K)} {ρ u : Exact K}

theorem exists_wheelSpeeds (hu : c.unitSpeed.toScalar = .ok u) (m : Mode) (a b : Int) :
    ∃ left right, wheelSpeeds c m a b = .ok (left, right) ∧
      left.toScalar = .ok (ofInt (wheelUnits m a b).1 * u) ∧
      right.toScalar = .ok (ofInt (wheelUnits m a b).2 * u) := by
  obtain ⟨left, hleft, left_eq⟩ := Quantity.exists_mul (p := .whole (wheelUnits m a b).1) rfl hu
  obtain ⟨right, hright, right_eq⟩ := Quantity.exists_mul (p := .whole (wheelUnits m a b).2) rfl hu
  refine ⟨left, right, ?_, left_eq, right_eq⟩
  simp only [wheelSpeeds, hleft, hright]
  rfl

/-- The motion between two instants. -/
theorem exists_travel [IsStrictOrderedRing K] (hρ : c.radius.toScalar = .ok ρ) (broad : ρ.value ≠ 0)
    (hu : c.unitSpeed.toScalar = .ok u) (m : Mode) (a b : Int) (start stop factor : Exact K)
    (p : Pose (Exact K)) :
    let dt := (stop.value - start.value) * factor.value
    let left := (wheelUnits m a b).1 * u.value
    let right := (wheelUnits m a b).2 * u.value
    ∃ t, travel c m a b start stop factor p = .ok t ∧ t.pose = p.driven left right ρ.value dt ∧
      t.left.value = left * dt ∧ t.right.value = right * dt := by
  intro dt left right
  obtain ⟨l, r, speeds, hl, hr⟩ := exists_wheelSpeeds hu m a b
  have moved := Pose.advance_eq hl hr hρ broad p ((stop - start) * factor)
  refine ⟨⟨(stop - start) * factor, _, _, _⟩, ?_, rfl, rfl, rfl⟩
  simp only [travel, speeds, moved, hl, hr, bind, Except.bind]
  rfl

end DifferentialDrive
