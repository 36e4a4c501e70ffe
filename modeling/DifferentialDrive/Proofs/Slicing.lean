import DifferentialDrive.Proofs.ExactMotion

/-!
# Motion in slices

Over the reals a robot that is moved for some seconds and then for some more gets to where it gets
when it is moved at once (`Pose.advance_advance`). A way straight ahead is added to another, and so
is a turn about one point; that the heading loses its whole turns in between makes no difference, as
nothing that depends on it tells an angle from one a whole turn away.
-/

namespace DifferentialDrive

open Scalar

/-! ## Headings -/

namespace Heading

variable {K : Type} [Field K] [LinearOrder K] [FloorRing K] [Plane K]

theorem value_fullTurn : (fullTurn : Exact K).value = 360 := by
  simp [fullTurn]

variable [IsStrictOrderedRing K]

/-- What is left of an angle behind its whole turns. -/
theorem value_wrap (a : Exact K) : (wrap a).value = 360 * Int.fract (a.value / 360) := by
  have rest : (remainder a fullTurn).value =
      360 * (a.value / 360 - Exact.wholePart (a.value / 360)) := by
    rw [Exact.value_remainder, value_fullTurn]
    ring
  have near := Exact.abs_sub_wholePart_lt (a.value / 360)
  -- what is left is the remainder, or a turn more where the remainder is below zero
  have left (v : K) (nonnegative : 0 ≤ v) (less : v < 1)
      (turns : ∃ z : ℤ, a.value / 360 - v = z) : 360 * v = 360 * Int.fract (a.value / 360) := by
    rw [Int.fract_eq_iff.2 ⟨nonnegative, less, turns⟩]
  unfold wrap
  generalize Exact.wholePart (a.value / 360) = n at rest near
  obtain ⟨above, below⟩ := abs_lt.1 near
  simp only [Exact.beq_zero_iff, Exact.lt_iff, Exact.value_zero, rest]
  split_ifs with whole negative
  · have none : a.value / 360 - 0 = n := by linarith
    rw [Exact.value_zero, ← left 0 le_rfl one_pos ⟨n, none⟩, mul_zero]
  · have more : a.value / 360 - (a.value / 360 - n + 1) = (n - 1 : ℤ) := by
      push_cast
      ring
    rw [Exact.value_add, rest, value_fullTurn, ← left _ (by linarith) (by linarith) ⟨_, more⟩]
    ring
  · rw [rest]
    exact left _ (by linarith) below ⟨n, sub_sub_cancel _ _⟩

theorem value_normalize (a : Exact K) : (normalize a).value = 360 * Int.fract (a.value / 360) := by
  have less : ¬ fullTurn ≤ wrap a := by
    rw [Exact.le_iff, value_fullTurn, value_wrap]
    linarith [Int.fract_lt_one (a.value / 360)]
  rw [normalize, if_neg less, value_wrap]

theorem normalize_add_turns (a : K) (k : ℤ) :
    normalize (⟨a + k * 360⟩ : Exact K) = normalize ⟨a⟩ := by
  refine Exact.ext ?_
  rw [value_normalize, value_normalize, add_div, mul_div_cancel_right₀ _ (by norm_num),
    Int.fract_add_intCast]

/-- Normalising an angle takes whole turns from it. -/
theorem exists_turns (a : Exact K) : ∃ k : ℤ, (normalize a).value = a.value + k * 360 := by
  refine ⟨-⌊a.value / 360⌋, ?_⟩
  rw [value_normalize, Int.fract]
  push_cast
  ring

theorem normalize_normalize_add (a : Exact K) (b : K) :
    normalize (⟨(normalize a).value + b⟩ : Exact K) = normalize ⟨a.value + b⟩ := by
  obtain ⟨k, turns⟩ := exists_turns a
  rw [turns, add_right_comm, normalize_add_turns]

theorem normalize_normalize (a : Exact K) : normalize (normalize a) = normalize a := by
  simpa using normalize_normalize_add a 0

end Heading

/-! ## The plane over the reals -/

/-- The sine and cosine of a heading are those of the angle it was normalised from. -/
theorem Heading.sin_cos_normalize (a : Exact ℝ) :
    Plane.sin (radians (normalize a)).value = Plane.sin (radians a).value ∧
      Plane.cos (radians (normalize a)).value = Plane.cos (radians a).value := by
  obtain ⟨k, turns⟩ := exists_turns a
  have same : (radians (normalize a)).value = (radians a).value + k * (2 * Plane.pi) := by
    rw [Exact.value_radians, Exact.value_radians, turns]
    ring
  rw [same]
  exact ⟨Real.sin_add_int_mul_two_pi _ k, Real.cos_add_int_mul_two_pi _ k⟩

namespace Pose

theorem ahead_ahead (p : Pose (Exact ℝ)) (a b : ℝ) : (p.ahead a).ahead b = p.ahead (a + b) := by
  obtain ⟨sin, cos⟩ := Heading.sin_cos_normalize p.heading
  simp only [ahead, angle, sin, cos, Heading.normalize_normalize, mk.injEq, Exact.mk.injEq,
    and_true]
  constructor <;> ring

theorem radians_turned (a : Exact ℝ) (turn : ℝ) :
    (radians (⟨a.value + turn * 180 / Plane.pi⟩ : Exact ℝ)).value = (radians a).value + turn := by
  have nonzero : (Plane.pi : ℝ) ≠ 0 := Real.pi_ne_zero
  simp only [Exact.value_radians]
  field_simp

/-- The point that a robot turns about does not move. -/
theorem about_about (p : Pose (Exact ℝ)) (distance s t : ℝ) :
    (p.about distance s).about distance t = p.about distance (s + t) := by
  obtain ⟨sin, cos⟩ := Heading.sin_cos_normalize ⟨p.heading.value + s * 180 / Plane.pi⟩
  rw [radians_turned] at sin cos
  have expand (x y : ℝ) :
      Plane.sin (x + y) = Plane.sin x * Plane.cos y + Plane.cos x * Plane.sin y ∧
      Plane.cos (x + y) = Plane.cos x * Plane.cos y - Plane.sin x * Plane.sin y :=
    ⟨Real.sin_add x y, Real.cos_add x y⟩
  simp only [about, angle, sin, cos, expand, Heading.normalize_normalize_add, mk.injEq,
    Exact.mk.injEq]
  refine ⟨?_, ?_, ?_⟩
  · ring
  · ring
  · exact congrArg (fun a : ℝ => Heading.normalize (⟨a⟩ : Exact ℝ)) (by ring)

section

variable (p : Pose (Exact ℝ)) (left right radius : ℝ)

/-- Over the reals no motion is the way and the turn of nothing. -/
theorem driven_eq (dt : ℝ) : p.driven left right radius dt =
    if |left - right| < (straightBelow : Exact ℝ).value then p.ahead (left * dt)
    else p.about (radius * (left + right) / (right - left))
      ((right - left) / (2 * radius) * dt) := by
  have sin : Plane.sin (0 : ℝ) = 0 := Real.sin_zero
  have cos : Plane.cos (0 : ℝ) = 1 := Real.cos_zero
  by_cases still : dt = 0
  · rw [driven, if_pos still, still]
    split
    · simp [ahead]
    · simp [about, sin, cos]
  · rw [driven, if_neg still]

theorem driven_driven (s t : ℝ) :
    (p.driven left right radius s).driven left right radius t =
      p.driven left right radius (s + t) := by
  simp only [driven_eq]
  split
  · rw [ahead_ahead, ← mul_add]
  · rw [about_about, ← mul_add]

end

variable {left right radius : Quantity (Exact ℝ)} {l r ρ : Exact ℝ}

/-- Moved for one time and then for another, a robot gets to where it gets when it is moved for both
at once: on a straight line or about a point, forward or back, and where either time is none. -/
theorem advance_advance (hl : left.toScalar = .ok l) (hr : right.toScalar = .ok r)
    (hρ : radius.toScalar = .ok ρ) (broad : ρ.value ≠ 0) (p : Pose (Exact ℝ)) (dt₁ dt₂ : Exact ℝ) :
    ∃ q s, p.advance left right dt₁ radius = .ok q ∧ q.advance left right dt₂ radius = .ok s ∧
      p.advance left right (dt₁ + dt₂) radius = .ok s := by
  have moved := advance_eq hl hr hρ broad
  refine ⟨_, _, moved p dt₁, moved _ dt₂, ?_⟩
  rw [moved, Exact.value_add, driven_driven]

/-- Three seconds about a point, a second and then two, across the heading zero. -/
theorem advance_advance_turning :
    let p : Pose (Exact ℝ) := ⟨⟨0⟩, ⟨0⟩, ⟨350⟩⟩
    (Quantity.whole 250 : Quantity (Exact ℝ)).toScalar = .ok (ofInt 250) ∧
      ∃ q s, p.advance (.whole 100) (.scalar ⟨250⟩) ⟨1⟩ (.whole 250) = .ok q ∧
        q.advance (.whole 100) (.scalar ⟨250⟩) ⟨2⟩ (.whole 250) = .ok s ∧
        p.advance (.whole 100) (.scalar ⟨250⟩) (⟨1⟩ + ⟨2⟩) (.whole 250) = .ok s :=
  ⟨rfl, advance_advance rfl rfl rfl (by simp) _ _ _⟩

end Pose

end DifferentialDrive
