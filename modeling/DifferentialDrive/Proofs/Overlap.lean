import DifferentialDrive.Arena
import DifferentialDrive.Proofs.Exact

/-!
# Overlap with filled obstacles

A circle overlaps a filled rectangle if it reaches a point of it. The nearest point is nearest in
each direction by itself, at a `gap` that is nothing between the rectangle's sides. So a circle that
is further away than its radius in one direction misses it, one that is not and has no gap in the
other direction meets it, and for the rest the nearest point is a corner
(`Obstacle.intersects_filled_iff`).
-/

namespace DifferentialDrive

open Scalar

/-! ## Gaps -/

section

variable {K : Type} [Field K] [LinearOrder K] {c start length r : K}

/-- How far a number is from an interval. -/
def gap (c start length : K) : K := max (max (start - c) (c - (start + length))) 0

theorem gap_nonneg (c start length : K) : 0 ≤ gap c start length := le_max_right _ _

variable [IsStrictOrderedRing K]

/-- The gap reckoned from the middle of the interval. -/
theorem gap_eq (c start length : K) :
    gap c start length = max (|c - (start + length / 2)| - length / 2) 0 := by
  unfold gap
  congr 1
  rw [abs_eq_max_neg, ← max_sub_sub_right, max_comm]
  congr 1 <;> ring

theorem gap_le {p : K} (lower : start ≤ p) (upper : p ≤ start + length) :
    gap c start length ≤ |c - p| := by
  have below := neg_le_abs (c - p)
  have above := le_abs_self (c - p)
  exact max_le (max_le (by linarith) (by linarith)) (abs_nonneg _)

theorem exists_gap (c start : K) (long : 0 ≤ length) :
    ∃ p, start ≤ p ∧ p ≤ start + length ∧ |c - p| = gap c start length := by
  unfold gap
  obtain below | inside := lt_or_ge c start
  · have first : max (start - c) (c - (start + length)) = start - c := max_eq_left (by linarith)
    refine ⟨start, le_rfl, by linarith, ?_⟩
    rw [first, max_eq_left (by linarith), abs_of_neg (by linarith), neg_sub]
  · obtain within | above := le_or_gt c (start + length)
    · refine ⟨c, inside, within, ?_⟩
      rw [sub_self, abs_zero, max_eq_right (max_le (by linarith) (by linarith))]
    · have second : max (start - c) (c - (start + length)) = c - (start + length) :=
        max_eq_right (by linarith)
      refine ⟨start + length, by linarith, le_rfl, ?_⟩
      rw [second, max_eq_left (by linarith), abs_of_pos (by linarith)]

/-- The nearest point of a rectangle is as near as it gets in both directions. -/
theorem reached_iff {cx cy x y w h : K} (wide : 0 ≤ w) (high : 0 ≤ h) :
    (∃ p q, (x ≤ p ∧ p ≤ x + w) ∧ (y ≤ q ∧ q ≤ y + h) ∧ (cx - p) ^ 2 + (cy - q) ^ 2 ≤ r ^ 2) ↔
      gap cx x w ^ 2 + gap cy y h ^ 2 ≤ r ^ 2 := by
  constructor
  · rintro ⟨p, q, ⟨left, right⟩, ⟨lower, upper⟩, near⟩
    have across : gap cx x w ^ 2 ≤ (cx - p) ^ 2 := by
      rw [← sq_abs (cx - p)]
      exact pow_le_pow_left₀ (gap_nonneg _ _ _) (gap_le left right) 2
    have along : gap cy y h ^ 2 ≤ (cy - q) ^ 2 := by
      rw [← sq_abs (cy - q)]
      exact pow_le_pow_left₀ (gap_nonneg _ _ _) (gap_le lower upper) 2
    exact (add_le_add across along).trans near
  · intro near
    obtain ⟨p, left, right, across⟩ := exists_gap cx x wide
    obtain ⟨q, lower, upper, along⟩ := exists_gap cy y high
    refine ⟨p, q, ⟨left, right⟩, ⟨lower, upper⟩, ?_⟩
    rwa [← sq_abs (cx - p), ← sq_abs (cy - q), across, along]

/-- Whether a circle reaches a rectangle, by its centre's distances from the rectangle's. A distance
within the half is as good as none only for a circle that is not out of reach the other way. -/
theorem gaps_le_iff {halfWidth halfHeight dx dy : K} (round : 0 ≤ r) :
    max (dx - halfWidth) 0 ^ 2 + max (dy - halfHeight) 0 ^ 2 ≤ r ^ 2 ↔
      ¬ (r + halfWidth < dx ∨ r + halfHeight < dy) ∧ (dx ≤ halfWidth ∨ dy ≤ halfHeight ∨
        (dx - halfWidth) ^ 2 + (dy - halfHeight) ^ 2 ≤ r ^ 2) := by
  have square_le {d : K} (nonneg : 0 ≤ d) : d ^ 2 ≤ r ^ 2 ↔ d ≤ r :=
    pow_le_pow_iff_left₀ nonneg round two_ne_zero
  obtain inside | beside := le_or_gt dx halfWidth
  · rw [max_eq_right (sub_nonpos.2 inside), zero_pow two_ne_zero, zero_add,
      square_le (le_max_right _ _), max_le_iff]
    constructor
    · rintro ⟨near, -⟩
      exact ⟨not_or.2 ⟨by linarith, by linarith⟩, .inl inside⟩
    · rintro ⟨reached, -⟩
      exact ⟨by linarith [not_lt.1 (not_or.1 reached).2], round⟩
  obtain within | above := le_or_gt dy halfHeight
  · rw [max_eq_right (sub_nonpos.2 within), zero_pow two_ne_zero, add_zero,
      square_le (le_max_right _ _), max_le_iff]
    constructor
    · rintro ⟨near, -⟩
      exact ⟨not_or.2 ⟨by linarith, by linarith⟩, .inr (.inl within)⟩
    · rintro ⟨reached, -⟩
      exact ⟨by linarith [not_lt.1 (not_or.1 reached).1], round⟩
  rw [max_eq_left (sub_nonneg.2 beside.le), max_eq_left (sub_nonneg.2 above.le)]
  constructor
  · intro near
    have across := (square_le (sub_nonneg.2 beside.le)).1
      ((le_add_of_nonneg_right (sq_nonneg _)).trans near)
    have along := (square_le (sub_nonneg.2 above.le)).1
      ((le_add_of_nonneg_left (sq_nonneg _)).trans near)
    exact ⟨not_or.2 ⟨by linarith, by linarith⟩, .inr (.inr near)⟩
  · rintro ⟨-, inside | within | near⟩
    · exact absurd inside beside.not_ge
    · exact absurd within above.not_ge
    · exact near

end

namespace Obstacle

variable {K : Type} [Field K] [LinearOrder K] [FloorRing K] [Plane K] [IsStrictOrderedRing K]

/-- The numbers that an obstacle is set by. -/
structure Is (o : Obstacle (Exact K)) (x y width height : Exact K) : Prop where
  x : o.x.toScalar = .ok x
  y : o.y.toScalar = .ok y
  width : o.width.toScalar = .ok width
  height : o.height.toScalar = .ok height

variable {o : Obstacle (Exact K)} {x y w h r : Exact K} {radius : Quantity (Exact K)}

/-- What is reckoned of a filled rectangle, at the distances `dx` and `dy` from its centre. -/
theorem meetsInside_eq (set : o.Is x y w h) (hr : radius.toScalar = .ok r) {cx cy : Exact K}
    {dx dy : K} (hdx : |cx.value - (x.value + w.value / 2)| = dx)
    (hdy : |cy.value - (y.value + h.value / 2)| = dy) :
    o.meetsInside cx cy radius = .ok (decide (
      ¬ (r.value + w.value / 2 < dx ∨ r.value + h.value / 2 < dy) ∧
        (dx ≤ w.value / 2 ∨ dy ≤ h.value / 2 ∨
          (dx - w.value / 2) ^ 2 + (dy - h.value / 2) ^ 2 ≤ r.value ^ 2))) := by
  have two : (Quantity.scalar (ofInt 2) : Quantity (Exact K)).toScalar = .ok (ofInt 2) := rfl
  have halfWidth := Quantity.div_eq set.width two (by simp)
  have halfHeight := Quantity.div_eq set.height two (by simp)
  obtain ⟨square, hsquare, square_eq⟩ := Quantity.exists_squared hr
  simp only [meetsInside, halfWidth, halfHeight, set.x, set.y, hr, hsquare, Exact.squared_eq,
    Quantity.reaches_eq square_eq, bind, Except.bind, pure, Except.pure, Exact.lt_iff,
    Exact.le_iff, Exact.value_abs, Exact.value_sub, Exact.value_add, Exact.value_div,
    Exact.value_ofInt, Int.cast_ofNat, hdx, hdy]
  split_ifs with away near
  · simp [away]
  · simp [away, ← or_assoc, near]
  · simp [away, ← or_assoc, near]

/-- A filled rectangle overlaps a circle if and only if a point of it is within the circle. Any
ordered field will do, the rationals as well as the reals. -/
theorem intersects_filled_iff (set : o.Is x y w h) (filled : o.filled = true)
    (hr : radius.toScalar = .ok r) (wide : 0 ≤ w.value) (high : 0 ≤ h.value)
    (round : 0 ≤ r.value) (cx cy : Exact K) :
    ∃ hit, o.intersects cx cy radius = .ok hit ∧ (hit = true ↔
      ∃ p q : K, (x.value ≤ p ∧ p ≤ x.value + w.value) ∧ (y.value ≤ q ∧ q ≤ y.value + h.value) ∧
        (cx.value - p) ^ 2 + (cy.value - q) ^ 2 ≤ r.value ^ 2) := by
  refine ⟨_, (if_pos filled).trans (meetsInside_eq set hr rfl rfl), ?_⟩
  rw [decide_eq_true_iff, ← gaps_le_iff round, reached_iff wide high, gap_eq, gap_eq]

/-- A rectangle without a height is touched at its end. -/
theorem intersects_filled_iff_end :
    (⟨.whole 1, .scalar ⟨2⟩, .whole 4, .scalar ⟨0⟩, true⟩ : Obstacle (Exact ℝ)).intersects
      ⟨8⟩ ⟨6⟩ (.whole 5) = .ok true := by
  have set : Is (⟨.whole 1, .scalar ⟨2⟩, .whole 4, .scalar ⟨0⟩, true⟩ : Obstacle (Exact ℝ))
      (ofInt 1) ⟨2⟩ (ofInt 4) ⟨0⟩ := ⟨rfl, rfl, rfl, rfl⟩
  have five : (Quantity.whole 5 : Quantity (Exact ℝ)).toScalar = .ok (ofInt 5) := rfl
  obtain ⟨hit, found, reached⟩ :=
    intersects_filled_iff set rfl five (by simp) le_rfl (by simp) ⟨8⟩ ⟨6⟩
  rw [found, reached.2 ⟨5, 2, by norm_num, by norm_num, by norm_num⟩]

end Obstacle

end DifferentialDrive
