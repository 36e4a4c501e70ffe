import DifferentialDrive.Proofs.Binary64.Increments
import DifferentialDrive.Proofs.Binary64.Spacing

/-!
# How far steps of one width reach

Steps of a width are made up to a power of two, `reach`, and no further: from there on numbers are
at least twice the width apart, so that a step is rounded away. Only a step that is exactly the half
of the distance is made from an odd multiple of it, to the even one, where the next is not. So steps
come to wherever the first leads, and beyond that they only go from one side of zero to the other
within the reach (`exists_reached_iff`).
-/

namespace DifferentialDrive.Binary64

open Float.Model Float.Model.UnpackedFloat Scalar

/-! ## How far the steps reach -/

/-- The power of two up to which steps of the given width are made: from there on numbers are at
least twice the width apart. -/
def reach (step : Float) : Float :=
  match Parts.ofFloat step with
  | .finite _ m e => ofScaled false 1 (e + (2 * m - 1).log2 + 53)
  | _ => step

theorem rounds_ofScaled (negative : Bool) (m : ℕ) (e : ℤ) :
    Rounds (ofScaled negative m e) (withSign (signOf negative) (m * 2 ^ e)) := by
  have rounds := rounds_nearest negative (scaled m 1 e).1 (scaled_pos m e one_pos)
  rwa [scaled_div, Nat.cast_one, div_one] at rounds

theorem unpack_neg (x : Float) : (-x).toModel.unpack = x.toModel.unpack.neg := by
  change (Float.Model.pack x.toModel.unpack.neg).unpack = _
  cases h : x.toModel.unpack with
  | notANumber => exact unpack_pack_nan
  | infinity s => exact unpack_pack_infinity (-s)
  | zero s => exact unpack_packedZero
  | finite s m e p =>
    obtain ⟨canonical, fits⟩ := canonical_of_unpack h
    exact unpack_pack_finite (-s) p canonical fits

theorem Holds.neg {x : Float} {q : ℚ} (h : Holds x q) : Holds (-x) (-q) := by
  have opposite := unpack_neg x
  cases h with
  | finite finite same =>
    obtain ⟨s, hs⟩ | ⟨s, m, e, p, hs⟩ := (isFinite_iff x).1 finite <;> rw [hs] at opposite
    · refine .finite ((isFinite_iff _).2 (.inl ⟨-s, opposite⟩)) ?_
      rw [← same, value, value, opposite, hs]
      simp [worth, UnpackedFloat.neg]
    · refine .finite ((isFinite_iff _).2 (.inr ⟨-s, m, e, p, opposite⟩)) ?_
      rw [← same, value, value, opposite, hs, UnpackedFloat.neg, worth_finite, worth_finite,
        withSign_neg]
  | above infinite large =>
    rw [infinite] at opposite
    exact .below opposite (neg_le_neg large)
  | below infinite large =>
    rw [infinite] at opposite
    exact .above opposite (le_neg_of_le_neg large)

theorem Holds.le_iff {x y : Float} {q : ℚ} (h : Holds y q) (hx : x.isFinite = true) :
    x ≤ y ↔ value x ≤ q := by
  refine ⟨fun le => ?_, h.ge hx⟩
  cases h with
  | finite finite same => exact same ▸ (le_iff_value hx finite).1 le
  | above _ large => exact (abs_lt.1 (abs_value_lt hx)).2.le.trans large
  | below infinite _ => exact absurd (negative_infinity_lt hx infinite) (not_lt_of_le le)

theorem Holds.ge_iff {x y : Float} {q : ℚ} (h : Holds y q) (hx : x.isFinite = true) :
    y ≤ x ↔ q ≤ value x := by
  refine ⟨fun le => ?_, h.le hx⟩
  cases h with
  | finite finite same => exact same ▸ (le_iff_value finite hx).1 le
  | above infinite _ => exact absurd (lt_infinity hx infinite) (not_lt_of_le le)
  | below _ large => exact large.trans (abs_lt.1 (abs_value_lt hx)).1.le

/-- Steps of width `k` are made up to `2 ^ (c + 53)` and no further: `2 ^ c` is the least power of
two that is not below the width. -/
structure Scale (k : Float) (c : ℤ) : Prop where
  finite : k.isFinite = true
  least : -1074 ≤ c
  large : 2 ^ (c - 1) < value k
  small : value k ≤ 2 ^ c

namespace Scale

variable {k x : Float} {c : ℤ}

theorem positive (h : Scale k c) : 0 < value k := lt_trans (by positivity) h.large

theorem grid_edge (h : Scale k c) : Grid (2 ^ 52 * 2 ^ (c + 1)) :=
  ⟨2 ^ 52, c + 1, by push_cast; rfl, by norm_num, by linarith [h.least]⟩

/-- The scale of significand and exponent. -/
theorem of_parts {m : ℕ} {e : ℤ} (finite : k.isFinite = true) (some : 0 < m)
    (same : value k = m * 2 ^ e) : Scale k (e + (2 * m - 1).log2) := by
  have split : (2 : ℚ) ^ (e + ((2 * m - 1).log2 : ℤ)) = 2 ^ (2 * m - 1).log2 * 2 ^ e := by
    rw [zpow_add₀ two_ne_zero, zpow_natCast, mul_comm]
  have large : (2 : ℚ) ^ (2 * m - 1).log2 < 2 * m := by
    have := Nat.log2_self_le (by omega : 2 * m - 1 ≠ 0)
    exact_mod_cast (by omega : 2 ^ (2 * m - 1).log2 < 2 * m)
  have small : (m : ℚ) ≤ 2 ^ (2 * m - 1).log2 := by
    have := Nat.lt_log2_self (n := 2 * m - 1)
    rw [pow_succ] at this
    exact_mod_cast (by omega : m ≤ 2 ^ (2 * m - 1).log2)
  have upper : value k ≤ 2 ^ (e + ((2 * m - 1).log2 : ℤ)) := by
    rw [same, split]
    gcongr
  refine ⟨finite, ?_, ?_, upper⟩
  · obtain ⟨n, f, written, -, least⟩ := grid_value k
    have positive : 0 < value k := by
      rw [same]
      positivity
    have one : (1 : ℚ) ≤ n := by
      have : (0 : ℚ) < n := by
        by_contra! none
        exact absurd positive (written ▸ mul_nonpos_of_nonpos_of_nonneg none (by positivity)).not_gt
      exact_mod_cast this
    have lower : (2 : ℚ) ^ f ≤ value k := by
      rw [written]
      exact le_mul_of_one_le_left (by positivity) one
    exact least.trans ((zpow_le_zpow_iff_right₀ (by norm_num)).1 (lower.trans upper))
  · have power : (0 : ℚ) < 2 ^ e := by positivity
    rw [same, zpow_sub_one₀ two_ne_zero, split]
    nlinarith

theorem holds_reach (finite : k.isFinite = true) (positive : 0 < value k) :
    ∃ c, Scale k c ∧ Holds (reach k) (2 ^ 52 * 2 ^ (c + 1)) := by
  obtain ⟨negative, m, e, parts, same⟩ := Parts.ofFloat_of_isFinite finite
  have size : (0 : ℚ) ≤ m * 2 ^ e := by positivity
  obtain rfl : negative = false := by
    cases negative with
    | false => rfl
    | true =>
      have : value k = -(m * 2 ^ e) := same
      linarith
  change value k = m * 2 ^ e at same
  have some : 0 < m := by
    refine Nat.pos_of_ne_zero fun none => positive.ne' ?_
    rw [same, none, Nat.cast_zero, zero_mul]
  have scale := of_parts finite some same
  refine ⟨_, scale, ?_⟩
  have edge : ((1 : ℕ) : ℚ) * 2 ^ (e + ((2 * m - 1).log2 : ℤ) + 53) =
      2 ^ 52 * 2 ^ (e + ((2 * m - 1).log2 : ℤ) + 1) := by
    rw [← zpow_natCast 2 52, ← zpow_add₀ two_ne_zero, Nat.cast_one, one_mul]
    congr 1
    push_cast
    ring
  obtain ⟨q, near, holds⟩ := rounds_ofScaled false 1 (e + (2 * m - 1).log2 + 53)
  simp only [reach, parts]
  change Near q (((1 : ℕ) : ℚ) * 2 ^ (e + ((2 * m - 1).log2 : ℤ) + 53)) at near
  rw [edge] at near
  exact near.eq_of_grid scale.grid_edge ▸ holds

/-- The multiple after an even one is still in range. -/
theorem add_width_lt {n : ℤ} (far : Far c (n * 2 ^ (c + 1)))
    (fits : |(n : ℚ) * 2 ^ (c + 1)| < 2 ^ 1024) (even : Even n) :
    (n : ℚ) * 2 ^ (c + 1) + 2 ^ (c + 1) < 2 ^ 1024 := by
  have power : (0 : ℚ) < 2 ^ (c + 1) := by positivity
  have wide : c + 1 < 1024 := by
    have : (2 : ℚ) ^ (c + 1) < 2 ^ (1024 : ℤ) := by
      refine lt_of_le_of_lt ?_ (far.abs.trans_lt fits)
      linarith
    exact (zpow_lt_zpow_iff_right₀ (by norm_num)).1 this
  have top : (2 : ℚ) ^ 1024 = 2 ^ (1024 - (c + 1)).toNat * 2 ^ (c + 1) := zpow_eq_pow_mul wide.le
  rw [top] at fits ⊢
  have below : n < 2 ^ (1024 - (c + 1)).toNat := by
    have := (le_abs_self _).trans_lt fits
    exact_mod_cast lt_of_mul_lt_mul_right this power.le
  have next : n + 1 < 2 ^ (1024 - (c + 1)).toNat := by
    have : Even ((2 : ℤ) ^ (1024 - (c + 1)).toNat) := Int.even_pow.2 ⟨even_two, by omega⟩
    obtain ⟨a, rfl⟩ := even
    obtain ⟨b, hb⟩ := this
    rw [hb] at below ⊢
    omega
  have : (n : ℚ) + 1 < 2 ^ (1024 - (c + 1)).toNat := by exact_mod_cast next
  nlinarith

/-- From an even multiple of twice the width no step is made. -/
theorem stays_of_even (h : Scale k c) {n : ℤ} (hx : x.isFinite = true)
    (same : value x = n * 2 ^ (c + 1)) (far : Far c (value x)) (even : Even n) :
    (x + k).isFinite = true ∧ value (x + k) = value x := by
  have positive := h.positive
  have width : (2 : ℚ) ^ (c + 1) = 2 * 2 ^ c := by rw [zpow_add_one₀ two_ne_zero, mul_comm]
  have fits := abs_value_lt hx
  obtain ⟨q, near, holds⟩ := rounds_add hx h.finite
  have low := near.ge_of_ge (grid_value x) (by linarith)
  have high : q < 2 ^ 1024 := by
    have close := near.nearest (grid_value x)
    rw [sub_add_cancel_left, abs_neg, abs_of_pos positive] at close
    have next := add_width_lt (same ▸ far) (same ▸ fits) even
    rw [← same] at next
    have : q ≤ value x + 2 ^ (c + 1) := by linarith [(abs_le.1 close).2, h.small]
    exact this.trans_lt next
  have finite := holds.isFinite (abs_lt.2 ⟨(abs_lt.1 fits).1.trans_le low, high⟩)
  have grid := grid_value (x + k)
  rw [holds.value_eq finite] at grid ⊢
  rw [same] at near far ⊢
  refine ⟨finite, ?_⟩
  exact near.no_step (same ▸ grid_value x) grid positive h.small h.least far even

/-- Where numbers are at least twice the width apart, no step is made after one. -/
theorem not_lt_after_step (h : Scale k c) (hx : x.isFinite = true) (hy : (x + k).isFinite = true)
    (far : Far c (value x)) (far' : Far c (value (x + k))) : ¬ x + k < x + k + k := by
  obtain ⟨q, near, holds⟩ := rounds_add hx h.finite
  have grid := grid_value (x + k)
  rw [← holds.value_eq hy] at near
  obtain ⟨n, -, same | ⟨even, same⟩⟩ :=
    near.small_step (grid_value x) grid h.positive h.small h.least far
  · have nonzero : value x ≠ 0 := by
      intro none
      have := far.abs
      rw [none, abs_zero] at this
      exact absurd this (not_le_of_gt (by positivity))
    rw [add_congr (unpack_eq_of_value hy hx same (same ▸ nonzero)) k]
    exact Scalar.lt_irrefl _
  · obtain ⟨finite, stays⟩ := h.stays_of_even hy same far' even
    rw [lt_iff_value hy finite, stays]
    exact lt_irrefl _

/-- Below the edge every step is made. -/
theorem lt_step (h : Scale k c) (hx : x.isFinite = true)
    (low : -(2 ^ 52 * 2 ^ (c + 1)) ≤ value x) (high : value x < 2 ^ 52 * 2 ^ (c + 1)) :
    x < x + k := by
  have edge : (2 : ℚ) ^ 52 * 2 ^ (c + 1) = 2 ^ 53 * 2 ^ c := by
    rw [zpow_add_one₀ two_ne_zero]
    ring
  rw [edge] at low high
  have sum := rounds_add hx h.finite
  have up : x ≤ x + k := sum.ge hx (by linarith [h.positive])
  refine Ordered.lt_iff.2 ⟨up, fun down => ?_⟩
  have finite := isFinite_of_le_of_le hx hx up down
  have same := le_antisymm ((le_iff_value finite hx).1 down) ((le_iff_value hx finite).1 up)
  exact (sum.near finite).ne_of_step h.large h.small h.least low high same

/-- No step passes the edge. -/
theorem step_le_edge (h : Scale k c) {edge : Float} (hedge : edge.isFinite = true)
    (same : value edge = 2 ^ 52 * 2 ^ (c + 1)) (hx : x.isFinite = true) (le : x ≤ edge) :
    x + k ≤ edge := by
  have width : (2 : ℚ) ^ (c + 1) = 2 * 2 ^ c := by rw [zpow_add_one₀ two_ne_zero, mul_comm]
  have power : (0 : ℚ) < 2 ^ c := by positivity
  obtain here | before := ((le_iff_value hx hedge).1 le).eq_or_lt
  · have multiple : value x = (2 ^ 52 : ℤ) * 2 ^ (c + 1) := by rw [here, same]; push_cast; rfl
    have far : Far c (value x) := .inl (by rw [here, same])
    obtain ⟨finite, stays⟩ := h.stays_of_even hx multiple far (by decide)
    exact (le_iff_value finite hedge).2 (stays.trans here).le
  · refine (rounds_add hx h.finite).le hedge ?_
    -- the last number before the edge is at least `2 ^ c` below it
    have room : value x ≤ value edge - 2 ^ c := by
      obtain close | apart := le_or_gt ((2 : ℚ) ^ 52 * 2 ^ c) (value x)
      · obtain ⟨n, hn⟩ := (grid_value x).exists_multiple (close.trans (le_abs_self _))
        have last : n + 1 ≤ 2 ^ 53 := by
          have : (n : ℚ) < 2 ^ 53 := by
            rw [hn, same, width] at before
            nlinarith
          exact Int.add_one_le_iff.2 (by exact_mod_cast this)
        have last : (n : ℚ) + 1 ≤ 2 ^ 53 := by exact_mod_cast last
        rw [hn, same, width]
        nlinarith
      · rw [same, width]
        linarith
    linarith [h.small]

end Scale

/-! ## What is reached -/

section Reached

variable {t k s finish : Float}

/-- Steps from below the edge do not pass it. -/
theorem Scale.stepped_le_reach {c : ℤ} (h : Scale k c)
    (edge : Holds (reach k) (2 ^ 52 * 2 ^ (c + 1))) (above : Scalar.zero ≤ k)
    (ht : t.isFinite = true) (below : value t < 2 ^ 52 * 2 ^ (c + 1)) {n : ℕ}
    (number : (stepped t k n).isNaN = false) : stepped t k n ≤ reach k := by
  have start : t ≤ reach k := (edge.le_iff ht).2 below.le
  cases inside : (reach k).isFinite with
  | false => exact le_of_not_isFinite number ht start inside
  | true =>
    induction n with
    | zero => exact start
    | succ n ih =>
      rw [stepped_succ] at number ⊢
      have number' := (isNaN_of_add number).1
      have finite := isFinite_of_le_of_le ht inside (le_stepped above number') (ih number')
      exact h.step_le_edge inside (edge.value_eq inside) finite (ih number')

/-- What the steps reach is reached by the first of them, or it lies where steps are made, and so
does what the first leads to. -/
theorem exists_reached_iff_of_finite (ht : t.isFinite = true) (hk : k.isFinite = true)
    (positive : Scalar.zero < k) :
    (∃ n, finish ≤ stepped t k (n + 1)) ↔
      finish ≤ t + k ∨ (-reach k ≤ t + k ∧ finish ≤ reach k) := by
  have above := (Ordered.lt_iff.1 positive).1
  obtain ⟨c, scale, edge⟩ :=
    Scale.holds_reach hk ((lt_iff_value isFinite_zero hk).1 positive)
  have sum := rounds_add ht hk
  have up : t ≤ t + k := le_add above sum.isNaN
  constructor
  · rintro ⟨n, reached⟩
    refine or_iff_not_imp_left.2 fun late => ?_
    have number := isNaN_of_le reached
    have before := lt_of_not_le sum.isNaN number.1 late
    have first : (t + k).isFinite = true := isFinite_of_le_of_lt ht up before
    have moves : t + k < t + k + k := by
      by_contra stays
      obtain _ | n := n
      · exact late reached
      rw [← stepped_add] at reached number
      rw [stepped_of_stays positive stays number.2] at reached number
      exact late (Ordered.le_trans reached (le_of_not_lt sum.isNaN number.2 stays))
    have order := (le_iff_value ht first).1 up
    have near : ¬ (Far c (value t) ∧ Far c (value (t + k))) := fun far =>
      scale.not_lt_after_step ht first far.1 far.2 moves
    constructor
    · refine (edge.neg.ge_iff first).2 ?_
      by_contra! far
      exact near ⟨.inr (order.trans_lt far), .inr far⟩
    · refine Ordered.le_trans reached (scale.stepped_le_reach edge above ht ?_ number.2)
      by_contra! far
      exact near ⟨.inl far, .inl (far.trans order)⟩
  · rintro (soon | ⟨low, high⟩)
    · exact ⟨0, soon⟩
    by_contra! never
    have number := (isNaN_of_le high).1
    have finite (i : ℕ) : (stepped t k i).isFinite = true := by
      induction i with
      | zero => exact ht
      | succ i ih =>
        have next := rounds_add ih hk
        have before := lt_of_not_le next.isNaN number (stepped_succ t k i ▸ never i)
        rw [stepped_succ]
        exact isFinite_of_le_of_lt ih (le_add above next.isNaN) before
    have rising (i : ℕ) : stepped t k (i + 1) < stepped t k (i + 1 + 1) := by
      have here := finite (i + 1)
      rw [stepped_succ t k (i + 1)]
      refine scale.lt_step here ?_ ?_
      · refine (edge.neg.ge_iff here).1 (Ordered.le_trans low ?_)
        rw [← stepped_add] at here ⊢
        exact le_stepped above (isNaN_of_isFinite here)
      · by_contra! far
        exact never i (Ordered.le_trans high ((edge.ge_iff here).2 far))
    have few := lt_of_rising (u := fun i => stepped t k (i + 1)) (n := 2 ^ 64) fun i _ => rising i
    exact absurd few (lt_irrefl _)

/-- From an infinity or with an infinite width, the first step leads to whatever can be reached. -/
theorem le_add_of_infinite (positive : Scalar.zero < k) (hs : (t + s).isNaN = false)
    (hk : (t + k).isNaN = false) (infinite : t.isFinite = false ∨ k.isFinite = false) :
    t + s ≤ t + k := by
  obtain ⟨number, number'⟩ := isNaN_of_add hk
  obtain ⟨sign, beyond⟩ | finite := infinite_or_finite number
  · cases sign with
    | positive => exact le_infinity hs (infinity_add beyond hk)
    | negative => exact negative_infinity_le hk (infinity_add beyond hs)
  · obtain ⟨sign, beyond⟩ | finite' := infinite_or_finite number'
    · obtain rfl := positive_of_le beyond (Ordered.lt_iff.1 positive).1
      exact le_infinity hs (add_infinity finite beyond)
    · simp [finite, finite'] at infinite

/-- The same for any start and width, of what lies some distance from the start. -/
theorem exists_reached_iff (kept : ¬ k ≤ Scalar.zero) :
    (∃ n, t + s ≤ stepped t k (n + 1)) ↔
      t + s ≤ t + k ∨ (-reach k ≤ t + k ∧ t + s ≤ reach k) := by
  by_cases numbers : (t + s).isNaN = false ∧ (t + k).isNaN = false
  · obtain ⟨hs, hk⟩ := numbers
    have positive : Scalar.zero < k := lt_of_not_le rfl (isNaN_of_add hk).2 kept
    by_cases finite : t.isFinite = true ∧ k.isFinite = true
    · exact exists_reached_iff_of_finite finite.1 finite.2 positive
    · have soon := le_add_of_infinite positive hs hk (by
        simpa only [not_and_or, Bool.not_eq_true] using finite)
      exact ⟨fun _ => .inl soon, fun _ => ⟨0, soon⟩⟩
  · constructor
    · rintro ⟨n, reached⟩
      obtain ⟨number, number'⟩ := isNaN_of_le reached
      rw [← stepped_add] at number'
      exact absurd ⟨number, isNaN_of_stepped number'⟩ numbers
    · rintro (soon | ⟨low, high⟩)
      · exact absurd (isNaN_of_le soon) numbers
      · exact absurd ⟨(isNaN_of_le high).1, (isNaN_of_le low).2⟩ numbers

end Reached

end DifferentialDrive.Binary64
