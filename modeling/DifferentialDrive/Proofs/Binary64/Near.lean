import Mathlib

/-!
# The nearest of the rationals that have a binary64 number

The rationals of at most 53 bits over a power of two that is not below the least. Rounding goes to
a nearest of them, so it passes none of them, keeps each of them and loses little.
-/

namespace DifferentialDrive.Binary64

/-- The rationals that have a binary64 number, were there no bound on their size. -/
def Grid (g : ℚ) : Prop := ∃ n e : ℤ, g = n * 2 ^ e ∧ |n| ≤ 2 ^ 53 ∧ -1074 ≤ e

/-- `q` is a nearest of these to `r`: a multiple of a power of two, not further from `r` than half
of that power, where either the power is the least or `r` has at least `2 ^ 52` of it. On the half
it is an even multiple. -/
def Near (q r : ℚ) : Prop :=
  ∃ n e : ℤ, q = n * 2 ^ e ∧ |q - r| ≤ 2 ^ e / 2 ∧ -1074 ≤ e ∧
    (2 ^ 52 * 2 ^ e ≤ |r| ∨ e = -1074) ∧ (|q - r| = 2 ^ e / 2 → Even n)

variable {q r g : ℚ}

theorem zpow_eq_pow_mul {e f : ℤ} (h : e ≤ f) : (2 : ℚ) ^ f = 2 ^ (f - e).toNat * 2 ^ e := by
  rw [← zpow_natCast, ← zpow_add₀ two_ne_zero]
  congr 1
  omega

theorem Grid.neg (h : Grid g) : Grid (-g) := by
  obtain ⟨n, e, rfl, size, least⟩ := h
  exact ⟨-n, e, by push_cast; ring, by rwa [abs_neg], least⟩

theorem grid_intCast {n : ℤ} (h : |n| ≤ 2 ^ 53) : Grid n := ⟨n, 0, by simp, h, by norm_num⟩

theorem Near.neg (h : Near q r) : Near (-q) (-r) := by
  obtain ⟨n, e, rfl, close, least, full, even⟩ := h
  refine ⟨-n, e, by push_cast; ring, ?_, least, by rwa [abs_neg], fun half => ?_⟩
  · rwa [neg_sub_neg, abs_sub_comm]
  · rw [neg_sub_neg, abs_sub_comm] at half
    exact (even half).neg

/-- Of the multiples of a power of two none is nearer than one within half of the power. -/
theorem abs_sub_le_of_close {n e : ℤ} (k : ℤ) (close : |(n : ℚ) * 2 ^ e - r| ≤ 2 ^ e / 2) :
    |(n : ℚ) * 2 ^ e - r| ≤ |(k : ℚ) * 2 ^ e - r| := by
  obtain rfl | other := eq_or_ne n k
  · exact le_rfl
  have power : (0 : ℚ) < 2 ^ e := by positivity
  have apart : (1 : ℚ) ≤ |(n : ℚ) - k| := by
    have : 1 ≤ |n - k| := Int.one_le_abs (sub_ne_zero.2 other)
    exact_mod_cast this
  have far : (2 : ℚ) ^ e ≤ |(n : ℚ) * 2 ^ e - k * 2 ^ e| := by
    rw [← sub_mul, abs_mul, abs_of_pos power]
    exact le_mul_of_one_le_left power.le apart
  have triangle := abs_sub_le ((n : ℚ) * 2 ^ e) r (k * 2 ^ e)
  rw [abs_sub_comm r] at triangle
  linarith

theorem Near.nearest (h : Near q r) (grid : Grid g) : |q - r| ≤ |g - r| := by
  wlog positive : 0 ≤ r generalizing q r g
  · have opposite := this h.neg grid.neg (by linarith)
    rwa [neg_sub_neg, neg_sub_neg, abs_sub_comm r, abs_sub_comm r] at opposite
  obtain ⟨n, e, rfl, close, least, full, -⟩ := h
  obtain ⟨k, f, rfl, size, low⟩ := grid
  obtain coarse | fine := le_or_gt e f
  · have same : (k : ℚ) * 2 ^ f = ((k * 2 ^ (f - e).toNat : ℤ) : ℚ) * 2 ^ e := by
      rw [zpow_eq_pow_mul coarse]
      push_cast
      ring
    rw [same]
    exact abs_sub_le_of_close _ close
  · -- a finer number is not beyond the least multiple in the binade of `r`
    have full : (2 : ℚ) ^ 52 * 2 ^ e ≤ r := by
      rw [← abs_of_nonneg positive]
      exact full.resolve_right (by omega)
    have short : (k : ℚ) * 2 ^ f ≤ 2 ^ 52 * 2 ^ e := by
      have whole : (k : ℚ) ≤ 2 ^ 53 := by exact_mod_cast (le_abs_self k).trans size
      have power : (2 : ℚ) ^ f ≤ 2 ^ (e - 1) := zpow_le_zpow_right₀ (by norm_num) (by omega)
      calc (k : ℚ) * 2 ^ f ≤ 2 ^ 53 * 2 ^ (e - 1) := by gcongr
        _ = 2 ^ 52 * 2 ^ e := by rw [zpow_sub_one₀ two_ne_zero]; ring
    calc |(n : ℚ) * 2 ^ e - r|
      _ ≤ |((2 ^ 52 : ℤ) : ℚ) * 2 ^ e - r| := abs_sub_le_of_close _ close
      _ = r - 2 ^ 52 * 2 ^ e := by
        rw [abs_sub_comm, Int.cast_pow, Int.cast_ofNat, abs_of_nonneg (by linarith)]
      _ ≤ r - k * 2 ^ f := by linarith
      _ ≤ |k * 2 ^ f - r| := by rw [abs_sub_comm]; exact le_abs_self _

theorem Near.le_of_le (h : Near q r) (grid : Grid g) (below : r ≤ g) : q ≤ g := by
  by_contra! beyond
  have nearest := h.nearest grid
  rw [abs_of_nonneg (by linarith), abs_of_nonneg (by linarith)] at nearest
  linarith

theorem Near.ge_of_ge (h : Near q r) (grid : Grid g) (above : g ≤ r) : g ≤ q := by
  have := h.neg.le_of_le grid.neg (neg_le_neg above)
  linarith

theorem Near.abs_le_of_abs_le (h : Near q r) (grid : Grid g) (bound : |r| ≤ g) : |q| ≤ g := by
  obtain ⟨lower, upper⟩ := abs_le.1 bound
  exact abs_le.2 ⟨h.ge_of_ge grid.neg lower, h.le_of_le grid upper⟩

theorem Near.eq_of_grid (h : Near q r) (grid : Grid r) : q = r :=
  le_antisymm (h.le_of_le grid le_rfl) (h.ge_of_ge grid le_rfl)

/-- What rounding loses: at most the `2 ^ 53`rd part, or half of the least positive number. -/
theorem Near.error (h : Near q r) : |q - r| ≤ max (|r| / 2 ^ 53) (2 ^ (-1075 : ℤ)) := by
  obtain ⟨n, e, rfl, close, least, full | rfl, -⟩ := h
  · refine close.trans (le_max_of_le_left ?_)
    linarith
  · refine close.trans (le_max_of_le_right ?_)
    rw [show (-1075 : ℤ) = -1074 - 1 by norm_num, zpow_sub_one₀ two_ne_zero, div_eq_mul_inv]

/-- A quotient of 53 bits rounded to a natural has a significand and is near. -/
theorem near_of_rounded {m : ℕ} {e : ℤ} {y : ℚ} (close : |(m : ℚ) - y| ≤ 1 / 2)
    (even : |(m : ℚ) - y| = 1 / 2 → Even m) (short : y < 2 ^ 53) (least : -1074 ≤ e)
    (full : 2 ^ 52 ≤ y ∨ e = -1074) :
    m ≤ 2 ^ 53 ∧ (2 ^ 52 ≤ m ∨ e = -1074) ∧ Near (m * 2 ^ e) (y * 2 ^ e) := by
  obtain ⟨lower, upper⟩ := abs_le.1 close
  have power : (0 : ℚ) < 2 ^ e := by positivity
  refine ⟨?_, full.imp_left fun full => ?_, m, e, by push_cast; rfl, ?_, least,
    full.imp_left fun full => ?_, fun half => ?_⟩
  · have : (m : ℚ) < (2 ^ 53 + 1 : ℕ) := by push_cast; linarith
    exact Nat.lt_succ_iff.1 (by exact_mod_cast this)
  · have : ((2 ^ 52 : ℕ) : ℚ) < (m + 1 : ℕ) := by push_cast; linarith
    exact Nat.lt_succ_iff.1 (by exact_mod_cast this)
  · rw [← sub_mul, abs_mul, abs_of_pos power]
    nlinarith
  · have above : 0 ≤ y := by linarith
    rw [abs_of_nonneg (by positivity)]
    gcongr
  · rw [← sub_mul, abs_mul, abs_of_pos power, div_eq_inv_mul, mul_left_inj' power.ne'] at half
    exact_mod_cast even (half.trans (one_div 2).symm)

theorem div_eq_div_add_mod_div (n : ℕ) {d : ℕ} (h : 0 < d) :
    (n : ℚ) / d = (n / d : ℕ) + (n % d : ℕ) / d := by
  have exact := congrArg (Nat.cast : ℕ → ℚ) (Nat.div_add_mod n d)
  push_cast at exact
  field_simp
  linarith

end DifferentialDrive.Binary64
