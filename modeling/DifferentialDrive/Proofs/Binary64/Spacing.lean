import DifferentialDrive.Proofs.Binary64.Near

/-!
# How far numbers are apart

From `2 ^ 52` times a power of two on, the rationals that have a binary64 number are multiples of
that power. A small step from one of them is therefore rounded away, unless it is the half of the
distance to the next: that goes to the even neighbour, and from there no further step is made
(`Near.small_step`, `Near.no_step`). Where the distance is less, every step is made
(`Near.ne_of_step`).
-/

namespace DifferentialDrive.Binary64

variable {q r g x κ : ℚ} {n c e : ℤ}

/-- From `2 ^ 52` times a power of two on all are multiples of the power. -/
theorem Grid.exists_multiple (h : Grid g) (far : 2 ^ 52 * 2 ^ e ≤ |g|) :
    ∃ n : ℤ, g = n * 2 ^ e := by
  obtain ⟨n, f, rfl, size, least⟩ := h
  obtain coarse | fine := le_or_gt e f
  · refine ⟨n * 2 ^ (f - e).toNat, ?_⟩
    rw [zpow_eq_pow_mul coarse]
    push_cast
    ring
  · have whole : |(n : ℚ)| ≤ 2 ^ 53 := by exact_mod_cast size
    have half : (2 : ℚ) ^ f ≤ 2 ^ (e - 1) := zpow_le_zpow_right₀ (by norm_num) (by omega)
    have same : |(n : ℚ) * 2 ^ f| = 2 ^ 52 * 2 ^ e := by
      refine le_antisymm ?_ far
      rw [abs_mul, abs_of_pos (by positivity : (0 : ℚ) < 2 ^ f)]
      calc |(n : ℚ)| * 2 ^ f ≤ 2 ^ 53 * 2 ^ (e - 1) := by gcongr
        _ = 2 ^ 52 * 2 ^ e := by rw [zpow_sub_one₀ two_ne_zero]; ring
    obtain same | same := eq_or_eq_neg_of_abs_eq same
    · exact ⟨2 ^ 52, by push_cast; exact same⟩
    · exact ⟨-2 ^ 52, by rw [same]; push_cast; ring⟩

/-- Whether a step from `x` stays where numbers are at least `2 ^ (c + 1)` apart. -/
def Far (c : ℤ) (x : ℚ) : Prop := 2 ^ 52 * 2 ^ (c + 1) ≤ x ∨ x < -(2 ^ 52 * 2 ^ (c + 1))

theorem Far.abs (h : Far c x) : 2 ^ 52 * 2 ^ (c + 1) ≤ |x| := by
  obtain above | below := h
  · exact above.trans (le_abs_self x)
  · exact le_abs.2 (.inr (by linarith))

/-- The half above a multiple of `2 ^ (c + 1)` goes up to an even one only. -/
theorem Near.even_of_half (h : Near q ((n : ℚ) * 2 ^ (c + 1) + 2 ^ c)) (least : -1074 ≤ c)
    (grid : Grid (n * 2 ^ (c + 1))) (far : Far c (n * 2 ^ (c + 1)))
    (up : q = (n + 1) * 2 ^ (c + 1)) : Even (n + 1) := by
  have width : (2 : ℚ) ^ (c + 1) = 2 * 2 ^ c := by rw [zpow_add_one₀ two_ne_zero, mul_comm]
  have half : |q - (n * 2 ^ (c + 1) + 2 ^ c)| = 2 ^ c := by
    rw [up, width]
    ring_nf
    exact abs_of_pos (by positivity)
  obtain ⟨m, e, same, close, -, full, even⟩ := h
  rw [half] at close even
  have wide : c + 1 ≤ e := by
    have : (2 : ℚ) ^ (c + 1) ≤ 2 ^ e := by rw [width]; linarith
    exact (zpow_le_zpow_iff_right₀ (by norm_num)).1 this
  obtain rfl | wider := wide.eq_or_lt
  · have : (m : ℚ) = n + 1 := mul_right_cancel₀ (by positivity) (same.symm.trans up)
    obtain rfl : m = n + 1 := by exact_mod_cast this
    exact even (by rw [width]; ring)
  · -- the multiple would be one of the wider power, and so would the next
    exfalso
    have full := full.resolve_right (by omega)
    have power : (0 : ℚ) < 2 ^ c := by positivity
    have split : (2 : ℚ) ^ e = 2 ^ (e - (c + 1)).toNat * 2 ^ (c + 1) := zpow_eq_pow_mul wide
    have reached : (2 : ℚ) ^ 52 * 2 ^ e ≤ |(n : ℚ) * 2 ^ (c + 1)| := by
      obtain above | below := far
      · have whole : (2 : ℚ) ^ 52 * 2 ^ (e - (c + 1)).toNat < n + 1 := by
          rw [abs_of_pos (by linarith), split] at full
          nlinarith
        have : (2 : ℤ) ^ 52 * 2 ^ (e - (c + 1)).toNat ≤ n :=
          Int.lt_add_one_iff.1 (by exact_mod_cast whole)
        rw [abs_of_pos (by linarith), split, ← mul_assoc]
        gcongr
        exact_mod_cast this
      · have negative : (n : ℚ) * 2 ^ (c + 1) + 2 ^ c < 0 := by linarith
        rw [abs_of_neg negative] at full
        rw [abs_of_neg (by linarith : (n : ℚ) * 2 ^ (c + 1) < 0)]
        linarith
    obtain ⟨k, hk⟩ := grid.exists_multiple reached
    have one : (m - k) * (2 : ℤ) ^ (e - (c + 1)).toNat = 1 := by
      have : ((m : ℚ) - k) * 2 ^ (e - (c + 1)).toNat * 2 ^ (c + 1) = 1 * 2 ^ (c + 1) := by
        rw [mul_assoc, ← split]
        linarith
      exact_mod_cast mul_right_cancel₀ (by positivity) this
    have even : Even (1 : ℤ) := by
      rw [← one]
      exact (Int.even_pow.2 ⟨even_two, by omega⟩).mul_left _
    exact absurd even (by decide)

/-- A step of at most `2 ^ c` is rounded away where numbers are `2 ^ (c + 1)` apart, or it goes from
an odd multiple of that distance to the even one above. -/
theorem Near.small_step (h : Near q (x + κ)) (grid : Grid x) (finite : Grid q) (positive : 0 < κ)
    (small : κ ≤ 2 ^ c) (least : -1074 ≤ c) (far : Far c x) :
    ∃ n : ℤ, x = n * 2 ^ (c + 1) ∧ (q = x ∨ Even (n + 1) ∧ q = (n + 1 : ℤ) * 2 ^ (c + 1)) := by
  have width : (2 : ℚ) ^ (c + 1) = 2 * 2 ^ c := by rw [zpow_add_one₀ two_ne_zero, mul_comm]
  have power : (0 : ℚ) < 2 ^ (c + 1) := by positivity
  obtain ⟨n, rfl⟩ := grid.exists_multiple far.abs
  have above : (n : ℚ) * 2 ^ (c + 1) ≤ q := h.ge_of_ge grid (by linarith)
  have far' : 2 ^ 52 * 2 ^ (c + 1) ≤ |q| := by
    obtain up | down := far
    · exact (up.trans above).trans (le_abs_self q)
    · have edge : Grid (-(2 ^ 52 * 2 ^ (c + 1))) :=
        ⟨-2 ^ 52, c + 1, by push_cast; ring, by norm_num, by omega⟩
      have whole : n + 1 ≤ -2 ^ 52 := by
        have : (n : ℚ) < -2 ^ 52 := by nlinarith
        exact Int.add_one_le_iff.2 (by exact_mod_cast this)
      have whole : (n : ℚ) + 1 ≤ -2 ^ 52 := by exact_mod_cast whole
      have below := h.le_of_le edge (by nlinarith)
      exact le_abs.2 (.inr (by linarith))
  obtain ⟨m, rfl⟩ := finite.exists_multiple far'
  have close := h.nearest grid
  rw [sub_add_cancel_left, abs_neg, abs_of_pos positive] at close
  have low : n ≤ m := by exact_mod_cast le_of_mul_le_mul_right above power
  have high : m ≤ n + 1 := by
    have : (m : ℚ) * 2 ^ (c + 1) ≤ (n + 1) * 2 ^ (c + 1) := by
      linarith [(abs_le.1 close).2]
    exact_mod_cast le_of_mul_le_mul_right this power
  obtain rfl | rfl : m = n ∨ m = n + 1 := by omega
  · exact ⟨m, rfl, .inl rfl⟩
  · -- the step is the half of the distance
    obtain rfl : κ = 2 ^ c := by
      refine le_antisymm small ?_
      have := (abs_le.1 close).2
      push_cast at this
      linarith
    exact ⟨n, rfl, .inr ⟨h.even_of_half least grid far (by push_cast; rfl), rfl⟩⟩

/-- From an even multiple no step is made. -/
theorem Near.no_step (h : Near q ((n : ℚ) * 2 ^ (c + 1) + κ)) (grid : Grid (n * 2 ^ (c + 1)))
    (finite : Grid q) (positive : 0 < κ) (small : κ ≤ 2 ^ c) (least : -1074 ≤ c)
    (far : Far c (n * 2 ^ (c + 1))) (even : Even n) : q = n * 2 ^ (c + 1) := by
  obtain ⟨m, same, stays | ⟨odd, -⟩⟩ := h.small_step grid finite positive small least far
  · exact stays
  · have : (n : ℚ) = m := mul_right_cancel₀ (by positivity) same
    obtain rfl : n = m := by exact_mod_cast this
    exact absurd even (Int.not_even_iff_odd.2 (by simpa using odd.sub_odd odd_one))

/-- Below `2 ^ 53` times a power of two a step that is more than the half of the power comes
nearer to the next multiple. -/
theorem Near.ne_of_step (h : Near q (x + κ)) (large : 2 ^ (c - 1) < κ) (small : κ ≤ 2 ^ c)
    (least : -1074 ≤ c) (low : -(2 ^ 53 * 2 ^ c) ≤ x) (high : x < 2 ^ 53 * 2 ^ c) : q ≠ x := by
  rintro rfl
  have half : (2 : ℚ) ^ c = 2 * 2 ^ (c - 1) := by
    rw [zpow_sub_one₀ two_ne_zero]
    ring
  have power : (0 : ℚ) < 2 ^ c := by positivity
  have positive : (0 : ℚ) < 2 ^ (c - 1) := by positivity
  have floor := Int.floor_le (q / 2 ^ c)
  have next := Int.lt_floor_add_one (q / 2 ^ c)
  rw [le_div_iff₀ power] at floor
  rw [div_lt_iff₀ power] at next
  have size : |⌊q / 2 ^ c⌋ + 1| ≤ 2 ^ 53 := by
    have lower : -2 ^ 53 ≤ ⌊q / 2 ^ c⌋ := by
      rw [Int.le_floor, le_div_iff₀ power]
      push_cast
      linarith
    have upper : ⌊q / 2 ^ c⌋ < 2 ^ 53 := by
      rw [Int.floor_lt, div_lt_iff₀ power]
      push_cast
      exact high
    rw [abs_le]
    omega
  have nearest := h.nearest ⟨_, c, rfl, size, least⟩
  rw [sub_add_cancel_left, abs_neg, abs_of_pos (by linarith)] at nearest
  push_cast at nearest
  obtain beyond | before := le_abs.1 nearest <;> linarith

end DifferentialDrive.Binary64
