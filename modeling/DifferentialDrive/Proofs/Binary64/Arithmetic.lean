import DifferentialDrive.Proofs.Binary64.Rounding

/-!
# Sums, differences, products and quotients

Each operation on finite numbers gives what binary64 has for the exact result.
-/

namespace DifferentialDrive.Binary64

open Float.Model Float.Model.UnpackedFloat

theorem decreaseExponent_worth (m : ℕ) {e f : ℤ} (h : f ≤ e) :
    ((decreaseExponent m e f).1 : ℚ) * 2 ^ f = m * 2 ^ e := by
  obtain ⟨k, rfl⟩ : ∃ k : ℕ, e = f + k := ⟨(e - f).toNat, by omega⟩
  have shift : (f + (k : ℤ) - f).toNat = k := by omega
  simp only [decreaseExponent, shift]
  rw [Nat.shiftLeft_eq, zpow_add₀ two_ne_zero, zpow_natCast]
  push_cast
  ring

/-- A quotient with enough bits, and where the exact one stands behind them. -/
theorem divCore_stands {m n : ℕ} (e f : ℤ) (p : m ≠ 0) (q : 0 < n) :
    ∃ k t a x, divCore .binary64 m e n f = (k, t, a) ∧ Stands (.ofMantissaAndAccuracy k a) x ∧
      (2 ^ 52 ≤ k ∨ t ≤ -1074) ∧ x * 2 ^ t = m * 2 ^ e / (n * 2 ^ f) := by
  obtain ⟨t, ht⟩ : ∃ t, t = min (e - f)
      (max (((m.log2 : ℤ) + 1 + e) - (n.log2 + 1 + f) - 53) (-1074)) := ⟨_, rfl⟩
  obtain ⟨k, hk⟩ : ∃ k : ℕ, e - f = t + k := ⟨(e - f - t).toNat, by omega⟩
  have shift : (e - f - t).toNat = k := by omega
  refine ⟨m <<< k / n, t, accuracyOfFraction (m <<< k % n) n, (m <<< k : ℕ) / n, ?_, ?_, ?_, ?_⟩
  · rw [← shift, ht]
    rfl
  · rw [div_eq_div_add_mod_div (m <<< k) q]
    exact stands_fraction _ _ _ (Nat.mod_lt _ q)
  · refine or_iff_not_imp_right.2 fun above => ?_
    rw [Nat.le_div_iff_mul_le q]
    calc 2 ^ 52 * n ≤ 2 ^ 52 * 2 ^ (n.log2 + 1) := Nat.mul_le_mul_left _ Nat.lt_log2_self.le
      _ = 2 ^ (52 + (n.log2 + 1)) := (pow_add ..).symm
      _ ≤ 2 ^ (m.log2 + k) := Nat.pow_le_pow_right two_pos (by omega)
      _ = 2 ^ m.log2 * 2 ^ k := pow_add ..
      _ ≤ m * 2 ^ k := Nat.mul_le_mul_right _ (Nat.log2_self_le p)
      _ = m <<< k := (Nat.shiftLeft_eq m k).symm
  · have power : (2 : ℚ) ^ e = 2 ^ f * 2 ^ t * 2 ^ k := by
      rw [← zpow_natCast, ← zpow_add₀ two_ne_zero, ← zpow_add₀ two_ne_zero]
      congr 1
      omega
    rw [Nat.shiftLeft_eq, power]
    push_cast
    field_simp

section Rounded

variable {x y : Float} (hx : x.isFinite = true) (hy : y.isFinite = true)
include hx hy

theorem rounds_add : Rounds (x + y) (value x + value y) := by
  change Rounds (.ofModel (Float.Model.pack
    (UnpackedFloat.add .binary64 x.toModel.unpack y.toModel.unpack))) _
  obtain ⟨a, ha⟩ | ⟨a, m, e, p, ha⟩ := (isFinite_iff x).1 hx <;>
    obtain ⟨b, hb⟩ | ⟨b, n, f, q, hb⟩ := (isFinite_iff y).1 hy <;>
    simp only [value, ha, hb, UnpackedFloat.add]
  · split <;> simpa [worth] using rounds_zero _
  · rw [worth_finite]
    simpa [worth] using (canonical_of_unpack hb).1.rounds b q
  · rw [worth_finite]
    simpa [worth] using (canonical_of_unpack ha).1.rounds a p
  · have hm := decreaseExponent_worth m (min_le_left e f)
    have hn := decreaseExponent_worth n (min_le_right e f)
    rw [worth_finite, worth_finite, ← hm, ← hn, ← apply_mul, ← apply_mul, ← add_mul,
      ← Int.cast_add]
    exact rounds_normalize _ _ _

theorem rounds_sub : Rounds (x - y) (value x - value y) := by
  change Rounds (.ofModel (Float.Model.pack
    (UnpackedFloat.sub .binary64 x.toModel.unpack y.toModel.unpack))) _
  obtain ⟨a, ha⟩ | ⟨a, m, e, p, ha⟩ := (isFinite_iff x).1 hx <;>
    obtain ⟨b, hb⟩ | ⟨b, n, f, q, hb⟩ := (isFinite_iff y).1 hy <;>
    simp only [value, ha, hb, UnpackedFloat.sub]
  · split <;> simpa [worth] using rounds_zero _
  · rw [worth_finite]
    simpa [worth, withSign_neg] using (canonical_of_unpack hb).1.rounds (-b) q
  · rw [worth_finite]
    simpa [worth] using (canonical_of_unpack ha).1.rounds a p
  · have hm := decreaseExponent_worth m (min_le_left e f)
    have hn := decreaseExponent_worth n (min_le_right e f)
    rw [worth_finite, worth_finite, ← hm, ← hn, ← apply_mul, ← apply_mul, ← sub_mul,
      ← Int.cast_sub]
    exact rounds_normalize _ _ _

theorem rounds_mul : Rounds (x * y) (value x * value y) := by
  change Rounds (.ofModel (Float.Model.pack
    (UnpackedFloat.mul .binary64 x.toModel.unpack y.toModel.unpack))) _
  obtain ⟨a, ha⟩ | ⟨a, m, e, p, ha⟩ := (isFinite_iff x).1 hx <;>
    obtain ⟨b, hb⟩ | ⟨b, n, f, q, hb⟩ := (isFinite_iff y).1 hy <;>
    simp only [value, ha, hb, UnpackedFloat.mul]
  case inl.inl | inl.inr | inr.inl => simpa [worth] using rounds_zero _
  · have hm := (canonical_of_unpack ha).1
    have hn := (canonical_of_unpack hb).1
    have room : 2 ^ 52 ≤ m * n ∨ e + f ≤ -1074 := by
      obtain full | rfl := hm.leading
      · exact .inl (full.trans (Nat.le_mul_of_pos_right m q))
      obtain full | rfl := hn.leading
      · exact .inl (full.trans (Nat.le_mul_of_pos_left n p))
      · exact .inr (by norm_num)
    have exact : ((m * n : ℕ) : ℚ) * 2 ^ (e + f) = m * 2 ^ e * (n * 2 ^ f) := by
      rw [zpow_add₀ two_ne_zero]
      push_cast
      ring
    have rounds := rounds_roundWithAccuracy (a * b) (stands_exact (m * n)) room
    rw [exact, withSign_mul] at rounds
    rwa [worth_finite, worth_finite]

theorem rounds_div (nonzero : value y ≠ 0) : Rounds (x / y) (value x / value y) := by
  change Rounds (.ofModel (Float.Model.pack
    (UnpackedFloat.div .binary64 x.toModel.unpack y.toModel.unpack))) _
  obtain ⟨b, hb⟩ | ⟨b, n, f, q, hb⟩ := (isFinite_iff y).1 hy
  · exact absurd (by rw [value, hb]; rfl) nonzero
  obtain ⟨a, ha⟩ | ⟨a, m, e, p, ha⟩ := (isFinite_iff x).1 hx <;>
    simp only [value, ha, hb, UnpackedFloat.div]
  · simpa [worth] using rounds_zero _
  · obtain ⟨k, t, acc, z, core, stands, room, exact⟩ := divCore_stands e f p.ne' q
    have rounds := rounds_roundWithAccuracy (a / b) stands room
    rw [exact, withSign_div] at rounds
    rw [core, worth_finite, worth_finite]
    exact rounds

end Rounded

theorem rounds_abs {x : Float} (hx : x.isFinite = true) : Rounds x.abs |value x| := by
  change Rounds (.ofModel (Float.Model.pack (UnpackedFloat.abs x.toModel.unpack))) _
  obtain ⟨a, ha⟩ | ⟨a, m, e, p, ha⟩ := (isFinite_iff x).1 hx <;>
    simp only [value, ha, UnpackedFloat.abs]
  · simpa [worth] using rounds_zero _
  · have size : |withSign a ((m : ℚ) * 2 ^ e)| = withSign .positive (m * 2 ^ e) := by
      have positive : 0 ≤ (m : ℚ) * 2 ^ e := by positivity
      cases a <;> simp [withSign, abs_of_nonneg positive]
    rw [worth_finite, size]
    exact (canonical_of_unpack ha).1.rounds .positive p

/-- What is taken from itself is closer to zero than any positive number. -/
theorem abs_sub_self_lt {x y : Float} (hx : x.isFinite = true) (hy : y.isFinite = true)
    (positive : 0 < value y) : Scalar.abs (x - x) < y := by
  have grid : Grid 0 := grid_intCast (n := 0) (by norm_num)
  have difference := rounds_sub hx hx
  rw [sub_self] at difference
  obtain ⟨finite, none⟩ := difference.exact grid (by simp)
  have size := rounds_abs finite
  rw [none, abs_zero] at size
  obtain ⟨finite', none'⟩ := size.exact grid (by simp)
  exact (lt_iff_value finite' hy).2 (none' ▸ positive)

end DifferentialDrive.Binary64
