import DifferentialDrive.Proofs.Binary64.Value

/-!
# Rounding

An operation hands the rounding a significand of enough bits and where the exact result stands
behind them. Each shift to the right keeps that, so what is left is rounded to a nearest number.
-/

namespace DifferentialDrive.Binary64

open Float.Model Float.Model.UnpackedFloat

/-! ## Signs -/

/-- A rational with a sign put before it. -/
def withSign : Sign → ℚ → ℚ
  | .negative, r => -r
  | .positive, r => r

theorem withSign_neg (s : Sign) (r : ℚ) : withSign (-s) r = -withSign s r := by
  cases s with
  | negative => exact (neg_neg r).symm
  | positive => rfl

theorem withSign_mul (s t : Sign) (q r : ℚ) :
    withSign (s * t) (q * r) = withSign s q * withSign t r := by
  cases s <;> cases t
  · exact (neg_mul_neg q r).symm
  · exact (neg_mul q r).symm
  · exact (mul_neg q r).symm
  · rfl

theorem withSign_div (s t : Sign) (q r : ℚ) :
    withSign (s / t) (q / r) = withSign s q / withSign t r := by
  cases s <;> cases t
  · exact (neg_div_neg_eq q r).symm
  · exact (neg_div r q).symm
  · exact (div_neg q).symm
  · rfl

theorem apply_mul (s : Sign) (m : ℕ) (p : ℚ) : (s.apply m : ℤ) * p = withSign s (m * p) := by
  cases s <;> simp [Sign.apply, withSign]

theorem worth_finite (s : Sign) {m : ℕ} (e : ℤ) (p : 0 < m) :
    worth (.finite s m e p) = withSign s (m * 2 ^ e) := apply_mul s m _

theorem Near.withSign {q r : ℚ} (s : Sign) (h : Near q r) :
    Near (withSign s q) (withSign s r) := by
  cases s with
  | negative => exact h.neg
  | positive => exact h

/-! ## The bits behind a significand -/

/-- `x` is where a significand and the two bits behind it say: on it, before the half after it,
on the half or behind it. -/
def Stands : ExtendedMantissa → ℚ → Prop
  | ⟨m, false, false⟩, x => x = m
  | ⟨m, false, true⟩, x => m < x ∧ x < m + 1 / 2
  | ⟨m, true, false⟩, x => x = m + 1 / 2
  | ⟨m, true, true⟩, x => m + 1 / 2 < x ∧ x < m + 1

theorem stands_exact (m : ℕ) : Stands (.ofMantissaAndAccuracy m .exact) m := rfl

theorem stands_fraction (m num den : ℕ) (h : num < den) :
    Stands (.ofMantissaAndAccuracy m (accuracyOfFraction num den)) (m + num / den) := by
  have positive : (0 : ℚ) < den := by exact_mod_cast (by omega : 0 < den)
  unfold accuracyOfFraction
  split
  · next none =>
    rw [none]
    simp [ExtendedMantissa.ofMantissaAndAccuracy, Stands]
  · next some =>
    have some : (0 : ℚ) < num := by exact_mod_cast Nat.pos_of_ne_zero some
    have above : (0 : ℚ) < num / den := by positivity
    have below : (num : ℚ) / den < 1 := (div_lt_one positive).2 (by exact_mod_cast h)
    obtain less | same | more := lt_trichotomy (2 * num) den
    · rw [Nat.compare_eq_lt.2 less]
      have : (num : ℚ) / den < 1 / 2 := by
        rw [div_lt_div_iff₀ positive two_pos]
        exact_mod_cast (by omega : num * 2 < 1 * den)
      exact ⟨by linarith, by linarith⟩
    · rw [Nat.compare_eq_eq.2 same]
      have : (num : ℚ) / den = 1 / 2 := by
        rw [div_eq_div_iff positive.ne' two_ne_zero]
        exact_mod_cast (by omega : num * 2 = 1 * den)
      simp [ExtendedMantissa.ofMantissaAndAccuracy, Stands, this]
    · rw [Nat.compare_eq_gt.2 more]
      have : 1 / 2 < (num : ℚ) / den := by
        rw [div_lt_div_iff₀ two_pos positive]
        exact_mod_cast (by omega : 1 * den < num * 2)
      exact ⟨by linarith, by linarith⟩

variable {em : ExtendedMantissa} {x : ℚ}

theorem Stands.bounds (h : Stands em x) : em.mantissa ≤ x ∧ x < em.mantissa + 1 := by
  obtain ⟨m, _ | _, _ | _⟩ := em <;> simp only [Stands] at h ⊢ <;> constructor <;> linarith

theorem Stands.rounded (h : Stands em x) : |(em.roundedMantissa : ℚ) - x| ≤ 1 / 2 := by
  obtain ⟨m, _ | _, _ | _⟩ := em <;>
    simp only [ExtendedMantissa.roundedMantissa, ExtendedMantissa.accuracy,
      Accuracy.roundToNearestEven] <;>
    simp only [Stands] at h
  · simp [h]
  · rw [abs_le]
    constructor <;> linarith
  · obtain even | odd := Nat.mod_two_eq_zero_or_one m
    · simp [even, h]
    · rw [odd, h]
      push_cast
      norm_num
  · push_cast
    rw [abs_le]
    constructor <;> linarith

/-- What stands on the half goes to the even neighbour. -/
theorem Stands.rounded_even (h : Stands em x) (half : |(em.roundedMantissa : ℚ) - x| = 1 / 2) :
    Even em.roundedMantissa := by
  obtain ⟨m, _ | _, _ | _⟩ := em <;>
    simp only [ExtendedMantissa.roundedMantissa, ExtendedMantissa.accuracy,
      Accuracy.roundToNearestEven] at half ⊢ <;>
    simp only [Stands] at h
  · rw [h, sub_self, abs_zero] at half
    norm_num at half
  · rw [abs_sub_comm, abs_of_pos (by linarith)] at half
    linarith
  · obtain even | odd := Nat.mod_two_eq_zero_or_one m
    · rw [even]
      exact Nat.even_iff.2 even
    · rw [odd]
      exact Nat.even_iff.2 (by omega)
  · push_cast at half
    rw [abs_of_pos (by linarith)] at half
    linarith

/-- The last bit of the significand becomes the first bit behind it. -/
theorem Stands.shiftRightOne (h : Stands em x) : Stands em.shiftRightOne (x / 2) := by
  obtain ⟨m, roundBit, stickyBit⟩ := em
  obtain ⟨k, rfl | rfl⟩ : ∃ k, m = 2 * k ∨ m = 2 * k + 1 := ⟨m / 2, by omega⟩
  · have shifted : ExtendedMantissa.shiftRightOne ⟨2 * k, roundBit, stickyBit⟩ =
        ⟨k, false, roundBit || stickyBit⟩ := by
      simp [ExtendedMantissa.shiftRightOne]
    rw [shifted]
    cases roundBit <;> cases stickyBit <;>
      simp only [Stands, Bool.or_true, Bool.or_false] at h ⊢ <;>
      push_cast at h <;> first | linarith | constructor <;> linarith
  · have shifted : ExtendedMantissa.shiftRightOne ⟨2 * k + 1, roundBit, stickyBit⟩ =
        ⟨k, true, roundBit || stickyBit⟩ := by
      simp [ExtendedMantissa.shiftRightOne]
      omega
    rw [shifted]
    cases roundBit <;> cases stickyBit <;>
      simp only [Stands, Bool.or_true, Bool.or_false] at h ⊢ <;>
      push_cast at h <;> first | linarith | constructor <;> linarith

theorem Stands.shiftRight (h : Stands em x) (n : ℕ) : Stands (em >>> n) (x / 2 ^ n) := by
  change Stands (n.repeat ExtendedMantissa.shiftRightOne em) _
  induction n with
  | zero => simpa [Nat.repeat] using h
  | succ n ih =>
    rw [pow_succ, ← div_div]
    exact ih.shiftRightOne

/-! ## The two shifts of a rounding -/

theorem targetExponent_binary64 (m : ℕ) (e : ℤ) :
    Format.binary64.targetExponent (totalExponent m e) = max (m.log2 + 1 + e - 53) (-1074) := rfl

/-- The first shift leaves 53 bits of the significand, or those above the least exponent. -/
theorem shiftToTargetExponent_stands {m : ℕ} {e : ℤ} {a : Accuracy}
    (h : Stands (.ofMantissaAndAccuracy m a) x) (room : 2 ^ 52 ≤ m ∨ e ≤ -1074) :
    ∃ em t y, shiftToTargetExponent .binary64 m e a = (em, t) ∧ Stands em y ∧
      y * 2 ^ t = x * 2 ^ e ∧ y < 2 ^ 53 ∧ -1074 ≤ t ∧ (2 ^ 52 ≤ y ∨ t = -1074) := by
  have mantissa : (ExtendedMantissa.ofMantissaAndAccuracy m a).mantissa = m := by
    rcases a with _ | _ | _ | _ <;> rfl
  obtain ⟨low, high⟩ := h.bounds
  rw [mantissa] at low high
  obtain ⟨t, ht⟩ : ∃ t, t = max ((m.log2 : ℤ) + 1 + e - 53) (-1074) := ⟨_, rfl⟩
  have enough : 2 ^ 52 ≤ m → 52 ≤ m.log2 := fun full => (Nat.le_log2 (by omega)).2 full
  obtain ⟨k, hk⟩ : ∃ k : ℕ, t = e + k := ⟨(t - e).toNat, by omega⟩
  have scale : (2 : ℚ) ^ t = 2 ^ k * 2 ^ e := by
    rw [hk, zpow_add₀ two_ne_zero, zpow_natCast, mul_comm]
  have shift : (t - e).toNat = k := by omega
  refine ⟨ExtendedMantissa.ofMantissaAndAccuracy m a >>> k, t, x / 2 ^ k, ?_, h.shiftRight k, ?_,
    ?_, by omega, ?_⟩
  · simp only [shiftToTargetExponent, shiftToExponent, targetExponent_binary64, ← ht, shift]
    rw [hk]
  · rw [scale]
    field_simp
  · have top : m + 1 ≤ 2 ^ (53 + k) := by
      calc m + 1 ≤ 2 ^ (m.log2 + 1) := Nat.lt_log2_self
        _ ≤ 2 ^ (53 + k) := Nat.pow_le_pow_right two_pos (by omega)
    rw [div_lt_iff₀ (by positivity), ← pow_add]
    exact high.trans_le (by exact_mod_cast top)
  · refine or_iff_not_imp_right.2 fun above => ?_
    have some : m ≠ 0 := by
      rintro rfl
      simp at *
      omega
    have bottom : 2 ^ (52 + k) ≤ m := by
      calc 2 ^ (52 + k) = 2 ^ m.log2 := by congr 1; omega
        _ ≤ m := Nat.log2_self_le some
    rw [le_div_iff₀ (by positivity), ← pow_add]
    exact le_trans (by exact_mod_cast bottom) low

/-- The second shift only drops the last bit of a significand that was rounded up to 54 bits. -/
theorem shiftToTargetExponent_rounded {m : ℕ} {e : ℤ} (top : m ≤ 2 ^ 53) (least : -1074 ≤ e)
    (leading : 2 ^ 52 ≤ m ∨ e = -1074) :
    ∃ em f, shiftToTargetExponent .binary64 m e .exact = (em, f) ∧ Canonical em.mantissa f ∧
      (em.mantissa : ℚ) * 2 ^ f = m * 2 ^ e := by
  obtain rfl | lt := top.eq_or_lt
  · have log : (2 ^ 53).log2 = 53 := by decide
    have shift : (max (((53 : ℕ) : ℤ) + 1 + e - 53) (-1074) - e).toNat = 1 := by omega
    have half :
        (ExtendedMantissa.ofMantissaAndAccuracy (2 ^ 53) .exact >>> 1).mantissa = 2 ^ 52 := by
      decide
    refine ⟨ExtendedMantissa.ofMantissaAndAccuracy (2 ^ 53) .exact >>> 1, e + 1, ?_,
      ⟨by decide, by omega, .inl (by decide)⟩, ?_⟩
    · simp only [shiftToTargetExponent, shiftToExponent, targetExponent_binary64, log, shift]
      rfl
    · rw [half, zpow_add_one₀ two_ne_zero]
      push_cast
      ring
  · have log : m.log2 ≤ 52 := by
      obtain rfl | some := Nat.eq_zero_or_pos m
      · simp
      · exact Nat.lt_succ_iff.1 ((Nat.log2_lt some.ne').2 lt)
    have shift : (max ((m.log2 : ℤ) + 1 + e - 53) (-1074) - e).toNat = 0 := by omega
    refine ⟨⟨m, false, false⟩, e, ?_, ⟨lt, least, leading⟩, rfl⟩
    simp only [shiftToTargetExponent, shiftToExponent, targetExponent_binary64, shift,
      Nat.cast_zero, add_zero]
    rfl

/-! ## Rounded results -/

/-- `x` is what binary64 has for the exact result `r`. -/
def Rounds (x : Float) (r : ℚ) : Prop := ∃ q, Near q r ∧ Holds x q

theorem rounds_zero (s : Sign) : Rounds (.ofModel (Float.Model.pack (.zero s))) 0 := by
  refine ⟨0, ⟨0, -1074, by simp, ?_, le_rfl, .inr rfl, fun _ => Even.zero⟩, holds_zero s⟩
  rw [sub_zero, abs_zero]
  positivity

/-- What is a machine number already is not rounded. -/
theorem Canonical.rounds {m : ℕ} {e : ℤ} (h : Canonical m e) (s : Sign) (p : 0 < m) :
    Rounds (.ofModel (Float.Model.pack (.finite s m e p))) (withSign s (m * 2 ^ e)) := by
  have near : Near (m * 2 ^ e) (m * 2 ^ e) := by
    refine ⟨m, e, by simp, by rw [sub_self, abs_zero]; positivity, h.least,
      h.leading.imp_left fun full => ?_, fun half => ?_⟩
    · rw [abs_of_nonneg (by positivity)]
      gcongr
      exact_mod_cast full
    · have power : (0 : ℚ) < 2 ^ e / 2 := by positivity
      rw [sub_self, abs_zero] at half
      exact absurd half power.ne
  exact ⟨_, near.withSign s, apply_mul s m _ ▸ holds_pack s p h⟩

/-- A significand of 53 bits or more, or one at the least exponent, is rounded to a nearest
number. -/
theorem rounds_roundWithAccuracy (s : Sign) {m : ℕ} {e : ℤ} {a : Accuracy}
    (h : Stands (.ofMantissaAndAccuracy m a) x) (room : 2 ^ 52 ≤ m ∨ e ≤ -1074) :
    Rounds (.ofModel (Float.Model.pack (roundWithAccuracy .binary64 s m e a)))
      (withSign s (x * 2 ^ e)) := by
  obtain ⟨em, t, y, first, stands, same, short, least, full⟩ :=
    shiftToTargetExponent_stands h room
  obtain ⟨top, leading, near⟩ := near_of_rounded stands.rounded stands.rounded_even short least full
  obtain ⟨em', f, second, canonical, worth⟩ := shiftToTargetExponent_rounded top least leading
  rw [← worth, same] at near
  refine ⟨_, near.withSign s, ?_⟩
  simp only [roundWithAccuracy, first, second]
  split
  · next none =>
    rw [none, Nat.cast_zero, zero_mul]
    cases s <;> simpa [withSign] using holds_zero _
  · next some =>
    rw [← apply_mul]
    exact holds_pack s _ canonical

theorem rounds_round (s : Sign) {m : ℕ} (e : ℤ) (some : m ≠ 0) :
    Rounds (.ofModel (Float.Model.pack (UnpackedFloat.round .binary64 s m e)))
      (withSign s (m * 2 ^ e)) := by
  obtain ⟨t, ht⟩ : ∃ t, t = max ((m.log2 : ℤ) + 1 + e - 53) (-1074) := ⟨_, rfl⟩
  obtain ⟨k, hk⟩ : ∃ k, k = (e - t).toNat := ⟨_, rfl⟩
  have same : ((m <<< k : ℕ) : ℚ) * 2 ^ (e - k) = m * 2 ^ e := by
    rw [Nat.shiftLeft_eq, zpow_sub₀ two_ne_zero, zpow_natCast]
    push_cast
    field_simp
  have room : 2 ^ 52 ≤ m <<< k ∨ e - (k : ℤ) ≤ -1074 := by
    refine or_iff_not_imp_right.2 fun above => ?_
    calc 2 ^ 52 ≤ 2 ^ (m.log2 + k) := Nat.pow_le_pow_right two_pos (by omega)
      _ = 2 ^ m.log2 * 2 ^ k := pow_add ..
      _ ≤ m * 2 ^ k := Nat.mul_le_mul_right _ (Nat.log2_self_le some)
      _ = m <<< k := (Nat.shiftLeft_eq m k).symm
  have rounds := rounds_roundWithAccuracy s (stands_exact (m <<< k)) room
  rw [same] at rounds
  simpa only [UnpackedFloat.round, decreaseExponent, targetExponent_binary64, ← ht, ← hk]
    using rounds

theorem rounds_normalize (n e : ℤ) (zeroSign : Sign) :
    Rounds (.ofModel (Float.Model.pack (UnpackedFloat.normalize .binary64 n e zeroSign)))
      (n * 2 ^ e) := by
  unfold UnpackedFloat.normalize
  obtain negative | rfl | positive := lt_trichotomy n 0
  · rw [Int.compare_eq_lt.2 negative]
    have rounds := rounds_round .negative (m := (-n).toNat) e (by omega)
    have whole : (((-n).toNat : ℕ) : ℚ) = -n := by
      exact_mod_cast Int.toNat_of_nonneg (by omega : 0 ≤ -n)
    simpa [withSign, whole] using rounds
  · simpa using rounds_zero zeroSign
  · rw [Int.compare_eq_gt.2 positive]
    have rounds := rounds_round .positive (m := n.toNat) e (by omega)
    have whole : ((n.toNat : ℕ) : ℚ) = n := by
      exact_mod_cast Int.toNat_of_nonneg positive.le
    simpa [withSign, whole] using rounds

/-! ## What a rounded result keeps -/

variable {f g : Float} {r : ℚ}

/-- Rounding passes no number. -/
theorem Rounds.ge (h : Rounds f r) (hg : g.isFinite = true) (le : value g ≤ r) : g ≤ f := by
  obtain ⟨q, near, holds⟩ := h
  exact holds.ge hg (near.ge_of_ge (grid_value g) le)

theorem Rounds.le (h : Rounds f r) (hg : g.isFinite = true) (ge : r ≤ value g) : f ≤ g := by
  obtain ⟨q, near, holds⟩ := h
  exact holds.le hg (near.le_of_le (grid_value g) ge)

theorem Rounds.isNaN (h : Rounds f r) : f.isNaN = false := by
  obtain ⟨q, -, holds⟩ := h
  exact holds.isNaN

theorem Rounds.near (h : Rounds f r) (hf : f.isFinite = true) : Near (value f) r := by
  obtain ⟨q, near, holds⟩ := h
  rwa [holds.value_eq hf]

/-- A result within a number below the range is finite. -/
theorem Rounds.isFinite {b : ℚ} (h : Rounds f r) (grid : Grid b) (small : b < 2 ^ 1024)
    (bound : |r| ≤ b) : f.isFinite = true := by
  obtain ⟨q, near, holds⟩ := h
  exact holds.isFinite ((near.abs_le_of_abs_le grid bound).trans_lt small)

/-- A result that has a number is that number. -/
theorem Rounds.exact (h : Rounds f r) (grid : Grid r) (small : |r| < 2 ^ 1024) :
    f.isFinite = true ∧ value f = r := by
  obtain ⟨q, near, holds⟩ := h
  obtain rfl := near.eq_of_grid grid
  have finite := holds.isFinite small
  exact ⟨finite, holds.value_eq finite⟩

theorem Rounds.isFinite_of_abs_le (h : Rounds f r) (bound : |r| ≤ 2 ^ 53) : f.isFinite = true := by
  have grid : Grid (2 ^ 53) := ⟨1, 53, by norm_cast, by norm_num, by norm_num⟩
  exact h.isFinite grid (lt_range le_rfl) bound

end DifferentialDrive.Binary64
