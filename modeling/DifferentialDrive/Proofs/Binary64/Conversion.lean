import DifferentialDrive.Proofs.Binary64.Arithmetic
import DifferentialDrive.Quantity

/-!
# Integers and binary64 numbers

The parts of a number and the number nearest to a quotient, which are computed on integers, agree
with its value: the integer part and the least integer above are those of the value, and a quotient
is rounded once.
-/

namespace DifferentialDrive.Binary64

open Float.Model Float.Model.UnpackedFloat

/-! ## Parts -/

/-- The fields of a finite number give the same significand and exponent as its parts. -/
theorem ofFields_isFinite {negative : Bool} {field fraction : ℕ}
    (h : (ofFields (signOf negative) field fraction).isFinite = true) :
    ∃ m e, (if field = 2047 then if fraction = 0 then Parts.infinite negative else .nan
        else if field = 0 then .finite negative fraction (-1074)
        else .finite negative (fraction + hiddenBit) (Int.ofNat field - 1075)) =
          .finite negative m e ∧
      worth (ofFields (signOf negative) field fraction) =
        withSign (signOf negative) (m * 2 ^ e) := by
  unfold ofFields at h ⊢
  split_ifs at h ⊢ with _ _ _ none
  · cases h
  · cases h
  · refine ⟨_, _, rfl, ?_⟩
    rw [none, Nat.cast_zero, zero_mul]
    cases negative <;> simp [worth, signOf, withSign]
  · exact ⟨_, _, rfl, by rw [worth_finite]⟩
  · refine ⟨_, _, rfl, ?_⟩
    rw [worth_finite, add_comm]
    rfl

/-- The parts of a finite number are its value. -/
theorem Parts.ofFloat_of_isFinite {x : Float} (h : x.isFinite = true) :
    ∃ negative m e, Parts.ofFloat x = .finite negative m e ∧
      value x = withSign (signOf negative) (m * 2 ^ e) := by
  have unpacked : x.toModel.unpack = _ := unpack_eq x.toBits.toBitVec
  change x.toModel.unpack.isFinite = true at h
  rw [unpacked] at h
  obtain ⟨m, e, parts, worth⟩ := ofFields_isFinite h
  refine ⟨x.toBits.toNat / 2 ^ 63 == 1, m, e, ?_, ?_⟩
  · refine Eq.trans ?_ parts
    simp only [Parts.ofFloat, beq_iff_eq]
    rfl
  · rw [value, unpacked, worth]
    rfl

/-! ## Integer parts -/

theorem scaled_pos {den : ℕ} (num : ℕ) (e : ℤ) (h : 0 < den) : 0 < (scaled num den e).2 := by
  have power : 0 < Nat.pow 2 e.natAbs := Nat.two_pow_pos _
  unfold scaled
  split
  · exact Nat.mul_pos h power
  · exact h

theorem scaled_div (num den : ℕ) (e : ℤ) :
    ((scaled num den e).1 : ℚ) / (scaled num den e).2 = num / den * 2 ^ e := by
  have power : ((Nat.pow 2 e.natAbs : ℕ) : ℚ) = 2 ^ (e.natAbs : ℤ) := by
    rw [zpow_natCast]
    exact Nat.cast_pow 2 e.natAbs
  unfold scaled
  split
  · next negative =>
    have size : (e.natAbs : ℤ) = -e := by omega
    rw [Nat.cast_mul, power, size, zpow_neg]
    field_simp
  · next positive =>
    have size : (e.natAbs : ℤ) = e := by omega
    rw [Nat.cast_mul, power, size]
    field_simp

/-- The integer part of a rational. -/
def towardZero (q : ℚ) : ℤ := if q < 0 then ⌈q⌉ else ⌊q⌋

theorem towardZero_neg (q : ℚ) : towardZero (-q) = -towardZero q := by
  unfold towardZero
  obtain negative | rfl | positive := lt_trichotomy q 0
  · rw [if_neg (by linarith), if_pos negative, Int.floor_neg]
  · simp
  · rw [if_pos (by linarith), if_neg (by linarith), Int.ceil_neg]

theorem abs_towardZero_le (q : ℚ) : |(towardZero q : ℚ)| ≤ |q| := by
  wlog positive : 0 ≤ q generalizing q
  · have opposite := this (-q) (by linarith)
    rwa [towardZero_neg, Int.cast_neg, abs_neg, abs_neg] at opposite
  rw [towardZero, if_neg positive.not_gt, abs_of_nonneg positive,
    abs_of_nonneg (by exact_mod_cast Int.floor_nonneg.2 positive)]
  exact Int.floor_le q

theorem abs_towardZero_sub_lt (q : ℚ) : |(towardZero q : ℚ) - q| < 1 := by
  wlog positive : 0 ≤ q generalizing q
  · have opposite := this (-q) (by linarith)
    rwa [towardZero_neg, Int.cast_neg, neg_sub_neg, abs_sub_comm] at opposite
  rw [towardZero, if_neg positive.not_gt, abs_sub_comm,
    abs_of_nonneg (by linarith [Int.floor_le q])]
  linarith [Int.lt_floor_add_one q]

theorem towardZero_intCast (n : ℤ) : towardZero n = n := by simp [towardZero]

theorem grid_towardZero {q : ℚ} (h : Grid q) : Grid (towardZero q) := by
  have grid := h
  obtain ⟨n, e, rfl, size, least⟩ := h
  obtain whole | fine := le_or_gt 0 e
  · -- such a number is an integer already
    obtain ⟨k, rfl⟩ := Int.eq_ofNat_of_zero_le whole
    have cast : (n : ℚ) * 2 ^ (k : ℤ) = (n * 2 ^ k : ℤ) := by push_cast; rfl
    rw [cast] at grid ⊢
    rwa [towardZero_intCast]
  · have small : |(n : ℚ) * 2 ^ e| ≤ 2 ^ 53 := by
      have power : (2 : ℚ) ^ e ≤ 1 := zpow_le_one_of_nonpos₀ (by norm_num) fine.le
      have positive : (0 : ℚ) < 2 ^ e := by positivity
      have whole : |(n : ℚ)| ≤ 2 ^ 53 := by exact_mod_cast size
      rw [abs_mul, abs_of_pos positive]
      nlinarith [abs_nonneg (n : ℚ)]
    exact grid_intCast (by exact_mod_cast (abs_towardZero_le _).trans small)

theorem wholePart_eq (m : ℕ) (e : ℤ) : (wholePart m e : ℤ) = towardZero (m * 2 ^ e) := by
  have exact := scaled_div m 1 e
  rw [Nat.cast_one, div_one] at exact
  have positive : (0 : ℚ) ≤ m * 2 ^ e := by positivity
  rw [towardZero, if_neg positive.not_gt, ← exact, ← Int.natCast_floor_eq_floor (by positivity),
    Nat.floor_div_eq_div]
  rfl

/-- The integer part of a number is that of its value. -/
theorem truncate_eq {x : Float} (h : x.isFinite = true) : truncate x = towardZero (value x) := by
  obtain ⟨negative, m, e, parts, same⟩ := Parts.ofFloat_of_isFinite h
  have whole := wholePart_eq m e
  simp only [truncate, parts, same]
  cases negative with
  | false => exact whole
  | true =>
    rw [show withSign (signOf true) _ = -((m : ℚ) * 2 ^ e) from rfl, towardZero_neg, ← whole]
    rfl

/-! ## The number nearest to a quotient -/

theorem abs_roundDiv_sub (n : ℕ) {d : ℕ} (h : 0 < d) :
    |(roundDiv n d : ℚ) - n / d| ≤ 1 / 2 := by
  have positive : (0 : ℚ) < d := by exact_mod_cast h
  have split := div_eq_div_add_mod_div n h
  have least : (0 : ℚ) ≤ (n % d : ℕ) / d := by positivity
  have most : ((n % d : ℕ) : ℚ) / d < 1 :=
    (div_lt_one positive).2 (by exact_mod_cast Nat.mod_lt n h)
  unfold roundDiv
  simp only [split]
  split
  · next up =>
    have half : (1 : ℚ) / 2 ≤ (n % d : ℕ) / d := by
      have : 1 * d ≤ n % d * 2 := by simp at up; omega
      rw [div_le_div_iff₀ two_pos positive]
      exact_mod_cast this
    push_cast
    rw [abs_le]
    constructor <;> linarith
  · next down =>
    have half : ((n % d : ℕ) : ℚ) / d ≤ 1 / 2 := by
      have : n % d * 2 ≤ 1 * d := by simp at down; omega
      rw [div_le_div_iff₀ positive two_pos]
      exact_mod_cast this
    rw [abs_le]
    constructor <;> linarith

/-- A half goes to the even neighbour. -/
theorem even_roundDiv {n d : ℕ} (h : 0 < d) (half : |(roundDiv n d : ℚ) - n / d| = 1 / 2) :
    Even (roundDiv n d) := by
  have positive : (0 : ℚ) < d := by exact_mod_cast h
  have least : (0 : ℚ) ≤ (n % d : ℕ) / d := by positivity
  have most : ((n % d : ℕ) : ℚ) / d < 1 :=
    (div_lt_one positive).2 (by exact_mod_cast Nat.mod_lt n h)
  have tie : ((n % d : ℕ) : ℚ) / d = 1 / 2 := by
    rw [div_eq_div_add_mod_div n h] at half
    unfold roundDiv at half
    dsimp only at half
    split at half <;> push_cast at half <;> obtain same | same := eq_or_eq_neg_of_abs_eq half <;>
      linarith
  have twice : 2 * (n % d) = d := by
    rw [div_eq_div_iff positive.ne' two_ne_zero] at tie
    have : n % d * 2 = 1 * d := by exact_mod_cast tie
    omega
  obtain even | odd := Nat.mod_two_eq_zero_or_one (n / d)
  · simpa [roundDiv, twice, even] using Nat.even_iff.2 even
  · simpa [roundDiv, twice, odd] using Nat.even_iff.2 (by omega : (n / d + 1) % 2 = 0)

/-- The bits that are written for a significand and an exponent are those of the number. -/
theorem holds_bits (negative : Bool) {m : ℕ} {e : ℤ} (h : Canonical m e) :
    Holds (Float.ofBits (signBit negative +
        min ((e + 1074).toNat * hiddenBit + m) infinityBits).toUInt64)
      (withSign (signOf negative) (m * 2 ^ e)) := by
  have canonical := h
  obtain ⟨lt, least, leading⟩ := h
  obtain ⟨b, hb⟩ : ∃ b, b = min ((e + 1074).toNat * hiddenBit + m) infinityBits := ⟨_, rfl⟩
  rw [← hb]
  unfold infinityBits hiddenBit at hb
  obtain ⟨n, hn⟩ : ∃ n, n = signBit negative + b := ⟨_, rfl⟩
  have size : n < 2 ^ 64 := by
    cases negative <;> simp [signBit] at hn <;> omega
  have sign : (n / 2 ^ 63 == 1) = negative := by
    cases negative <;> simp [signBit] at hn ⊢ <;> omega
  have field : n / 2 ^ 52 % 2 ^ 11 = b / 2 ^ 52 := by
    cases negative <;> simp [signBit] at hn ⊢ <;> omega
  have fraction : n % 2 ^ 52 = b % 2 ^ 52 := by
    cases negative <;> simp [signBit] at hn ⊢ <;> omega
  have read : n.toUInt64.toBitVec.toNat = n := Nat.mod_eq_of_lt size
  have unpacked : UnpackedFloat.unpack .binary64 n.toUInt64.toBitVec =
      ofFields (signOf negative) (b / 2 ^ 52) (b % 2 ^ 52) := by
    rw [unpack_eq, read, sign, field, fraction]
  rw [← hn]
  change Holds (.ofModel (Float.Model.pack (UnpackedFloat.unpack .binary64 n.toUInt64.toBitVec))) _
  rw [unpacked]
  obtain fits | large : e ≤ 971 ∨ 972 ≤ e := by omega
  · have exact : b = (e + 1074).toNat * 2 ^ 52 + m := by omega
    have high : b / 2 ^ 52 = (e + 1074).toNat + m / 2 ^ 52 := by omega
    have low : b % 2 ^ 52 = m % 2 ^ 52 := by omega
    rw [high, low]
    obtain rfl | some := Nat.eq_zero_or_pos m
    · obtain rfl : e = -1074 := by omega
      change Holds (.ofModel (Float.Model.pack (.zero (signOf negative)))) _
      rw [Nat.cast_zero, zero_mul]
      cases negative <;> simpa [withSign, signOf] using holds_zero _
    · rw [ofFields_of_canonical canonical fits some, ← apply_mul]
      exact holds_pack _ some canonical
  · have full := leading.resolve_right (by omega)
    have top : b = 2047 * 2 ^ 52 := by omega
    have beyond := canonical.worth_ge large
    rw [top]
    change Holds (.ofModel (Float.Model.pack (.infinity (signOf negative)))) _
    cases negative with
    | false => exact .above (unpack_pack_infinity _) beyond
    | true => exact .below (unpack_pack_infinity _) (neg_le_neg beyond)

/-- A significand that was rounded up to 54 bits carries into the exponent. -/
theorem holds_bits_rounded (negative : Bool) {m : ℕ} {e : ℤ} (top : m ≤ 2 ^ 53) (least : -1074 ≤ e)
    (leading : 2 ^ 52 ≤ m ∨ e = -1074) :
    Holds (Float.ofBits (signBit negative +
        min ((e + 1074).toNat * hiddenBit + m) infinityBits).toUInt64)
      (withSign (signOf negative) (m * 2 ^ e)) := by
  obtain rfl | lt := top.eq_or_lt
  · have carried : (e + 1074).toNat * hiddenBit + 2 ^ 53 =
        (e + 1 + 1074).toNat * hiddenBit + 2 ^ 52 := by
      unfold hiddenBit
      omega
    have same : ((2 ^ 53 : ℕ) : ℚ) * 2 ^ e = (2 ^ 52 : ℕ) * 2 ^ (e + 1) := by
      rw [zpow_add_one₀ two_ne_zero]
      push_cast
      ring
    rw [carried, same]
    exact holds_bits negative ⟨by norm_num, by omega, .inl le_rfl⟩
  · exact holds_bits negative ⟨lt, least, leading⟩

theorem two_zpow_log2_le {n : ℕ} (h : 0 < n) : (2 : ℚ) ^ (n.log2 : ℤ) ≤ n := by
  rw [zpow_natCast]
  exact_mod_cast Nat.log2_self_le h.ne'

theorem lt_two_zpow_log2 (n : ℕ) : (n : ℚ) < 2 ^ ((n.log2 : ℤ) + 1) := by
  rw [← Nat.cast_one, ← Nat.cast_add, zpow_natCast]
  exact_mod_cast Nat.lt_log2_self

/-- The binade of a quotient is that of its logarithms or the one before. -/
theorem quotient_bounds {num den : ℕ} (some : 0 < num) (h : 0 < den) :
    2 ^ 52 ≤ (num : ℚ) / den * 2 ^ (-((num.log2 : ℤ) - den.log2 - 53)) ∧
      (num : ℚ) / den * 2 ^ (-((num.log2 : ℤ) - den.log2 - 53)) < 2 ^ 54 := by
  have power : (2 : ℚ) ^ (-((num.log2 : ℤ) - den.log2 - 53)) =
      2 ^ (den.log2 : ℤ) * 2 ^ 53 / 2 ^ (num.log2 : ℤ) := by
    rw [← zpow_natCast 2 53, ← zpow_add₀ two_ne_zero, ← zpow_sub₀ two_ne_zero]
    congr 1
    push_cast
    ring
  have positive : (0 : ℚ) < den := by exact_mod_cast h
  have positive' : (0 : ℚ) < 2 ^ (num.log2 : ℤ) := by positivity
  have numLow := two_zpow_log2_le some
  have numHigh := lt_two_zpow_log2 num
  have denLow := two_zpow_log2_le h
  have denHigh := lt_two_zpow_log2 den
  rw [zpow_add_one₀ two_ne_zero] at numHigh denHigh
  rw [power]
  generalize (2 : ℚ) ^ (num.log2 : ℤ) = p at *
  generalize (2 : ℚ) ^ (den.log2 : ℤ) = q at *
  have cross : (num : ℚ) / den * (q * 2 ^ 53 / p) = num * q * 2 ^ 53 / (den * p) := by
    field_simp
  rw [cross, le_div_iff₀ (by positivity), div_lt_iff₀ (by positivity)]
  constructor <;> nlinarith

/-- The exponent that is chosen for a quotient leaves 53 bits, or those above the least. -/
theorem quotient_exponent {num den : ℕ} (some : 0 < num) (h : 0 < den) {g e : ℤ}
    (hg : g = (num.log2 : ℤ) - den.log2 - 53)
    (he : e = max (if (scaled num den (-g)).1 / (scaled num den (-g)).2 ≥ 2 * hiddenBit then g + 1
      else g) (-1074)) :
    -1074 ≤ e ∧ (num : ℚ) / den * 2 ^ (-e) < 2 ^ 53 ∧
      (2 ^ 52 ≤ (num : ℚ) / den * 2 ^ (-e) ∨ e = -1074) := by
  obtain ⟨low, high⟩ := quotient_bounds some h
  rw [← hg] at low high
  have above : (0 : ℚ) ≤ (num : ℚ) / den := by positivity
  have large : (scaled num den (-g)).1 / (scaled num den (-g)).2 ≥ 2 * hiddenBit ↔
      2 ^ 53 ≤ (num : ℚ) / den * 2 ^ (-g) := by
    have positive := scaled_pos num (-g) h
    rw [← scaled_div, le_div_iff₀ (by exact_mod_cast positive), ge_iff_le,
      Nat.le_div_iff_mul_le positive]
    unfold hiddenBit
    norm_cast
  obtain ⟨f, hf⟩ : ∃ f, f = if (scaled num den (-g)).1 / (scaled num den (-g)).2 ≥ 2 * hiddenBit
    then g + 1 else g := ⟨_, rfl⟩
  rw [← hf] at he
  have bounds : 2 ^ 52 ≤ (num : ℚ) / den * 2 ^ (-f) ∧ (num : ℚ) / den * 2 ^ (-f) < 2 ^ 53 := by
    rw [hf]
    split
    · next beyond =>
      rw [large] at beyond
      rw [neg_add, ← sub_eq_add_neg, zpow_sub_one₀ two_ne_zero, ← mul_assoc]
      constructor <;> linarith
    · next within =>
      rw [large, not_le] at within
      exact ⟨low, within⟩
  have order : (2 : ℚ) ^ (-e) ≤ 2 ^ (-f) := zpow_le_zpow_right₀ (by norm_num) (by omega)
  refine ⟨by omega, (mul_le_mul_of_nonneg_left order above).trans_lt bounds.2, ?_⟩
  obtain same | least : e = f ∨ e = -1074 := by omega
  · exact .inl (same ▸ bounds.1)
  · exact .inr least

/-- The number nearest to a quotient is rounded once. -/
theorem rounds_nearest (negative : Bool) (num : ℕ) {den : ℕ} (h : 0 < den) :
    Rounds (nearest negative num den) (withSign (signOf negative) (num / den)) := by
  unfold nearest
  obtain rfl | some := Nat.eq_zero_or_pos num
  · rw [if_pos (beq_self_eq_true 0), Nat.cast_zero, zero_div]
    have none : withSign (signOf negative) 0 = 0 := by cases negative <;> simp [withSign, signOf]
    rw [none]
    cases negative
    · exact rounds_zero .positive
    · exact rounds_zero .negative
  · rw [if_neg (by simpa using some.ne')]
    obtain ⟨e, he⟩ : ∃ e, e = max (if (scaled num den (-((num.log2 : ℤ) - den.log2 - 53))).1 /
        (scaled num den (-((num.log2 : ℤ) - den.log2 - 53))).2 ≥ 2 * hiddenBit
        then (num.log2 : ℤ) - den.log2 - 53 + 1 else (num.log2 : ℤ) - den.log2 - 53) (-1074) :=
      ⟨_, rfl⟩
    obtain ⟨least, short, full⟩ := quotient_exponent some h rfl he
    have close := abs_roundDiv_sub (scaled num den (-e)).1 (scaled_pos num (-e) h)
    have even := even_roundDiv (n := (scaled num den (-e)).1) (scaled_pos num (-e) h)
    rw [scaled_div] at close even
    obtain ⟨top, leading, near⟩ := near_of_rounded close even short least full
    have same : (num : ℚ) / den * 2 ^ (-e) * 2 ^ e = num / den := by
      rw [mul_assoc, ← zpow_add₀ two_ne_zero, neg_add_cancel, zpow_zero, mul_one]
    rw [same] at near
    refine ⟨_, near.withSign _, ?_⟩
    simp only [← he]
    exact holds_bits_rounded negative top least leading

/-! ## Integers -/

theorem rounds_ofInt (n : ℤ) : Rounds (ofInt n) n := by
  have rounds := rounds_nearest (n < 0) n.natAbs one_pos
  rw [Nat.cast_one, div_one] at rounds
  have same : withSign (signOf (decide (n < 0))) (n.natAbs : ℚ) = n := by
    obtain negative | positive := lt_or_ge n 0
    · rw [decide_eq_true negative, Nat.cast_natAbs, abs_of_neg negative]
      simp [signOf, withSign]
    · rw [decide_eq_false positive.not_gt, Nat.cast_natAbs, abs_of_nonneg positive]
      rfl
  rwa [same] at rounds

/-- An integer that has a number is that number. -/
theorem value_ofInt {n : ℤ} (grid : Grid n) (small : |(n : ℚ)| < 2 ^ 1024) :
    (ofInt n).isFinite = true ∧ value (ofInt n) = n :=
  (rounds_ofInt n).exact grid small

theorem value_ofInt_of_small {n : ℤ} (h : |n| ≤ 2 ^ 53) :
    (ofInt n).isFinite = true ∧ value (ofInt n) = n := by
  have small : |(n : ℚ)| ≤ 2 ^ 53 := by exact_mod_cast h
  exact value_ofInt (grid_intCast h) (lt_range small)

theorem isFinite_ofInt_truncate {x : Float} (h : x.isFinite = true) :
    (ofInt (truncate x)).isFinite = true ∧ value (ofInt (truncate x)) = towardZero (value x) := by
  rw [truncate_eq h]
  exact value_ofInt (grid_towardZero (grid_value x))
    ((abs_towardZero_le _).trans_lt (abs_value_lt h))

/-- The nearest integer is off by at most a half. -/
theorem abs_nearestInt_sub {x : Float} (h : x.isFinite = true) :
    |(nearestInt x : ℚ) - value x| ≤ 1 / 2 := by
  obtain ⟨negative, m, e, parts, same⟩ := Parts.ofFloat_of_isFinite h
  have close := abs_roundDiv_sub (scaled m 1 e).1 (scaled_pos m e one_pos)
  rw [scaled_div, Nat.cast_one, div_one] at close
  simp only [nearestInt, parts, same]
  cases negative with
  | false => exact close
  | true =>
    have flip : ((-(roundDiv (scaled m 1 e).1 (scaled m 1 e).2 : ℤ) : ℤ) : ℚ) - -(m * 2 ^ e) =
        -((roundDiv (scaled m 1 e).1 (scaled m 1 e).2 : ℚ) - m * 2 ^ e) := by
      push_cast
      ring
    refine le_of_eq_of_le (congrArg (|·|) flip) ?_
    rw [abs_neg]
    exact close

/-- What is close to an integer has it for the nearest. -/
theorem nearestInt_eq {x : Float} {n : ℤ} (h : x.isFinite = true)
    (close : |value x - n| < 1 / 2) : nearestInt x = n := by
  have off := abs_nearestInt_sub h
  have apart : |(nearestInt x : ℚ) - n| < 1 := by
    calc |(nearestInt x : ℚ) - n|
      _ ≤ |(nearestInt x : ℚ) - value x| + |value x - n| := abs_sub_le _ _ _
      _ < 1 := by linarith
  have apart : |nearestInt x - n| < 1 := by exact_mod_cast apart
  rw [abs_lt] at apart
  omega

theorem finite_ok {x : Float} (h : x.isFinite = true) : Scalar.finite x = .ok x := by
  obtain ⟨number, bounded⟩ : x.isNaN = false ∧ x.isInf = false := by simpa [isFinite_eq] using h
  simp only [Scalar.finite, Scalar.isInfinite, Scalar.isNaN, number, bounded]
  rfl

theorem toInteger_ok {x : Float} (h : x.isFinite = true) :
    Scalar.toInteger x = .ok (towardZero (value x)) := by
  rw [Scalar.toInteger, finite_ok h, ← truncate_eq h]
  rfl

/-- The least integer not less than a number is that of its value. -/
theorem ceiling_eq {x : Float} (h : x.isFinite = true) : Quantity.ceiling x = ⌈value x⌉ := by
  obtain ⟨finite, exact⟩ := isFinite_ofInt_truncate h
  have below : Scalar.ofInt (Scalar.truncate x) < x ↔ (towardZero (value x) : ℚ) < value x := by
    rw [← exact]
    exact lt_iff_value finite h
  have close := abs_lt.1 (abs_towardZero_sub_lt (value x))
  have same : Scalar.truncate x = towardZero (value x) := truncate_eq h
  unfold Quantity.ceiling
  split
  · next less =>
    rw [below] at less
    rw [same]
    refine (Int.ceil_eq_iff.2 ⟨?_, ?_⟩).symm <;> push_cast <;> linarith
  · next reached =>
    rw [below, not_lt] at reached
    rw [same]
    exact (Int.ceil_eq_iff.2 ⟨by linarith, reached⟩).symm

end DifferentialDrive.Binary64
