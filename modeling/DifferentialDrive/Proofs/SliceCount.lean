import DifferentialDrive.Motion
import DifferentialDrive.Proofs.Binary64.Arithmetic
import DifferentialDrive.Proofs.Binary64.Conversion

/-!
# The counts of one slice of a straight drive

A slice is turned into a way and the way into whole counts, toward zero. Four operations round on
the way there, and what they lose is small (`Near.exists_factor`): the counts are those of the exact
quotient up to one part in `2 ^ 51`, less than one count short and never beyond
(`counts_of_stretch`).
-/

namespace DifferentialDrive

open Scalar

namespace Binary64

/-- Where a result is not tiny, rounding loses a factor. -/
theorem Near.exists_factor {q r : ℚ} (h : Near q r) (large : 2 ^ (-1000 : ℤ) ≤ |r|) :
    ∃ a : ℚ, |a| ≤ 1 / 2 ^ 53 ∧ q = r * (1 + a) := by
  have positive : 0 < |r| := lt_of_lt_of_le (by positivity) large
  have error : |q - r| ≤ |r| / 2 ^ 53 := by
    refine h.error.trans (max_le le_rfl ?_)
    calc (2 : ℚ) ^ (-1075 : ℤ) ≤ 2 ^ (-1000 : ℤ) / 2 ^ 53 := by
          rw [← zpow_natCast, ← zpow_sub₀ two_ne_zero]
          exact zpow_le_zpow_right₀ (by norm_num) (by norm_num)
      _ ≤ |r| / 2 ^ 53 := by gcongr
  refine ⟨(q - r) / r, ?_, ?_⟩
  · rw [abs_div, div_le_iff₀ positive]
    linarith
  · have nonzero : r ≠ 0 := abs_pos.1 positive
    field_simp
    ring

/-- Such a factor neither doubles nor halves. -/
theorem abs_mul_factor (y : ℚ) {a : ℚ} (ha : |a| ≤ 1 / 2 ^ 53) :
    |y| / 2 ≤ |y * (1 + a)| ∧ |y * (1 + a)| ≤ 2 * |y| := by
  obtain ⟨low, high⟩ := abs_le.1 ha
  have positive : 0 ≤ 1 + a := by linarith
  rw [abs_mul, abs_of_nonneg positive]
  constructor <;> nlinarith [abs_nonneg y]

theorem tiny_le : (2 : ℚ) ^ (-1000 : ℤ) ≤ 1 / 2 ^ 20 :=
  (zpow_le_zpow_right₀ (by norm_num) (by norm_num : (-1000 : ℤ) ≤ -20)).trans_eq (by norm_num)

/-- Three such factors are within one part in `2 ^ 51`. -/
theorem abs_factors_sub_one_le {a b c : ℚ} (ha : |a| ≤ 1 / 2 ^ 53) (hb : |b| ≤ 1 / 2 ^ 53)
    (hc : |c| ≤ 1 / 2 ^ 53) : |(1 + a) * (1 + b) * (1 + c) - 1| ≤ 1 / 2 ^ 51 := by
  have product {x y m n : ℚ} (hx : |x| ≤ m) (hy : |y| ≤ n) (hm : 0 ≤ m) : |x * y| ≤ m * n := by
    rw [abs_mul]
    exact mul_le_mul hx hy (abs_nonneg y) hm
  have hab := product ha hb (by norm_num)
  have hac := product ha hc (by norm_num)
  have hbc := product hb hc (by norm_num)
  have habc := product hab hc (by norm_num)
  rw [abs_le] at *
  constructor <;> linarith

theorem mul_towardZero_nonneg (q : ℚ) : 0 ≤ q * towardZero q := by
  wlog positive : 0 ≤ q generalizing q
  · have opposite := this (-q) (by linarith)
    rwa [towardZero_neg, Int.cast_neg, neg_mul_neg] at opposite
  rw [towardZero, if_neg positive.not_gt]
  exact mul_nonneg positive (by exact_mod_cast Int.floor_nonneg.2 positive)

theorem lt_abs_towardZero_add_one (q : ℚ) : |q| < |(towardZero q : ℚ)| + 1 := by
  have close := abs_towardZero_sub_lt q
  rw [abs_sub_comm] at close
  have := abs_sub_abs_le_abs_sub q (towardZero q)
  linarith

end Binary64

open Binary64

/-! ## Whole counts -/

/-- Whole counts of an exact number of them: none too many and less than one too few, but for what
rounding loses. -/
structure Tallies (e : ℚ) (c : ℤ) : Prop where
  sign : 0 ≤ e * c
  le : |(c : ℚ)| ≤ |e| * (1 + 1 / 2 ^ 51)
  lt : |e| * (1 - 1 / 2 ^ 51) < |(c : ℚ)| + 1
  none : |e| < 1 / 2 → c = 0

theorem Tallies.of_factor {e f : ℚ} (large : 1 / 2 ≤ |e|) (close : |f - 1| ≤ 1 / 2 ^ 51) :
    Tallies e (towardZero (e * f)) := by
  obtain ⟨low, high⟩ := abs_le.1 close
  have positive : 0 < f := by linarith
  have size : |e * f| = |e| * f := by rw [abs_mul, abs_of_pos positive]
  refine ⟨?_, ?_, ?_, fun small => absurd small large.not_gt⟩
  · have same := mul_towardZero_nonneg (e * f)
    rw [mul_right_comm] at same
    exact nonneg_of_mul_nonneg_left same positive
  · refine (abs_towardZero_le _).trans ?_
    rw [size]
    gcongr
    linarith
  · refine lt_of_le_of_lt ?_ (lt_abs_towardZero_add_one (e * f))
    rw [size]
    gcongr
    linarith

theorem Tallies.zero {e : ℚ} (small : |e| < 1 / 2) : Tallies e 0 := by
  refine ⟨by simp, by simp; positivity, ?_, fun _ => rfl⟩
  rw [Int.cast_zero, abs_zero]
  linarith [abs_nonneg e]

/-! ## From a slice to its counts -/

/-- The way of one count of the standard chassis. -/
def countLength : Float := Scalar.ofInt 125 * Scalar.pi / Scalar.ofInt 980

theorem lengthPerCount_standard :
    (Chassis.standard : Chassis Float).lengthPerCount = .ok countLength := by
  decide +kernel

theorem countLength_between : 2 / 5 ≤ value countLength ∧ value countLength ≤ 41 / 100 := by
  decide +kernel

/-- Millimetres per second at a number of units, with the standard chassis. -/
def wheelSpeed (v : ℤ) : Float := Scalar.ofInt v * (Scalar.ofInt 25 / Scalar.ofInt 4)

theorem value_wheelSpeed {v : ℤ} (hv : |v| ≤ 128) :
    (wheelSpeed v).isFinite = true ∧ value (wheelSpeed v) = v * (25 / 4) := by
  obtain ⟨f25, v25⟩ := value_ofInt_of_small (n := 25) (by norm_num)
  obtain ⟨f4, v4⟩ := value_ofInt_of_small (n := 4) (by norm_num)
  obtain ⟨fv, vv⟩ := value_ofInt_of_small (hv.trans (by norm_num))
  have quarter := rounds_div f25 f4 (by rw [v4]; norm_num)
  rw [v25, v4, Int.cast_ofNat, Int.cast_ofNat] at quarter
  obtain ⟨finite, exact⟩ := quarter.exact ⟨25, -2, by norm_num, by norm_num, by norm_num⟩
    (lt_range (by norm_num))
  have product := rounds_mul fv finite
  rw [vv, exact] at product
  have size : |(v : ℚ)| ≤ 128 := by exact_mod_cast hv
  refine product.exact ⟨25 * v, -2, by push_cast; ring, ?_, by norm_num⟩ (lt_range ?_)
  · rw [abs_mul]
    norm_num
    linarith
  · rw [abs_mul]
    norm_num
    linarith

/-- The exact counts of a stretch of time at a number of units. -/
def exactCounts (v : ℤ) (seconds : ℚ) : ℚ := v * (25 / 4) * seconds / value countLength

/-- The length of a stretch of time, at the simulation speed of one. -/
def stretch (start stop : Float) : Float := (stop - start) * Scalar.ofInt 1

theorem near_stretch {start stop : Float} (hstart : start.isFinite = true)
    (hstop : stop.isFinite = true) (begins : 0 ≤ value start) (ends : value start ≤ value stop) :
    (stretch start stop).isFinite = true ∧
      Near (value (stretch start stop)) (value stop - value start) := by
  have difference := rounds_sub hstop hstart
  have small := (abs_lt.1 (abs_value_lt hstop)).2
  have finite := difference.isFinite (grid_value stop) small
    (by rw [abs_of_nonneg (by linarith)]; linarith)
  obtain ⟨fone, vone⟩ := value_ofInt_of_small (n := 1) (by norm_num)
  have product := rounds_mul finite fone
  rw [vone, Int.cast_one, mul_one] at product
  obtain ⟨finite', exact⟩ := product.exact (grid_value _) (abs_value_lt finite)
  exact ⟨finite', (exact : value (stretch start stop) = _) ▸ difference.near finite⟩

/-- The way of a wheel in a stretch of time. -/
def way (v : ℤ) (start stop : Float) : Float := wheelSpeed v * stretch start stop

theorem counts_eq {x : Float} (h : (x / countLength).isFinite = true) :
    (Chassis.standard : Chassis Float).counts x =
      .ok (towardZero (value (x / countLength))) := by
  have nonzero : (countLength == zero) = false := by decide +kernel
  have divided : quotient x countLength = .ok (x / countLength) := by
    rw [quotient, nonzero]
    rfl
  simp only [Chassis.counts, lengthPerCount_standard, divided, toInteger_ok h, bind, Except.bind]

section Stretch

variable {v : ℤ} {d δ : ℚ} {x : Float}

theorem abs_speed_le (hv : |(v : ℚ)| ≤ 128) : |(v : ℚ) * (25 / 4)| ≤ 800 := by
  rw [abs_mul]
  norm_num
  linarith

/-- What is less than half a count is none. -/
theorem tallies_of_small (hv : |(v : ℚ)| ≤ 128) (near : Near d δ)
    (rounds : Rounds x (v * (25 / 4) * d)) (small : |exactCounts v δ| < 1 / 2) :
    (x / countLength).isFinite = true ∧
      Tallies (exactCounts v δ) (towardZero (value (x / countLength))) := by
  obtain ⟨low, high⟩ := countLength_between
  have speed := abs_speed_le hv
  have length : 0 < value countLength := by linarith
  have short : |(v : ℚ) * (25 / 4) * δ| ≤ 41 / 200 := by
    rw [exactCounts, abs_div, abs_of_pos length, div_lt_iff₀ length] at small
    linarith
  have error : |d - δ| ≤ |δ| / 2 ^ 53 + 1 / 2 ^ 20 := by
    have least : (2 : ℚ) ^ (-1075 : ℤ) ≤ 1 / 2 ^ 20 :=
      (zpow_le_zpow_right₀ (by norm_num) (by norm_num)).trans tiny_le
    exact near.error.trans (max_le (by linarith) (by linarith [abs_nonneg δ]))
  have close : |(v : ℚ) * (25 / 4) * d| ≤ 1 / 4 := by
    calc |(v : ℚ) * (25 / 4) * d|
      _ = |(v : ℚ) * (25 / 4) * δ + (v : ℚ) * (25 / 4) * (d - δ)| := by congr 1; ring
      _ ≤ |(v : ℚ) * (25 / 4) * δ| + |(v : ℚ) * (25 / 4)| * |d - δ| := by
        rw [← abs_mul]
        exact abs_add_le _ _
      _ ≤ |(v : ℚ) * (25 / 4) * δ| + |(v : ℚ) * (25 / 4)| * (|δ| / 2 ^ 53 + 1 / 2 ^ 20) := by
        gcongr
      _ = |(v : ℚ) * (25 / 4) * δ| * (1 + 1 / 2 ^ 53) + |(v : ℚ) * (25 / 4)| / 2 ^ 20 := by
        rw [abs_mul _ δ]
        ring
      _ ≤ 41 / 200 * (1 + 1 / 2 ^ 53) + 800 / 2 ^ 20 := by gcongr
      _ ≤ 1 / 4 := by norm_num
  have quarter : Grid (1 / 4) := ⟨1, -2, by norm_num, by norm_num, by norm_num⟩
  have finite := rounds.isFinite quarter (lt_range (by norm_num)) close
  have bound := (rounds.near finite).abs_le_of_abs_le quarter close
  have divided := rounds_div finite (y := countLength) (by decide +kernel) length.ne'
  have less : |value x / value countLength| ≤ 5 / 8 := by
    rw [abs_div, abs_of_pos length, div_le_iff₀ length]
    linarith
  have grid : Grid (5 / 8) := ⟨5, -3, by norm_num, by norm_num, by norm_num⟩
  have whole := divided.isFinite grid (lt_range (by norm_num)) less
  have none : towardZero (value (x / countLength)) = 0 := by
    have size := (abs_towardZero_le _).trans ((divided.near whole).abs_le_of_abs_le grid less)
    have : |towardZero (value (x / countLength))| < 1 := by
      exact_mod_cast size.trans_lt (by norm_num : (5 / 8 : ℚ) < 1)
    exact Int.abs_lt_one_iff.1 this
  rw [none]
  exact ⟨whole, .zero small⟩

/-- From half a count on every rounding loses a factor. -/
theorem tallies_of_large (hv : |(v : ℚ)| ≤ 128) (near : Near d δ)
    (rounds : Rounds x (v * (25 / 4) * d)) (large : 1 / 2 ≤ |exactCounts v δ|)
    (reach : |exactCounts v δ| ≤ 2 ^ 1021) :
    (x / countLength).isFinite = true ∧
      Tallies (exactCounts v δ) (towardZero (value (x / countLength))) := by
  obtain ⟨low, high⟩ := countLength_between
  have speed := abs_speed_le hv
  have length : 0 < value countLength := by linarith
  have exact : (v : ℚ) * (25 / 4) * δ = exactCounts v δ * value countLength :=
    (div_mul_cancel₀ _ length.ne').symm
  have way : |(v : ℚ) * (25 / 4) * δ| = |exactCounts v δ| * value countLength := by
    rw [exact, abs_mul, abs_of_pos length]
  have long : 1 / 2 ^ 20 ≤ |δ| := by
    have far : 1 / 5 ≤ |(v : ℚ) * (25 / 4) * δ| := by rw [way]; nlinarith
    rw [abs_mul] at far
    nlinarith [abs_nonneg δ]
  obtain ⟨a, ha, rfl⟩ := near.exists_factor (tiny_le.trans long)
  rw [← mul_assoc] at rounds
  obtain ⟨above, below⟩ := abs_mul_factor ((v : ℚ) * (25 / 4) * δ) ha
  rw [way] at above below
  have finite : x.isFinite = true := by
    refine rounds.isFinite (b := 2 ^ 1021) ⟨1, 1021, by norm_num, by norm_num, by norm_num⟩
      (pow_lt_pow_right₀ (by norm_num) (by norm_num)) (below.trans (le_trans ?_ reach))
    nlinarith [abs_nonneg (exactCounts v δ)]
  obtain ⟨b, hb, second⟩ := (rounds.near finite).exists_factor
    (tiny_le.trans (le_trans (by nlinarith) above))
  have divided := rounds_div finite (y := countLength) (by decide +kernel) length.ne'
  have quotient : value x / value countLength = exactCounts v δ * (1 + a) * (1 + b) := by
    rw [second, exact]
    field_simp
  rw [quotient] at divided
  obtain ⟨above₁, below₁⟩ := abs_mul_factor (exactCounts v δ) ha
  obtain ⟨above₂, below₂⟩ := abs_mul_factor (exactCounts v δ * (1 + a)) hb
  have whole : (x / countLength).isFinite = true := by
    refine divided.isFinite (b := 2 ^ 1023) ⟨1, 1023, by norm_num, by norm_num, by norm_num⟩
      (pow_lt_pow_right₀ (by norm_num) (by norm_num)) ?_
    calc |exactCounts v δ * (1 + a) * (1 + b)| ≤ 4 * |exactCounts v δ| := by linarith
      _ ≤ 4 * 2 ^ 1021 := by gcongr
      _ = 2 ^ 1023 := by rw [show (4 : ℚ) = 2 ^ 2 by norm_num, ← pow_add]
  obtain ⟨c, hc, third⟩ := (divided.near whole).exists_factor (tiny_le.trans (by linarith))
  have product : value (x / countLength) =
      exactCounts v δ * ((1 + a) * (1 + b) * (1 + c)) := by
    rw [third]
    ring
  rw [product]
  exact ⟨whole, .of_factor large (abs_factors_sub_one_le ha hb hc)⟩

end Stretch

/-- A stretch of time that begins after zero and is not too long is turned into whole counts. -/
theorem counts_of_stretch {v : ℤ} (hv : |v| ≤ 128) {start stop : Float}
    (hstart : start.isFinite = true) (hstop : stop.isFinite = true) (begins : 0 ≤ value start)
    (ends : value start ≤ value stop)
    (reach : |exactCounts v (value stop - value start)| ≤ 2 ^ 1021) :
    ∃ c, (Chassis.standard : Chassis Float).counts (way v start stop) = .ok c ∧
      Tallies (exactCounts v (value stop - value start)) c := by
  obtain ⟨finite, near⟩ := near_stretch hstart hstop begins ends
  obtain ⟨fspeed, vspeed⟩ := value_wheelSpeed hv
  have rounds := rounds_mul fspeed finite
  rw [vspeed] at rounds
  have size : |(v : ℚ)| ≤ 128 := by exact_mod_cast hv
  obtain ⟨whole, tallies⟩ : (way v start stop / countLength).isFinite = true ∧
      Tallies (exactCounts v (value stop - value start))
        (towardZero (value (way v start stop / countLength))) := by
    obtain small | large := lt_or_ge |exactCounts v (value stop - value start)| (1 / 2)
    · exact tallies_of_small size near rounds small
    · exact tallies_of_large size near rounds large reach
  exact ⟨_, counts_eq whole, tallies⟩

/-! ## The sum over slices -/

/-- Forward in time the exact counts grow away from zero. -/
theorem abs_exactCounts_add (v : ℤ) {x y : ℚ} (hx : 0 ≤ x) (hy : 0 ≤ y) :
    |exactCounts v (x + y)| = |exactCounts v x| + |exactCounts v y| := by
  have length : 0 < value countLength := by linarith [countLength_between.1]
  simp only [exactCounts, abs_div, abs_mul, abs_of_nonneg hx, abs_of_nonneg hy,
    abs_of_nonneg (add_nonneg hx hy)]
  ring

theorem abs_exactCounts_le (v : ℤ) {x y : ℚ} (hx : 0 ≤ x) (h : x ≤ y) :
    |exactCounts v x| ≤ |exactCounts v y| := by
  have parts := abs_exactCounts_add v hx (sub_nonneg.2 h)
  rw [add_sub_cancel] at parts
  exact parts ▸ le_add_of_nonneg_right (abs_nonneg _)

/-- What has the sign of the speed has the sign of the exact counts. -/
theorem mul_exactCounts (v : ℤ) (x : ℚ) (n : ℚ) :
    exactCounts v x * n = 25 / 4 * x / value countLength * (v * n) := by
  unfold exactCounts
  ring

/-- A total of counts over slices of which `n` have a length, up to `x` seconds. -/
structure Totals (v : ℤ) (x : ℚ) (n : ℕ) (total : ℤ) : Prop where
  sign : 0 ≤ (v : ℚ) * total
  le : |(total : ℚ)| ≤ |exactCounts v x| * (1 + 1 / 2 ^ 51)
  lt : |exactCounts v x| * (1 - 1 / 2 ^ 51) ≤ |(total : ℚ)| + n
  some : x = 0 ∨ 1 ≤ n

theorem Totals.none (v : ℤ) : Totals v 0 0 0 := by
  refine ⟨by simp, ?_, ?_, .inl rfl⟩ <;> simp [exactCounts]

/-- A slice adds its counts to the total. -/
theorem Totals.add {v : ℤ} {x δ : ℚ} {n : ℕ} {total c : ℤ} (h : Totals v x n total)
    (hx : 0 ≤ x) (hδ : 0 < δ) (tallies : Tallies (exactCounts v δ) c) :
    Totals v (x + δ) (n + 1) (total + c) := by
  have length : 0 < value countLength := by linarith [countLength_between.1]
  have sign : 0 ≤ (v : ℚ) * c := by
    have scaled := tallies.sign
    rw [mul_exactCounts] at scaled
    exact nonneg_of_mul_nonneg_right scaled (by positivity)
  have same : 0 ≤ (total : ℚ) * c := by
    obtain rfl | moving := eq_or_ne v 0
    · have none : c = 0 := tallies.none (by simp [exactCounts])
      simp [none]
    · have product := mul_nonneg h.sign sign
      have square : 0 < (v : ℚ) * v := mul_self_pos.2 (by exact_mod_cast moving)
      rw [mul_mul_mul_comm] at product
      exact nonneg_of_mul_nonneg_right product square
  -- both have the sign of the speed, so their sizes add up
  have sum : |((total + c : ℤ) : ℚ)| = |(total : ℚ)| + |(c : ℚ)| := by
    push_cast
    exact (abs_add_eq_add_abs_iff _ _).2 (mul_nonneg_iff.1 same)
  refine ⟨?_, ?_, ?_, .inr (by omega)⟩
  · push_cast
    linarith [h.sign]
  · rw [sum, abs_exactCounts_add v hx hδ.le]
    linarith [h.le, tallies.le]
  · rw [sum, abs_exactCounts_add v hx hδ.le]
    push_cast
    linarith [h.lt, tallies.lt]

/-- The total is the exact count toward zero, but for one count in each slice and for what rounding
loses. -/
theorem Totals.abs_sub_le {v : ℤ} {x : ℚ} {n : ℕ} {total : ℤ} (h : Totals v x n total)
    (hx : 0 ≤ x) :
    |(total : ℚ) - towardZero (exactCounts v x)| ≤ n + |exactCounts v x| / 2 ^ 51 := by
  have length : 0 < value countLength := by linarith [countLength_between.1]
  obtain ⟨e, he⟩ : ∃ e, e = exactCounts v x := ⟨_, rfl⟩
  have upper := h.le
  have lower := h.lt
  rw [← he] at upper lower ⊢
  obtain rfl | moved := eq_or_ne e 0
  · have none : (total : ℚ) = 0 := by simpa using upper
    simp [none, towardZero]
  have begun : (1 : ℚ) ≤ n := by
    obtain rfl | some := h.some
    · simp [exactCounts] at he
      exact absurd he moved
    · exact_mod_cast some
  have same : 0 ≤ (total : ℚ) * towardZero e := by
    have sign : 0 ≤ e * total := by
      rw [he, mul_exactCounts]
      exact mul_nonneg (by positivity) h.sign
    have product := mul_nonneg sign (mul_towardZero_nonneg e)
    rw [mul_mul_mul_comm] at product
    exact nonneg_of_mul_nonneg_right product (mul_self_pos.2 moved)
  have toward := abs_towardZero_le e
  have near := lt_abs_towardZero_add_one e
  have apart : |(total : ℚ) - towardZero e| = |(|(total : ℚ)| - |(towardZero e : ℚ)|)| := by
    obtain ⟨ht, hz⟩ | ⟨ht, hz⟩ := mul_nonneg_iff.1 same
    · rw [abs_of_nonneg ht, abs_of_nonneg hz]
    · rw [abs_of_nonpos ht, abs_of_nonpos hz, neg_sub_neg, abs_sub_comm]
  rw [apart, abs_le]
  constructor <;> linarith

/-- What rounding loses of less than `2 ^ 51` counts is no count. -/
theorem Totals.abs_sub_le_slices {v : ℤ} {x : ℚ} {n : ℕ} {total : ℤ} (h : Totals v x n total)
    (hx : 0 ≤ x) (small : |exactCounts v x| < 2 ^ 51) :
    |total - towardZero (exactCounts v x)| ≤ n := by
  have near := h.abs_sub_le hx
  have lost : |exactCounts v x| / 2 ^ 51 < 1 := (div_lt_one (by positivity)).2 small
  have less : |((total - towardZero (exactCounts v x) : ℤ) : ℚ)| < n + 1 := by
    push_cast
    linarith
  exact Int.lt_add_one_iff.1 (by exact_mod_cast less)

end DifferentialDrive
