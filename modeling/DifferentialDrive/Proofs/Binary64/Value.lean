import DifferentialDrive.Proofs.Binary64.Near
import DifferentialDrive.Proofs.Binary64.Order

/-!
# What a binary64 number is

The bits of a number read as a sign, a significand and an exponent, the rational these are, and the
comparison of numbers as that of rationals.
-/

namespace DifferentialDrive.Binary64

open Float.Model Float.Model.UnpackedFloat

/-! ## Fields -/

theorem finite_congr {s : Sign} {m n : ℕ} {e f : ℤ} {p : 0 < m} {q : 0 < n} (hm : m = n)
    (he : e = f) : UnpackedFloat.finite s m e p = .finite s n f q := by
  subst hm he
  rfl

/-- What a sign, the field of the exponent and the fraction say. -/
def ofFields (sign : Sign) (field fraction : ℕ) : UnpackedFloat :=
  if field = 2047 then if fraction = 0 then .infinity sign else .notANumber
  else if field = 0 then
    if h : fraction = 0 then .zero sign else .finite sign fraction (-1074) (Nat.pos_of_ne_zero h)
  else .finite sign (2 ^ 52 + fraction) ((field : ℤ) - 1075) (by positivity)

theorem toNat_one_append (m : BitVec 52) : (1#1 ++ m).toNat = 2 ^ 52 + m.toNat := by
  rw [BitVec.toNat_append, ← Nat.shiftLeft_add_eq_or_of_lt m.isLt]
  rfl

theorem unpack_eq_ofFields (b : BitVec 64) :
    UnpackedFloat.unpack .binary64 b =
      ofFields (Sign.ofBitVec (@unpackSign .binary64 b))
        (@unpackExponent .binary64 b).toNat
        (@unpackMantissa .binary64 b).toNat := by
  have top : (-1#11).toNat = 2047 := rfl
  have least : (0#11).toNat = 0 := rfl
  have none : (0#52).toNat = 0 := rfl
  simp only [UnpackedFloat.unpack, ofFields, ← BitVec.toNat_inj, top, least, none]
  generalize Sign.ofBitVec (@unpackSign .binary64 b) = s
  split_ifs with infinite _ subnormal
  case pos | neg | pos => rfl
  · exact finite_congr rfl (by rw [subnormal]; rfl)
  · exact finite_congr (toNat_one_append _) rfl

@[simp] theorem unpack_packComponents (s : Sign) (e : BitVec 11) (m : BitVec 52) :
    UnpackedFloat.unpack .binary64 (packComponents .binary64 s e m) =
      ofFields s e.toNat m.toNat := by
  rw [unpack_eq_ofFields, unpackSign_packComponents, Sign.ofBitVec_toBitVec,
    unpackExponent_packComponents, unpackMantissa_packComponents]

theorem toNat_unpackExponent (b : BitVec 64) :
    (@unpackExponent .binary64 b).toNat = b.toNat / 2 ^ 52 % 2 ^ 11 := by
  simp [unpackExponent, BitVec.extractLsb_toNat, Nat.shiftRight_eq_div_pow]

theorem toNat_unpackMantissa (b : BitVec 64) :
    (@unpackMantissa .binary64 b).toNat = b.toNat % 2 ^ 52 := by
  simp [unpackMantissa, BitVec.extractLsb_toNat]

theorem toNat_unpackSign (b : BitVec 64) :
    (@unpackSign .binary64 b).toNat = b.toNat / 2 ^ 63 := by
  have := b.isLt
  simp [unpackSign, BitVec.extractLsb_toNat, Nat.shiftRight_eq_div_pow]
  omega

/-- The sign that a bit or the comparison with zero gives. -/
def signOf (negative : Bool) : Sign := if negative then .negative else .positive

theorem ofBitVec_unpackSign (b : BitVec 64) :
    Sign.ofBitVec (@unpackSign .binary64 b) = signOf (b.toNat / 2 ^ 63 == 1) := by
  have := b.isLt
  have split : b.toNat / 2 ^ 63 = 0 ∨ b.toNat / 2 ^ 63 = 1 := by omega
  have zero : @unpackSign .binary64 b = 0#1 ↔ b.toNat / 2 ^ 63 = 0 := by
    rw [← BitVec.toNat_inj, toNat_unpackSign]
    rfl
  simp only [Sign.ofBitVec, zero]
  obtain h | h := split <;> simp only [h] <;> rfl

/-- The fields of the bits, as numbers. -/
theorem unpack_eq (b : BitVec 64) :
    UnpackedFloat.unpack .binary64 b =
      ofFields (signOf (b.toNat / 2 ^ 63 == 1)) (b.toNat / 2 ^ 52 % 2 ^ 11) (b.toNat % 2 ^ 52) := by
  rw [unpack_eq_ofFields, ofBitVec_unpackSign, toNat_unpackExponent, toNat_unpackMantissa]

/-! ## Significand and exponent -/

/-- The significand and the exponent that the bits of a number have for it. -/
structure Canonical (m : ℕ) (e : ℤ) : Prop where
  lt : m < 2 ^ 53
  least : -1074 ≤ e
  leading : 2 ^ 52 ≤ m ∨ e = -1074

/-- The leading bit of a full significand is not in the fraction; it counts in the field of the
exponent. -/
theorem ofFields_of_canonical {s : Sign} {m : ℕ} {e : ℤ} (h : Canonical m e) (fits : e ≤ 971)
    (p : 0 < m) :
    ofFields s ((e + 1074).toNat + m / 2 ^ 52) (m % 2 ^ 52) = .finite s m e p := by
  obtain ⟨lt, least, leading⟩ := h
  unfold ofFields
  rw [if_neg (by omega)]
  by_cases full : 2 ^ 52 ≤ m
  · rw [if_neg (by omega)]
    exact finite_congr (by omega) (by omega)
  · rw [if_pos (by omega), dif_neg (by omega)]
    exact finite_congr (by omega) (by omega)

theorem canonical_of_ofFields {s t : Sign} {field fraction m : ℕ} {e : ℤ} {p : 0 < m}
    (hfield : field < 2 ^ 11) (hfraction : fraction < 2 ^ 52)
    (h : ofFields s field fraction = .finite t m e p) : Canonical m e ∧ e ≤ 971 := by
  unfold ofFields at h
  split_ifs at h
  all_goals
    obtain ⟨rfl, rfl, rfl⟩ := UnpackedFloat.finite.inj h
    exact ⟨⟨by omega, by omega, by omega⟩, by omega⟩

theorem canonical_of_unpack {x : Float} {s : Sign} {m : ℕ} {e : ℤ} {p : 0 < m}
    (h : x.toModel.unpack = .finite s m e p) : Canonical m e ∧ e ≤ 971 := by
  rw [Float.Model.unpack, unpack_eq_ofFields] at h
  exact canonical_of_ofFields (BitVec.isLt _) (BitVec.isLt _) h

/-! ## Packing -/

theorem unpack_pack_finite (s : Sign) {m : ℕ} {e : ℤ} (p : 0 < m) (h : Canonical m e)
    (fits : e ≤ 971) : (Float.Model.pack (.finite s m e p)).unpack = .finite s m e p := by
  have canonical := h
  obtain ⟨lt, least, leading⟩ := h
  have bias : e + ((Format.binary64.exponentBias : ℕ) : ℤ) + ((52 : ℕ) : ℤ) = e + 1075 := by
    change e + 1023 + 52 = e + 1075
    omega
  change UnpackedFloat.unpack .binary64 (UnpackedFloat.pack .binary64 (.finite s m e p)) = _
  refine Eq.trans ?_ (ofFields_of_canonical canonical fits p)
  simp only [UnpackedFloat.pack, bias]
  rw [if_neg (by omega)]
  by_cases full : 2 ^ 52 ≤ m
  · have log : m.log2 = 52 := (Nat.log2_eq_iff p.ne').2 ⟨full, lt⟩
    rw [if_pos (by rw [log]; rfl), unpack_packComponents, BitVec.toNat_ofNat, BitVec.toNat_ofNat]
    congr 1
    omega
  · have log : m.log2 < 52 := (Nat.log2_lt p.ne').2 (by omega)
    rw [if_neg (by change m.log2 + 1 ≠ 53; omega), unpack_packComponents, BitVec.toNat_ofNat,
      BitVec.toNat_ofNat]
    congr 1
    omega

theorem unpack_pack_overflow (s : Sign) {m : ℕ} {e : ℤ} (p : 0 < m) (large : 972 ≤ e) :
    (Float.Model.pack (.finite s m e p)).unpack = .infinity s := by
  have top : 2 ^ 11 ≤ (e + 1023 + 52).toNat + 1 := by omega
  have same : UnpackedFloat.pack .binary64 (.finite s m e p) = packedInfinity .binary64 s :=
    if_pos top
  change UnpackedFloat.unpack .binary64 (UnpackedFloat.pack .binary64 (.finite s m e p)) = _
  rw [same, packedInfinity, unpack_packComponents]
  rfl

theorem unpack_pack_infinity (s : Sign) :
    (Float.Model.pack (.infinity s)).unpack = .infinity s := by
  cases s <;> rfl

/-! ## Value -/

/-- What a finite number is; the others are nothing. -/
def worth : UnpackedFloat → ℚ
  | .finite s m e _ => (s.apply m : ℤ) * 2 ^ e
  | _ => 0

/-- The rational a machine number is. -/
def value (x : Float) : ℚ := worth x.toModel.unpack

/-- `x` is the machine number for `q`, which is out of range from `2 ^ 1024` on. -/
inductive Holds (x : Float) (q : ℚ) : Prop
  | finite (h : x.isFinite = true) (same : value x = q)
  | above (h : x.toModel.unpack = .infinity .positive) (large : 2 ^ 1024 ≤ q)
  | below (h : x.toModel.unpack = .infinity .negative) (large : q ≤ -2 ^ 1024)

theorem isFinite_iff (x : Float) :
    x.isFinite = true ↔
      (∃ s, x.toModel.unpack = .zero s) ∨ ∃ s m e p, x.toModel.unpack = .finite s m e p := by
  change x.toModel.unpack.isFinite = true ↔ _
  rcases x.toModel.unpack with _ | _ | _ | ⟨_, _, _, p⟩ <;> simp [UnpackedFloat.isFinite]
  exact p

theorem isFinite_eq (x : Float) : x.isFinite = (!x.isNaN && !x.isInf) := by
  change x.toModel.unpack.isFinite = (!x.toModel.unpack.isNaN && !x.toModel.unpack.isInf)
  cases x.toModel.unpack <;> rfl

theorem lt_range {q : ℚ} (h : q ≤ 2 ^ 53) : q < 2 ^ 1024 :=
  h.trans_lt (pow_lt_pow_right₀ (by norm_num) (by norm_num))

theorem Canonical.worth_lt {m : ℕ} {e : ℤ} (h : Canonical m e) (fits : e ≤ 971) :
    (m : ℚ) * 2 ^ e < 2 ^ 1024 := by
  have whole : (m : ℚ) < 2 ^ 53 := by exact_mod_cast h.lt
  have power : (2 : ℚ) ^ e ≤ 2 ^ (971 : ℤ) := zpow_le_zpow_right₀ (by norm_num) fits
  calc (m : ℚ) * 2 ^ e < 2 ^ 53 * 2 ^ e := by gcongr
    _ ≤ 2 ^ 53 * 2 ^ (971 : ℤ) := by gcongr
    _ = 2 ^ 1024 := by
      rw [← zpow_natCast, ← zpow_natCast, ← zpow_add₀ two_ne_zero]
      rfl

theorem Canonical.worth_ge {m : ℕ} {e : ℤ} (h : Canonical m e) (large : 972 ≤ e) :
    2 ^ 1024 ≤ (m : ℚ) * 2 ^ e := by
  have whole : (2 : ℚ) ^ 52 ≤ m := by exact_mod_cast h.leading.resolve_right (by omega)
  have power : (2 : ℚ) ^ (972 : ℤ) ≤ 2 ^ e := zpow_le_zpow_right₀ (by norm_num) large
  calc (2 : ℚ) ^ 1024
    _ = 2 ^ 52 * 2 ^ (972 : ℤ) := by
      rw [← zpow_natCast, ← zpow_natCast, ← zpow_add₀ two_ne_zero]
      rfl
    _ ≤ m * 2 ^ e := by gcongr

/-- Packing keeps what the bits have room for and makes the rest infinite. -/
theorem holds_pack (s : Sign) {m : ℕ} {e : ℤ} (p : 0 < m) (h : Canonical m e) :
    Holds (.ofModel (Float.Model.pack (.finite s m e p))) ((s.apply m : ℤ) * 2 ^ e) := by
  obtain fits | large : e ≤ 971 ∨ 972 ≤ e := by omega
  · have same := unpack_pack_finite s p h fits
    exact .finite ((isFinite_iff _).2 (.inr ⟨s, m, e, p, same⟩)) (by rw [value, same]; rfl)
  · have same := unpack_pack_overflow s p large
    have beyond := h.worth_ge large
    cases s with
    | positive => exact .above same (by exact_mod_cast beyond)
    | negative =>
      refine .below same ?_
      rw [Sign.apply, Int.cast_neg, neg_mul]
      exact neg_le_neg (by exact_mod_cast beyond)

theorem holds_zero (s : Sign) : Holds (.ofModel (Float.Model.pack (.zero s))) 0 := by
  have same : (Float.Model.pack (.zero s)).unpack = .zero s := unpack_packedZero
  exact .finite ((isFinite_iff _).2 (.inl ⟨s, same⟩)) (by rw [value, same]; rfl)

theorem abs_value_lt {x : Float} (h : x.isFinite = true) : |value x| < 2 ^ 1024 := by
  obtain ⟨s, hs⟩ | ⟨s, m, e, p, hs⟩ := (isFinite_iff x).1 h
  · simp [value, hs, worth]
  · obtain ⟨canonical, fits⟩ := canonical_of_unpack hs
    have positive : (0 : ℚ) ≤ m * 2 ^ e := by positivity
    have less := canonical.worth_lt fits
    cases s <;> simpa [value, hs, worth, Sign.apply, abs_mul] using less

theorem grid_value (x : Float) : Grid (value x) := by
  have none : Grid 0 := ⟨0, 0, by simp, by simp, by simp⟩
  unfold value
  cases h : x.toModel.unpack with
  | finite s m e p =>
    obtain ⟨⟨lt, least, -⟩, -⟩ := canonical_of_unpack h
    exact ⟨s.apply m, e, rfl, by cases s <;> simp [Sign.apply] <;> omega, least⟩
  | infinity | notANumber | zero => exact none

/-! ## Order -/

theorem Canonical.worth_lt_worth {m n : ℕ} {e f : ℤ} (hm : Canonical m e) (hn : Canonical n f)
    (h : toLex (e, (m : ℤ)) < toLex (f, (n : ℤ))) : (m : ℚ) * 2 ^ e < n * 2 ^ f := by
  obtain lower | ⟨rfl, less⟩ := Prod.Lex.toLex_lt_toLex.1 h
  · have whole : (m : ℚ) < 2 ^ 53 := by exact_mod_cast hm.lt
    have full : (2 : ℚ) ^ 52 ≤ n := by
      have := hm.least
      exact_mod_cast hn.leading.resolve_right (by omega)
    have power : (2 : ℚ) ^ e ≤ 2 ^ (f - 1) := zpow_le_zpow_right₀ (by norm_num) (by omega)
    calc (m : ℚ) * 2 ^ e < 2 ^ 53 * 2 ^ e := by gcongr
      _ ≤ 2 ^ 53 * 2 ^ (f - 1) := by gcongr
      _ = 2 ^ 52 * 2 ^ f := by rw [zpow_sub_one₀ two_ne_zero]; ring
      _ ≤ n * 2 ^ f := by gcongr
  · have : (m : ℚ) < n := Nat.cast_lt.2 (Int.ofNat_lt.1 less)
    gcongr

theorem lt_of_neg_lt_neg {e f m n : ℤ} (h : toLex (-e, -m) < toLex (-f, -n)) :
    toLex (f, n) < toLex (e, m) := by
  rw [Prod.Lex.toLex_lt_toLex] at h ⊢
  dsimp only at h ⊢
  omega

/-- Of two finite numbers the one of lower rank is the less. -/
theorem value_lt_of_place_lt {x y : Float} (hx : x.isFinite = true) (hy : y.isFinite = true)
    {r s : ℤ ×ₗ ℤ ×ₗ ℤ} (hr : place x = some r) (hs : place y = some s) (h : r < s) :
    value x < value y := by
  have positive {m : ℕ} (e : ℤ) (p : 0 < m) : (0 : ℚ) < m * 2 ^ e := by positivity
  obtain ⟨a, ha⟩ | ⟨a, m, e, p, ha⟩ := (isFinite_iff x).1 hx <;>
    obtain ⟨b, hb⟩ | ⟨b, n, f, q, hb⟩ := (isFinite_iff y).1 hy <;>
    rw [place, ha] at hr <;> rw [place, hb] at hs <;>
    simp only [value, ha, hb, worth]
  · obtain rfl : r = s := Option.some.inj (hr.symm.trans hs)
    exact absurd h (lt_irrefl r)
  · have above := positive f q
    cases b <;> obtain ⟨rfl⟩ := hr <;> obtain ⟨rfl⟩ := hs <;>
      simp [Prod.Lex.toLex_lt_toLex, Sign.apply] at h ⊢
    exact above
  · have above := positive e p
    cases a <;> obtain ⟨rfl⟩ := hr <;> obtain ⟨rfl⟩ := hs <;>
      simp [Prod.Lex.toLex_lt_toLex, Sign.apply] at h ⊢
    exact above
  · have hm := (canonical_of_unpack ha).1
    have hn := (canonical_of_unpack hb).1
    have above := positive e p
    have above' := positive f q
    cases a <;> cases b <;> obtain ⟨rfl⟩ := hr <;> obtain ⟨rfl⟩ := hs <;>
      rw [Prod.Lex.toLex_lt_toLex] at h <;> simp [Sign.apply] at h ⊢
    · exact hn.worth_lt_worth hm (lt_of_neg_lt_neg h)
    · linarith
    · exact hm.worth_lt_worth hn h

/-- The value can be read off the rank. -/
theorem worth_eq_of_rank {u : UnpackedFloat} {r : ℤ ×ₗ ℤ ×ₗ ℤ} (h : rank u = some r) :
    worth u = (ofLex (ofLex r).2).2 * 2 ^ ((ofLex r).1 * (ofLex (ofLex r).2).1) := by
  rcases u with (_ | _) | _ | _ | ⟨_ | _, n, f, _⟩ <;> obtain ⟨rfl⟩ := h <;>
    simp [worth, Sign.apply]

theorem exists_place {x : Float} (h : x.isFinite = true) : ∃ r, place x = some r := by
  obtain ⟨s, hs⟩ | ⟨s, m, e, p, hs⟩ := (isFinite_iff x).1 h <;> cases s <;>
    exact ⟨_, by rw [place, hs]; rfl⟩

theorem isNaN_of_isFinite {x : Float} (h : x.isFinite = true) : x.isNaN = false :=
  (isNaN_eq_false_iff x).2 (exists_place h)

theorem le_iff_value {x y : Float} (hx : x.isFinite = true) (hy : y.isFinite = true) :
    x ≤ y ↔ value x ≤ value y := by
  obtain ⟨r, hr⟩ := exists_place hx
  obtain ⟨s, hs⟩ := exists_place hy
  rw [le_iff_place]
  constructor
  · rintro ⟨r', s', hr', hs', le⟩
    obtain rfl | less := le.eq_or_lt
    · rw [value, value, worth_eq_of_rank hr', worth_eq_of_rank hs']
    · exact (value_lt_of_place_lt hx hy hr' hs' less).le
  · intro le
    refine ⟨r, s, hr, hs, le_of_not_gt fun less => ?_⟩
    exact (value_lt_of_place_lt hy hx hs hr less).not_ge le

theorem lt_iff_value {x y : Float} (hx : x.isFinite = true) (hy : y.isFinite = true) :
    x < y ↔ value x < value y := by
  rw [Scalar.Ordered.lt_iff, le_iff_value hx hy, le_iff_value hy hx, ← lt_iff_le_not_ge]

theorem place_infinity {x : Float} {s : Sign} (h : x.toModel.unpack = .infinity s) :
    place x = rank (.infinity s) := by rw [place, h]

theorem rank_between {u : UnpackedFloat} {r : ℤ ×ₗ ℤ ×ₗ ℤ} (h : rank u = some r) :
    toLex (-2, toLex (0, 0)) ≤ r ∧ r ≤ toLex (2, toLex (0, 0)) := by
  rcases u with (_ | _) | _ | _ | ⟨_ | _, _, _, _⟩ <;> obtain ⟨rfl⟩ := h <;>
    simp [Prod.Lex.toLex_le_toLex]

theorem le_infinity {x y : Float} (hx : x.isNaN = false)
    (hy : y.toModel.unpack = .infinity .positive) : x ≤ y := by
  obtain ⟨r, hr⟩ := (isNaN_eq_false_iff x).1 hx
  exact (le_iff_place x y).2 ⟨r, _, hr, place_infinity hy, (rank_between hr).2⟩

theorem negative_infinity_le {x y : Float} (hx : x.isNaN = false)
    (hy : y.toModel.unpack = .infinity .negative) : y ≤ x := by
  obtain ⟨r, hr⟩ := (isNaN_eq_false_iff x).1 hx
  exact (le_iff_place y x).2 ⟨_, r, place_infinity hy, hr, (rank_between hr).1⟩

theorem isFinite_iff_place (x : Float) :
    x.isFinite = true ↔
      ∃ r, place x = some r ∧ toLex (-2, toLex (0, 0)) < r ∧ r < toLex (2, toLex (0, 0)) := by
  change x.toModel.unpack.isFinite = true ↔ ∃ r, rank x.toModel.unpack = some r ∧ _
  rcases x.toModel.unpack with (_ | _) | _ | _ | ⟨_ | _, _, _, p⟩ <;>
    simp [UnpackedFloat.isFinite, rank, Prod.Lex.toLex_lt_toLex]

/-- What lies between finite numbers is finite. -/
theorem isFinite_of_le_of_le {x y z : Float} (hx : x.isFinite = true) (hz : z.isFinite = true)
    (above : x ≤ y) (below : y ≤ z) : y.isFinite = true := by
  obtain ⟨r, hr, low, -⟩ := (isFinite_iff_place x).1 hx
  obtain ⟨t, ht, -, high⟩ := (isFinite_iff_place z).1 hz
  obtain ⟨r', s, hr', hs, le⟩ := (le_iff_place x y).1 above
  obtain ⟨s', t', hs', ht', le'⟩ := (le_iff_place y z).1 below
  obtain rfl : r = r' := Option.some.inj (hr.symm.trans hr')
  obtain rfl : s = s' := Option.some.inj (hs.symm.trans hs')
  obtain rfl : t = t' := Option.some.inj (ht.symm.trans ht')
  exact (isFinite_iff_place y).2 ⟨s, hs, low.trans_le le, le'.trans_lt high⟩

/-- What is not less than a finite number and less than any number at all is finite. -/
theorem isFinite_of_le_of_lt {x y z : Float} (hx : x.isFinite = true) (above : x ≤ y)
    (below : y < z) : y.isFinite = true := by
  obtain ⟨r, hr, low, -⟩ := (isFinite_iff_place x).1 hx
  obtain ⟨r', s, hr', hs, le⟩ := (le_iff_place x y).1 above
  obtain ⟨s', t, hs', ht, lt⟩ := (lt_iff_place y z).1 below
  obtain rfl : r = r' := Option.some.inj (hr.symm.trans hr')
  obtain rfl : s = s' := Option.some.inj (hs.symm.trans hs')
  exact (isFinite_iff_place y).2 ⟨s, hs, low.trans_le le, lt.trans_le (rank_between ht).2⟩

/-- What is not less than a finite number and not finite is above all numbers. -/
theorem le_of_not_isFinite {x y z : Float} (hx : x.isNaN = false) (hz : z.isFinite = true)
    (above : z ≤ y) (hy : y.isFinite = false) : x ≤ y := by
  obtain ⟨r, hr⟩ := (isNaN_eq_false_iff x).1 hx
  obtain ⟨t, ht, low, -⟩ := (isFinite_iff_place z).1 hz
  obtain ⟨t', s, ht', hs, le⟩ := (le_iff_place z y).1 above
  obtain rfl : t = t' := Option.some.inj (ht.symm.trans ht')
  refine (le_iff_place x y).2 ⟨r, s, hr, hs, (rank_between hr).2.trans (le_of_not_gt fun lt => ?_)⟩
  rw [(isFinite_iff_place y).2 ⟨s, hs, low.trans_le le, lt⟩] at hy
  cases hy

theorem isNaN_of_le {x y : Float} (h : x ≤ y) : x.isNaN = false ∧ y.isNaN = false := by
  obtain ⟨r, s, hr, hs, -⟩ := (le_iff_place x y).1 h
  exact ⟨(isNaN_eq_false_iff x).2 ⟨r, hr⟩, (isNaN_eq_false_iff y).2 ⟨s, hs⟩⟩

/-! ## The machine number for a rational -/

variable {x y : Float} {q : ℚ}

theorem Holds.isNaN (h : Holds x q) : x.isNaN = false := by
  cases h with
  | finite h _ => exact isNaN_of_isFinite h
  | above h _ | below h _ =>
    change x.toModel.unpack.isNaN = false
    rw [h]
    rfl

theorem Holds.ge (h : Holds x q) (hy : y.isFinite = true) (le : value y ≤ q) : y ≤ x := by
  cases h with
  | finite hx same => exact (le_iff_value hy hx).2 (same ▸ le)
  | above hx _ => exact le_infinity (isNaN_of_isFinite hy) hx
  | below _ large => exact absurd (le.trans large) (abs_lt.1 (abs_value_lt hy)).1.not_ge

theorem Holds.le (h : Holds x q) (hy : y.isFinite = true) (ge : q ≤ value y) : x ≤ y := by
  cases h with
  | finite hx same => exact (le_iff_value hx hy).2 (same ▸ ge)
  | above _ large => exact absurd (large.trans ge) (abs_lt.1 (abs_value_lt hy)).2.not_ge
  | below hx _ => exact negative_infinity_le (isNaN_of_isFinite hy) hx

theorem Holds.value_eq (h : Holds x q) (hx : x.isFinite = true) : value x = q := by
  cases h with
  | finite _ same => exact same
  | above h _ | below h _ =>
    change x.toModel.unpack.isFinite = true at hx
    rw [h] at hx
    cases hx

theorem Holds.isFinite (h : Holds x q) (small : |q| < 2 ^ 1024) : x.isFinite = true := by
  obtain ⟨lower, upper⟩ := abs_lt.1 small
  cases h with
  | finite h _ => exact h
  | above _ large => exact absurd large upper.not_ge
  | below _ large => exact absurd large lower.not_ge

end DifferentialDrive.Binary64
