import DifferentialDrive.Binary64.Scalar
import DifferentialDrive.Proofs.Order
import Mathlib

/-!
# The order of binary64

Every binary64 number has a rank: its sign and whether it is infinite, then its exponent, then its
significand. Comparison is the comparison of ranks, so it is a total preorder on all that is not
NaN.
-/

namespace DifferentialDrive.Binary64

open Float.Model Float.Model.UnpackedFloat

/-- Where a number stands; the two zeros stand in one place and NaN stands nowhere. -/
def rank : UnpackedFloat → Option (ℤ ×ₗ ℤ ×ₗ ℤ)
  | .notANumber => none
  | .infinity .negative => some (toLex (-2, toLex (0, 0)))
  | .finite .negative m e _ => some (toLex (-1, toLex (-e, -(m : ℤ))))
  | .zero _ => some (toLex (0, toLex (0, 0)))
  | .finite .positive m e _ => some (toLex (1, toLex (e, (m : ℤ))))
  | .infinity .positive => some (toLex (2, toLex (0, 0)))

theorem compare_then (e f : ℤ) (m n : ℕ) :
    (compare e f).then (compare m n) = cmp (toLex (e, (m : ℤ))) (toLex (f, (n : ℤ))) := by
  simp only [cmp, cmpUsing, Prod.Lex.toLex_lt_toLex, Int.compare_eq_ite_lt, Nat.compare_eq_ite_lt]
  split_ifs <;> first | rfl | omega

theorem cmp_same_sign (sign : ℤ) (r s : ℤ ×ₗ ℤ) :
    cmp (toLex (sign, r)) (toLex (sign, s)) = cmp r s := by
  simp [cmp, cmpUsing, Prod.Lex.toLex_lt_toLex]

theorem cmp_neg_neg (e f m n : ℤ) :
    cmp (toLex (-e, -m)) (toLex (-f, -n)) = cmp (toLex (f, n)) (toLex (e, m)) := by
  simp only [cmp, cmpUsing, Prod.Lex.toLex_lt_toLex]
  split_ifs <;> first | rfl | omega

/-- Comparison is that of ranks, and there is none with NaN. -/
theorem compare_eq_cmp_rank (x y : UnpackedFloat) :
    x.compare y = (rank x).bind fun r => (rank y).map fun s => cmp r s := by
  rcases x with (_ | _) | _ | _ | ⟨_ | _, m, e, _⟩ <;>
    rcases y with (_ | _) | _ | _ | ⟨_ | _, n, f, _⟩ <;>
    simp [UnpackedFloat.compare, rank, compare_then, cmp_same_sign, cmp_neg_neg] <;> rfl

/-- The rank of a machine number. -/
def place (x : Float) : Option (ℤ ×ₗ ℤ ×ₗ ℤ) := rank x.toModel.unpack

theorem isNaN_eq_false_iff (x : Float) : x.isNaN = false ↔ ∃ r, place x = some r := by
  change x.toModel.unpack.isNaN = false ↔ ∃ r, rank x.toModel.unpack = some r
  rcases x.toModel.unpack with (_ | _) | _ | _ | ⟨_ | _, _, _, _⟩ <;>
    simp [UnpackedFloat.isNaN, rank]

theorem le_iff_place (x y : Float) :
    x ≤ y ↔ ∃ r s, place x = some r ∧ place y = some s ∧ r ≤ s := by
  change decide (x.toModel.unpack.le y.toModel.unpack = true) = true ↔ _
  rw [decide_eq_true_iff, UnpackedFloat.le, compare_eq_cmp_rank, ← place, ← place]
  rcases place x with _ | r <;> rcases place y with _ | s <;> simp
  rcases lt_trichotomy r s with h | rfl | h
  · simp [(cmp_eq_lt_iff r s).2 h, h.le]
  · simp
  · simp [(cmp_eq_gt_iff r s).2 h, h]

theorem lt_iff_place (x y : Float) :
    x < y ↔ ∃ r s, place x = some r ∧ place y = some s ∧ r < s := by
  change decide (x.toModel.unpack.lt y.toModel.unpack = true) = true ↔ _
  rw [decide_eq_true_iff, UnpackedFloat.lt, compare_eq_cmp_rank, ← place, ← place]
  rcases place x with _ | r <;> rcases place y with _ | s <;> simp [cmp_eq_lt_iff]

instance : Scalar.Ordered Float where
  le_trans {a b c} hab hbc := by
    obtain ⟨r, s, hr, hs, hrs⟩ := (le_iff_place a b).1 hab
    obtain ⟨s', t, hs', ht, hst⟩ := (le_iff_place b c).1 hbc
    obtain rfl : s = s' := Option.some.inj (hs.symm.trans hs')
    exact (le_iff_place a c).2 ⟨r, t, hr, ht, hrs.trans hst⟩
  le_total {a b} ha hb := by
    obtain ⟨r, hr⟩ := (isNaN_eq_false_iff a).1 ha
    obtain ⟨s, hs⟩ := (isNaN_eq_false_iff b).1 hb
    rcases le_total r s with hrs | hsr
    · exact .inl ((le_iff_place a b).2 ⟨r, s, hr, hs, hrs⟩)
    · exact .inr ((le_iff_place b a).2 ⟨s, r, hs, hr, hsr⟩)
  lt_iff {a b} := by
    rw [lt_iff_place, le_iff_place, le_iff_place]
    constructor
    · rintro ⟨r, s, hr, hs, hrs⟩
      refine ⟨⟨r, s, hr, hs, hrs.le⟩, ?_⟩
      rintro ⟨s', r', hs', hr', hsr⟩
      obtain rfl : s = s' := Option.some.inj (hs.symm.trans hs')
      obtain rfl : r = r' := Option.some.inj (hr.symm.trans hr')
      exact hsr.not_gt hrs
    · rintro ⟨⟨r, s, hr, hs, -⟩, hba⟩
      exact ⟨r, s, hr, hs, lt_of_not_ge fun hsr => hba ⟨s, r, hs, hr, hsr⟩⟩

instance : Scalar.Reflexive Float where
  beq_self {a} number := by
    obtain ⟨r, here⟩ := (isNaN_eq_false_iff a).1 number
    change a.toModel.unpack.beq a.toModel.unpack = true
    rw [UnpackedFloat.beq, compare_eq_cmp_rank, ← place, here]
    simp

end DifferentialDrive.Binary64
