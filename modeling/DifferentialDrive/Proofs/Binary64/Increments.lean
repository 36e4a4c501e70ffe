import DifferentialDrive.Proofs.Binary64.Arithmetic
import DifferentialDrive.Proofs.Binary64.Conversion

/-!
# Increments

One positive number is added to another again and again. The sum never goes down (`le_add`), once it
has not moved it never moves again (`stepped_of_stays`), and it moves only so many times, because
there are only so many numbers (`lt_of_rising`).
-/

namespace DifferentialDrive

/-- The number after `n` steps of width `k` from `t`, added one by one. -/
def Scalar.stepped {α : Type} [Add α] (t k : α) (n : ℕ) : α := (· + k)^[n] t

namespace Scalar

variable {α : Type} [Add α]

@[simp] theorem stepped_zero (t k : α) : stepped t k 0 = t := rfl

theorem stepped_succ (t k : α) (n : ℕ) : stepped t k (n + 1) = stepped t k n + k :=
  Function.iterate_succ_apply' _ n t

theorem stepped_add (t k : α) (n : ℕ) : stepped (t + k) k n = stepped t k (n + 1) :=
  (Function.iterate_succ_apply _ n t).symm

theorem stepped_stepped (t k : α) (m n : ℕ) :
    stepped (stepped t k m) k n = stepped t k (m + n) := by
  rw [Nat.add_comm]
  exact (Function.iterate_add_apply _ n m t).symm

end Scalar

namespace Binary64

open Float.Model Float.Model.UnpackedFloat Scalar

/-! ## Sums with numbers that are not finite -/

theorem isNaN_iff (x : Float) : x.isNaN = true ↔ x.toModel.unpack = .notANumber := by
  change x.toModel.unpack.isNaN = true ↔ _
  cases x.toModel.unpack <;> simp [UnpackedFloat.isNaN]

theorem infinite_or_finite {x : Float} (hx : x.isNaN = false) :
    (∃ s, x.toModel.unpack = .infinity s) ∨ x.isFinite = true := by
  rw [isFinite_iff]
  cases h : x.toModel.unpack with
  | infinity s => exact .inl ⟨s, rfl⟩
  | zero s => exact .inr (.inl ⟨s, rfl⟩)
  | finite s m e p => exact .inr (.inr ⟨s, m, e, p, rfl⟩)
  | notANumber => exact absurd (hx.symm.trans ((isNaN_iff x).2 h)) Bool.false_ne_true

/-- What a sum is unpacked to depends on what its terms are unpacked to. -/
theorem unpack_add (x y : Float) : (x + y).toModel.unpack =
    (Float.Model.pack (UnpackedFloat.add .binary64 x.toModel.unpack y.toModel.unpack)).unpack :=
  rfl

theorem unpack_pack_nan : (Float.Model.pack .notANumber).unpack = .notANumber := by rfl

theorem add_congr {x y : Float} (h : x.toModel.unpack = y.toModel.unpack) (k : Float) :
    x + k = y + k := by
  change Float.ofModel (Float.Model.pack
    (UnpackedFloat.add .binary64 x.toModel.unpack k.toModel.unpack)) = _
  rw [h]
  rfl

theorem isNaN_add_left {x : Float} (h : x.isNaN = true) (y : Float) : (x + y).isNaN = true := by
  rw [isNaN_iff] at h ⊢
  rw [unpack_add, h]
  exact unpack_pack_nan

theorem isNaN_add_right (x : Float) {y : Float} (h : y.isNaN = true) : (x + y).isNaN = true := by
  rw [isNaN_iff] at h ⊢
  rw [unpack_add, h]
  cases x.toModel.unpack <;> exact unpack_pack_nan

theorem isNaN_of_add {x y : Float} (h : (x + y).isNaN = false) :
    x.isNaN = false ∧ y.isNaN = false := by
  refine ⟨Bool.eq_false_iff.2 fun nan => ?_, Bool.eq_false_iff.2 fun nan => ?_⟩
  · exact Bool.eq_false_iff.1 h (isNaN_add_left nan y)
  · exact Bool.eq_false_iff.1 h (isNaN_add_right x nan)

theorem infinity_add {x y : Float} {s : Sign} (hx : x.toModel.unpack = .infinity s)
    (number : (x + y).isNaN = false) : (x + y).toModel.unpack = .infinity s := by
  have number := mt (isNaN_iff _).2 (Bool.eq_false_iff.1 number)
  rw [unpack_add, hx] at number ⊢
  cases h : y.toModel.unpack with
  | notANumber =>
    rw [h] at number
    exact absurd unpack_pack_nan number
  | zero | finite => exact unpack_pack_infinity s
  | infinity t =>
    rw [h] at number
    simp only [UnpackedFloat.add] at number ⊢
    split
    · exact unpack_pack_infinity s
    · next opposite =>
      rw [if_neg opposite] at number
      exact absurd unpack_pack_nan number

theorem add_infinity {x y : Float} {s : Sign} (hx : x.isFinite = true)
    (hy : y.toModel.unpack = .infinity s) : (x + y).toModel.unpack = .infinity s := by
  rw [unpack_add]
  obtain ⟨a, ha⟩ | ⟨a, m, e, p, ha⟩ := (isFinite_iff x).1 hx <;> rw [ha, hy] <;>
    exact unpack_pack_infinity s

theorem isFinite_zero : (Scalar.zero : Float).isFinite = true := rfl

theorem lt_infinity {x y : Float} (hx : x.isFinite = true)
    (hy : y.toModel.unpack = .infinity .positive) : x < y := by
  obtain ⟨r, hr, -, below⟩ := (isFinite_iff_place x).1 hx
  exact (lt_iff_place x y).2 ⟨r, _, hr, place_infinity hy, below⟩

theorem negative_infinity_lt {x y : Float} (hx : x.isFinite = true)
    (hy : y.toModel.unpack = .infinity .negative) : y < x := by
  obtain ⟨r, hr, above, -⟩ := (isFinite_iff_place x).1 hx
  exact (lt_iff_place y x).2 ⟨_, r, place_infinity hy, hr, above⟩

/-- The infinity that is not below zero. -/
theorem positive_of_le {x : Float} {s : Sign} (hx : x.toModel.unpack = .infinity s)
    (le : Scalar.zero ≤ x) : s = .positive := by
  cases s with
  | positive => rfl
  | negative => exact absurd (negative_infinity_lt isFinite_zero hx) (not_lt_of_le le)

/-- A sum with a number that is not below zero is not below the other. -/
theorem le_add {x d : Float} (notBelow : Scalar.zero ≤ d) (number : (x + d).isNaN = false) :
    x ≤ x + d := by
  obtain ⟨hx, hd⟩ := isNaN_of_add number
  obtain ⟨s, infinite⟩ | finite := infinite_or_finite hx
  · have sum := infinity_add infinite number
    cases s with
    | positive => exact le_infinity hx sum
    | negative => exact negative_infinity_le number infinite
  · obtain ⟨s, infinite⟩ | finite' := infinite_or_finite hd
    · obtain rfl := positive_of_le infinite notBelow
      exact le_infinity hx (add_infinity finite infinite)
    · have above : 0 ≤ value d := (le_iff_value isFinite_zero finite').1 notBelow
      exact (rounds_add finite finite').ge finite (by linarith)

theorem isNaN_infinite {x : Float} {s : Sign} (h : x.toModel.unpack = .infinity s) :
    x.isNaN = false := by
  refine Bool.eq_false_iff.2 fun nan => ?_
  rw [(isNaN_iff x).1 nan] at h
  cases h

/-- A sum is a number if one term is not below a finite number and the other not below zero. -/
theorem isNaN_add_of_le {x y d : Float} (finite : y.isFinite = true) (behind : y ≤ x)
    (notBelow : Scalar.zero ≤ d) : (x + d).isNaN = false := by
  obtain ⟨s, hx⟩ | hx := infinite_or_finite (isNaN_of_le behind).2
  · cases s with
    | negative => exact absurd (negative_infinity_lt finite hx) (not_lt_of_le behind)
    | positive =>
      refine isNaN_infinite (s := .positive) ?_
      rw [unpack_add, hx]
      obtain ⟨t, hd⟩ | hd := infinite_or_finite (isNaN_of_le notBelow).2
      · obtain rfl := positive_of_le hd notBelow
        rw [hd]
        exact unpack_pack_infinity _
      · obtain ⟨t, hd⟩ | ⟨t, m, e, p, hd⟩ := (isFinite_iff d).1 hd <;> rw [hd] <;>
          exact unpack_pack_infinity _
  · obtain ⟨s, hd⟩ | hd := infinite_or_finite (isNaN_of_le notBelow).2
    · exact isNaN_infinite (add_infinity hx hd)
    · exact (rounds_add hx hd).isNaN

/-! ## A sum that has not moved -/

theorem unpack_eq_of_value {x y : Float} (hx : x.isFinite = true) (hy : y.isFinite = true)
    (same : value x = value y) (nonzero : value x ≠ 0) : x.toModel.unpack = y.toModel.unpack := by
  obtain ⟨r, hr⟩ := exists_place hx
  obtain ⟨s, hs⟩ := exists_place hy
  obtain less | rfl | more := lt_trichotomy r s
  · exact absurd same (value_lt_of_place_lt hx hy hr hs less).ne
  · have some {z : Float} (h : value z ≠ 0) : ∃ t m e p, z.toModel.unpack = .finite t m e p := by
      unfold value at h
      cases hz : z.toModel.unpack with
      | finite t m e p => exact ⟨t, m, e, p, rfl⟩
      | infinity | notANumber | zero => simp [hz, worth] at h
    obtain ⟨a, m, e, p, ha⟩ := some nonzero
    obtain ⟨b, n, f, q, hb⟩ := some (same ▸ nonzero)
    have equal : rank (.finite a m e p) = rank (.finite b n f q) := by
      rw [← ha, ← hb]
      exact hr.trans hs.symm
    rw [ha, hb]
    cases a <;> cases b <;> simp [rank] at equal
    all_goals
      obtain ⟨rfl, rfl⟩ := equal
      rfl
  · exact absurd same.symm (value_lt_of_place_lt hy hx hs hr more).ne

/-- Once a step has not moved a number, the next does not move it either. -/
theorem add_stalled {x k : Float} (positive : Scalar.zero < k) (stays : ¬ x < x + k)
    (number : (x + k).isNaN = false) : x + k + k = x + k := by
  obtain ⟨hx, hk⟩ := isNaN_of_add number
  refine add_congr ?_ k
  obtain ⟨s, infinite⟩ | finite := infinite_or_finite hx
  · rw [infinity_add infinite number, infinite]
  · have up := le_add (Ordered.lt_iff.1 positive).1 number
    have down := le_of_not_lt hx number stays
    have finite' : (x + k).isFinite = true := isFinite_of_le_of_le finite finite up down
    have same : value (x + k) = value x :=
      le_antisymm ((le_iff_value finite' finite).1 down) ((le_iff_value finite finite').1 up)
    obtain ⟨s, infinite⟩ | finiteStep := infinite_or_finite hk
    · have := add_infinity finite infinite
      rw [isFinite_iff, this] at finite'
      simp at finite'
    · have above : 0 < value k := (lt_iff_value isFinite_zero finiteStep).1 positive
      refine unpack_eq_of_value finite' finite same fun none => ?_
      -- from zero every step is made as it is
      have exact := rounds_add finite finiteStep
      rw [← same, none, zero_add] at exact
      have := (exact.exact (grid_value k) (abs_value_lt finiteStep)).2
      linarith

/-! ## Many steps -/

theorem eq_of_toBits {x y : Float} (h : x.toModel.toBits = y.toModel.toBits) : x = y := by
  obtain ⟨⟨a, _⟩⟩ := x
  obtain ⟨⟨b, _⟩⟩ := y
  obtain rfl : a = b := h
  rfl

/-- Numbers that go up are at most as many as there are bits for. -/
theorem lt_of_rising {u : ℕ → Float} {n : ℕ} (rising : ∀ i < n, u i < u (i + 1)) :
    n < 2 ^ 64 := by
  have above {i : ℕ} (hi : i < n + 1) : ∀ j < i, u j < u i := by
    induction i with
    | zero => exact fun j hj => absurd hj (Nat.not_lt_zero j)
    | succ i ih =>
      have next : u i < u (i + 1) := rising i (by omega)
      intro j hj
      obtain rfl | before := (Nat.lt_succ_iff.1 hj).eq_or_lt
      · exact next
      · exact lt_of_lt_of_le (ih (by omega) j before) (Ordered.lt_iff.1 next).1
  have distinct : Function.Injective fun i : Fin (n + 1) => (u i).toModel.toBits.toFin := by
    intro i j same
    have same : u i = u j := eq_of_toBits (UInt64.toFin_inj.1 same)
    obtain before | rfl | after := lt_trichotomy i j
    · exact absurd (same ▸ above j.2 i before) (lt_irrefl _)
    · rfl
    · exact absurd (same ▸ above i.2 j after) (lt_irrefl _)
  have few := Fintype.card_le_of_injective _ distinct
  rw [Fintype.card_fin, Fintype.card_fin] at few
  exact few

variable {t k : Float} {n : ℕ}

theorem isNaN_of_stepped (number : (stepped t k n).isNaN = false) : t.isNaN = false := by
  induction n with
  | zero => exact number
  | succ n ih =>
    rw [stepped_succ] at number
    exact ih (isNaN_of_add number).1

theorem le_stepped (above : Scalar.zero ≤ k) (number : (stepped t k n).isNaN = false) :
    t ≤ stepped t k n := by
  induction n with
  | zero => exact le_self number
  | succ n ih =>
    rw [stepped_succ] at number ⊢
    exact Ordered.le_trans (ih (isNaN_of_add number).1) (le_add above number)

/-- Once a step has not been made, all later ones lead to the same number. -/
theorem stepped_of_stays (positive : Scalar.zero < k) (stays : ¬ t < t + k)
    (number : (stepped t k (n + 1)).isNaN = false) : stepped t k (n + 1) = t + k := by
  induction n with
  | zero => rfl
  | succ n ih =>
    rw [stepped_succ] at number ⊢
    have before := ih (isNaN_of_add number).1
    rw [before] at number ⊢
    exact add_stalled positive stays (isNaN_of_add number).1

end Binary64

end DifferentialDrive
