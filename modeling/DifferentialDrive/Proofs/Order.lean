import DifferentialDrive.Scalar

/-!
# The order of instants

A scalar's comparisons are those of a machine, so an instant may be one that nothing compares
with. On all others they are a total preorder, and then what has arrived by one instant has
arrived by every later one.
-/

namespace DifferentialDrive.Scalar

/-- Comparison is a total preorder on the scalars that are numbers. -/
class Ordered (α : Type) [Scalar α] : Prop where
  le_trans {a b c : α} : a ≤ b → b ≤ c → a ≤ c
  le_total {a b : α} : isNaN a = false → isNaN b = false → a ≤ b ∨ b ≤ a
  lt_iff {a b : α} : a < b ↔ a ≤ b ∧ ¬ b ≤ a

/-- A scalar that is a number equals itself. -/
class Reflexive (α : Type) [Scalar α] : Prop where
  beq_self {a : α} : isNaN a = false → (a == a) = true

/-- Whatever has arrived by `earlier` has arrived by `later`. -/
def Covers {α : Type} [Scalar α] (later earlier : α) : Prop :=
  ∀ stamp : α, ¬ earlier < stamp → ¬ later < stamp

variable {α : Type} [Scalar α]

theorem Covers.refl (a : α) : Covers a a := fun _ h => h

theorem later_eq_or (a b : α) : later a b = a ∨ later a b = b := by
  unfold later
  split
  · exact .inr rfl
  · exact .inl rfl

theorem isNaN_later {a b : α} (ha : isNaN a = false) (hb : isNaN b = false) :
    isNaN (later a b) = false := by
  obtain same | same := later_eq_or a b <;> rwa [same]

/-- The latest of some instants, of which one is given apart. -/
def latest (first : α) (instants : List α) : α := instants.foldl (fun l t => later t l) first

@[simp] theorem latest_nil (first : α) : latest first [] = first := rfl

@[simp] theorem latest_singleton (first t : α) : latest first [t] = later t first := rfl

@[simp] theorem latest_append (first : α) (ts us : List α) :
    latest first (ts ++ us) = latest (latest first ts) us := by
  simp [latest]

theorem latest_mem (first : α) (ts : List α) : latest first ts ∈ first :: ts := by
  induction ts generalizing first with
  | nil => simp
  | cons t ts ih =>
    have rest : latest first (t :: ts) ∈ later t first :: ts := ih (later t first)
    obtain same | same := later_eq_or t first <;> rw [same] at rest
    · exact List.mem_cons_of_mem _ rest
    · obtain here | further := List.mem_cons.1 rest
      · exact List.mem_cons.2 (.inl here)
      · exact List.mem_cons_of_mem _ (List.mem_cons_of_mem _ further)

variable [Ordered α] {a b : α}

theorem not_lt_of_le (h : a ≤ b) : ¬ b < a := fun hlt => (Ordered.lt_iff.1 hlt).2 h

theorem lt_irrefl (a : α) : ¬ a < a := fun h => (Ordered.lt_iff.1 h).2 (Ordered.lt_iff.1 h).1

theorem lt_of_lt_of_le {c : α} (h : a < b) (hle : b ≤ c) : a < c := by
  obtain ⟨before, later⟩ := Ordered.lt_iff.1 h
  exact Ordered.lt_iff.2
    ⟨Ordered.le_trans before hle, fun back => later (Ordered.le_trans hle back)⟩

theorem lt_of_le_of_lt {c : α} (hle : a ≤ b) (h : b < c) : a < c := by
  obtain ⟨before, later⟩ := Ordered.lt_iff.1 h
  exact Ordered.lt_iff.2
    ⟨Ordered.le_trans hle before, fun back => later (Ordered.le_trans back hle)⟩

theorem le_of_not_lt (ha : isNaN a = false) (hb : isNaN b = false) (h : ¬ a < b) : b ≤ a := by
  obtain below | reached := Ordered.le_total ha hb
  · exact Classical.byContradiction fun above => h (Ordered.lt_iff.2 ⟨below, above⟩)
  · exact reached

theorem lt_of_not_le (ha : isNaN a = false) (hb : isNaN b = false) (h : ¬ b ≤ a) : a < b :=
  Ordered.lt_iff.2 ⟨(Ordered.le_total ha hb).resolve_right h, h⟩

theorem le_self (ha : isNaN a = false) : a ≤ a := (Ordered.le_total ha ha).elim id id

theorem later_of_le (h : b ≤ a) : later a b = a := if_neg (not_lt_of_le h)

theorem Covers.of_le (h : a ≤ b) : Covers b a := by
  intro stamp arrived late
  obtain ⟨hle, hnle⟩ := Ordered.lt_iff.1 late
  have reached : a ≤ stamp := Ordered.le_trans h hle
  have passed : stamp ≤ a :=
    Classical.byContradiction fun hna => arrived (Ordered.lt_iff.2 ⟨reached, hna⟩)
  exact hnle (Ordered.le_trans passed h)

theorem le_later (ha : isNaN a = false) (hb : isNaN b = false) : a ≤ later a b ∧ b ≤ later a b := by
  unfold later
  split
  · next h => exact ⟨(Ordered.lt_iff.1 h).1, le_self hb⟩
  · next h => exact ⟨le_self ha, le_of_not_lt ha hb h⟩

/-- None of the instants is after the latest, if all are numbers. -/
theorem le_latest {first : α} {ts : List α} (numbers : ∀ t ∈ first :: ts, isNaN t = false) :
    ∀ t ∈ first :: ts, t ≤ latest first ts := by
  induction ts generalizing first with
  | nil =>
    intro t ht
    obtain rfl : t = first := by simpa using ht
    exact le_self (numbers t ht)
  | cons u ts ih =>
    have hfirst := numbers first (by simp)
    have hu := numbers u (by simp)
    have hlater : isNaN (later u first) = false := isNaN_later hu hfirst
    have rest := @ih (later u first) (by
      intro t ht
      obtain rfl | ht := List.mem_cons.1 ht
      · exact hlater
      · exact numbers t (by simp [ht]))
    obtain ⟨hleft, hright⟩ := le_later hu hfirst
    have top := rest (later u first) (by simp)
    intro t ht
    obtain rfl | rfl | ht : t = first ∨ t = u ∨ t ∈ ts := by simpa using ht
    · exact Ordered.le_trans hright top
    · exact Ordered.le_trans hleft top
    · exact rest t (by simp [ht])

end DifferentialDrive.Scalar
