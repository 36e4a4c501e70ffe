import DifferentialDrive.Client
import DifferentialDrive.Proofs.Binary64.Increments

/-!
# The keepalives of a hold

A client sends a held speed, goes on by a keepalive and sends it again, until one more keepalive
would reach the end. Where that comes about is a number of keepalives, if it comes about
(`EndsAfter`), and what is sent on the way is the same for the client that goes there
(`keepSending_eq_some_iff`) and for the timeline that lists the instants (`holdStamps_eq_some_iff`).
-/

namespace DifferentialDrive

open Wire Scalar Binary64

/-! ## The end of a hold -/

section

variable {α : Type} [Scalar α] {t keepalive finish : α} {n m : Nat}

/-- The last command of a hold is the one sent `n` keepalives after the first. -/
structure EndsAfter (t keepalive finish : α) (n : Nat) : Prop where
  early : ∀ i < n, ¬ finish ≤ stepped t keepalive (i + 1)
  reached : finish ≤ stepped t keepalive (n + 1)

/-- The instants at which the commands of a hold are sent. -/
def instants (t keepalive : α) (n : Nat) : List α := (List.range (n + 1)).map (stepped t keepalive)

@[simp] theorem instants_zero (t keepalive : α) : instants t keepalive 0 = [t] := rfl

theorem instants_succ (t keepalive : α) (n : Nat) :
    instants t keepalive (n + 1) = t :: instants (t + keepalive) keepalive n := by
  rw [instants, List.range_succ_eq_map, List.map_cons, List.map_map, stepped_zero]
  exact congrArg _ (List.map_congr_left fun i _ => (stepped_add t keepalive i).symm)

namespace EndsAfter

theorem zero (h : finish ≤ t + keepalive) : EndsAfter t keepalive finish 0 :=
  ⟨fun i hi => absurd hi (Nat.not_lt_zero i), h⟩

theorem succ (early : ¬ finish ≤ t + keepalive) (h : EndsAfter (t + keepalive) keepalive finish n) :
    EndsAfter t keepalive finish (n + 1) := by
  refine ⟨fun i hi => ?_, ?_⟩
  · cases i with
    | zero => exact early
    | succ i =>
      rw [← stepped_add]
      exact h.early i (by omega)
  · rw [← stepped_add]
    exact h.reached

/-- A hold ends at once or goes on as one that begins a keepalive later. -/
theorem zero_or_succ (h : EndsAfter t keepalive finish n) :
    (n = 0 ∧ finish ≤ t + keepalive) ∨
      ∃ m, n = m + 1 ∧ ¬ finish ≤ t + keepalive ∧
        EndsAfter (t + keepalive) keepalive finish m := by
  cases n with
  | zero => exact .inl ⟨rfl, h.reached⟩
  | succ m =>
    refine .inr ⟨m, rfl, h.early 0 m.succ_pos, fun i hi => ?_, ?_⟩
    · rw [stepped_add]
      exact h.early (i + 1) (by omega)
    · rw [stepped_add]
      exact h.reached

end EndsAfter

/-- A hold ends if its end is ever reached. -/
theorem exists_endsAfter (h : ∃ n, finish ≤ stepped t keepalive (n + 1)) :
    ∃ n, EndsAfter t keepalive finish n := by
  classical
  exact ⟨Nat.find h, fun i hi => Nat.find_min h hi, Nat.find_spec h⟩

/-! ## The client -/

namespace Client

/-- The client that has sent the bytes of a hold. -/
def kept (c : Client α) (bytes : List UInt8) (n : Nat) : Client α :=
  { c with
    timeline.t := stepped c.timeline.t c.timeline.keepalive n
    sent := c.sent ++
      ((instants c.timeline.t c.timeline.keepalive n).map fun u => ⟨u, bytes⟩).toArray }

theorem kept_zero (c : Client α) (bytes : List UInt8) : c.kept bytes 0 = c.push bytes := by
  simp [kept, push]

theorem kept_succ (c : Client α) (bytes : List UInt8) (n : Nat) :
    ((c.push bytes).moveTo (c.timeline.t + c.timeline.keepalive)).kept bytes n =
      c.kept bytes (n + 1) := by
  simp [kept, push, moveTo, instants_succ, stepped_add]

/-- A client returns from a hold exactly if the end is reached, and then it has sent the speeds at
the instants before. -/
theorem keepSending_eq_some_iff {bytes : List UInt8} {finish : α} {c d : Client α} :
    keepSending bytes finish c = some d ↔
      ∃ n, EndsAfter c.timeline.t c.timeline.keepalive finish n ∧ d = c.kept bytes n := by
  constructor
  · refine keepSending.partial_correctness (fun bytes finish c d =>
      ∃ n, EndsAfter c.timeline.t c.timeline.keepalive finish n ∧ d = c.kept bytes n)
      ?_ bytes finish c d
    intro loop ih bytes finish c d result
    dsimp only at result
    split at result
    · next soon =>
      cases result
      exact ⟨0, .zero soon, (kept_zero c bytes).symm⟩
    · next early =>
      obtain ⟨n, ends, rfl⟩ := ih _ _ _ _ result
      exact ⟨n + 1, .succ early ends, kept_succ c bytes n⟩
  · rintro ⟨n, ends, rfl⟩
    induction n generalizing c with
    | zero =>
      obtain ⟨-, soon⟩ | ⟨m, same, -⟩ := ends.zero_or_succ
      · rw [keepSending, if_pos soon, kept_zero]
      · cases same
    | succ n ih =>
      obtain ⟨same, -⟩ | ⟨m, same, early, later⟩ := ends.zero_or_succ <;> cases same
      rw [keepSending, if_neg early, ← kept_succ]
      exact ih later

end Client

/-! ## The timeline -/

namespace Timeline

theorem endsAfter_of_holdStamps {fuel : Nat} {us : List α}
    (h : holdStamps keepalive finish fuel t = some us) :
    ∃ n, EndsAfter t keepalive finish n ∧ us = instants t keepalive n := by
  induction fuel generalizing t us with
  | zero => cases h
  | succ fuel ih =>
    rw [holdStamps] at h
    split_ifs at h with soon moves
    · cases h
      exact ⟨0, .zero soon, rfl⟩
    · obtain ⟨rest, found, rfl⟩ := Option.map_eq_some_iff.1 h
      obtain ⟨n, ends, rfl⟩ := ih found
      exact ⟨n + 1, .succ soon ends, (instants_succ t keepalive n).symm⟩

theorem holdStamps_of_endsAfter {fuel : Nat} (ends : EndsAfter t keepalive finish n)
    (moves : ∀ i < n, stepped t keepalive i < stepped t keepalive (i + 1)) (enough : n < fuel) :
    holdStamps keepalive finish fuel t = some (instants t keepalive n) := by
  induction fuel generalizing t n with
  | zero => exact absurd enough (Nat.not_lt_zero n)
  | succ fuel ih =>
    rw [holdStamps]
    obtain ⟨rfl, soon⟩ | ⟨m, rfl, early, later⟩ := ends.zero_or_succ
    · rw [if_pos soon, instants_zero]
    · have rest := ih later (fun i hi => by
        rw [stepped_add, stepped_add]
        exact moves (i + 1) (by omega)) (by omega)
      have first : t < t + keepalive := moves 0 m.succ_pos
      rw [if_neg early, if_pos first, rest, instants_succ]
      rfl

end Timeline

end

/-! ## Instants that are binary64 numbers -/

section

variable {t keepalive finish : Float} {n : Nat}

/-- No step of a hold that ends is lost. -/
theorem EndsAfter.rising (ends : EndsAfter t keepalive finish n)
    (kept : ¬ keepalive ≤ Scalar.zero) :
    ∀ i < n, stepped t keepalive i < stepped t keepalive (i + 1) := by
  intro i hi
  by_contra stays
  obtain ⟨m, rfl⟩ : ∃ m, n = i + m := ⟨n - i, by omega⟩
  have reached := ends.reached
  have number := (isNaN_of_le reached).2
  have positive : Scalar.zero < keepalive := by
    rw [stepped_succ] at number
    exact lt_of_not_le rfl (isNaN_of_add number).2 kept
  rw [Nat.add_assoc, ← stepped_stepped] at reached number
  rw [stepped_succ] at stays
  rw [stepped_of_stays positive stays number, ← stepped_succ] at reached
  exact ends.early i hi reached

/-- A timeline lists the instants of a hold exactly if its end is reached. -/
theorem Timeline.holdStamps_eq_some_iff (kept : ¬ keepalive ≤ Scalar.zero) {us : List Float} :
    holdStamps keepalive finish holdLimit t = some us ↔
      ∃ n, EndsAfter t keepalive finish n ∧ us = instants t keepalive n := by
  refine ⟨endsAfter_of_holdStamps, ?_⟩
  rintro ⟨n, ends, rfl⟩
  have rising := ends.rising kept
  exact holdStamps_of_endsAfter ends rising (lt_of_rising rising)

end

end DifferentialDrive
