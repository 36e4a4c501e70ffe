import DifferentialDrive.Proofs.Binary64.Reach
import DifferentialDrive.Proofs.Calls

/-!
# Holds without end

Nothing a client checks rules out that a hold has no end. The cursor goes on by a keepalive at a
time and is rounded at each, so beyond a distance from zero it stands still, and with a cursor, a
keepalive or a duration that is no number it compares with nothing. Where a hold does end is known
before it begins (`move_returns_iff`): its end is one keepalive away, or within the reach of the
keepalive.
-/

namespace DifferentialDrive.Client

open Wire Scalar
open Binary64 hiding ofInt

section

variable {c : Client Float} {call : Call Float} {seconds : Float} {wheel1 wheel2 : Int}

theorem act_of_negative (moves : c.timeline.move? call = some (.ok seconds, wheel1, wheel2))
    (negative : seconds < Scalar.zero) :
    c.act call = some ⟨c, .error (.negative "seconds" seconds)⟩ := by
  have refused : Timeline.nonNegative "seconds" seconds = .error (.negative "seconds" seconds) :=
    if_pos negative
  rw [act, work_of_move? moves]
  change Option.map _ ((silent (hold seconds wheel1 wheel2)).run.run c) = _
  simp only [hold, silent_bind, refused]
  rfl

variable (moves : c.timeline.move? call = some (.ok seconds, wheel1, wheel2))
  (notNegative : ¬ seconds < Scalar.zero) (first : -128 ≤ wheel1 ∧ wheel1 ≤ 127)
  (second : -128 ≤ wheel2 ∧ wheel2 ≤ 127)
include moves notNegative first second

theorem act_eq_ok_iff : (∃ d, c.act call = some ⟨d, .ok []⟩) ↔
    ∃ n, c.timeline.t + seconds ≤ stepped c.timeline.t c.timeline.keepalive (n + 1) := by
  constructor
  · rintro ⟨d, acted⟩
    obtain ⟨n, ends, -⟩ := (act_of_move? moves notNegative first second).1 acted
    exact ⟨n, ends.reached⟩
  · intro reached
    obtain ⟨n, ends⟩ := exists_endsAfter reached
    exact ⟨_, (act_of_move? moves notNegative first second).2 ⟨n, ends, rfl⟩⟩

theorem act_eq_none_iff : c.act call = none ↔ ¬ ∃ d, c.act call = some ⟨d, .ok []⟩ := by
  cases acted : c.act call with
  | none => simp
  | some o =>
    obtain ⟨n, -, rfl⟩ := (act_of_move? moves notNegative first second).1 acted
    simp

end

/-- A move that comes to a negative time is refused. Any other returns if its end is one keepalive
away, or else within the reach of the keepalive, and if not it never returns. -/
theorem move_returns_iff {c : Client Float} (kept : ¬ c.timeline.keepalive ≤ Scalar.zero)
    {call : Call Float} {seconds : Float} {wheel1 wheel2 : Int}
    (moves : c.timeline.move? call = some (.ok seconds, wheel1, wheel2))
    (first : -128 ≤ wheel1 ∧ wheel1 ≤ 127) (second : -128 ≤ wheel2 ∧ wheel2 ≤ 127) :
    (seconds < Scalar.zero → c.act call = some ⟨c, .error (.negative "seconds" seconds)⟩) ∧
      (¬ seconds < Scalar.zero →
        ((∃ d, c.act call = some ⟨d, .ok []⟩) ↔
          c.timeline.t + seconds ≤ c.timeline.t + c.timeline.keepalive ∨
            (-reach c.timeline.keepalive ≤ c.timeline.t + c.timeline.keepalive ∧
              c.timeline.t + seconds ≤ reach c.timeline.keepalive)) ∧
        (c.act call = none ↔ ¬ ∃ d, c.act call = some ⟨d, .ok []⟩)) := by
  refine ⟨act_of_negative moves, fun notNegative => ⟨?_, ?_⟩⟩
  · rw [act_eq_ok_iff moves notNegative first second, exists_reached_iff kept]
  · exact act_eq_none_iff moves notNegative first second

/-- Holds of two and a half seconds end, also late. -/
theorem move_returns_iff_halfHour :
    let c : Client Float := { timeline := ⟨.standard, ofInt 1800, ofInt 1, {}⟩ }
    ∃ d, c.act (.holdSeconds (ofInt 5 / ofInt 2) 100 (-100)) = some ⟨d, .ok []⟩ := by
  intro c
  have asks : c.timeline.move? (.holdSeconds (ofInt 5 / ofInt 2) 100 (-100)) =
      some (.ok (ofInt 5 / ofInt 2), 100, -100) := rfl
  have ends := move_returns_iff (by decide +kernel) asks (by decide) (by decide)
  exact (ends.2 (by decide +kernel)).1.2 (.inr (by decide +kernel))

/-- At ten to the sixteenth a keepalive of one second is rounded away. -/
theorem hold_without_end :
    ∃ tl, Timeline.create .standard (ofInt (10 ^ 16)) (ofInt 1) = .ok tl ∧
      ({ timeline := tl } : Client Float).act (.holdSeconds (ofInt 4) 0 0) = none := by
  have kept : ¬ (ofInt 1 : Float) ≤ Scalar.zero := by decide +kernel
  refine ⟨⟨.standard, ofInt (10 ^ 16), ofInt 1, {}⟩, if_neg kept, ?_⟩
  have accepted : ¬ (ofInt 4 : Float) < Scalar.zero := by decide +kernel
  rw [act_eq_none_iff rfl accepted (by decide) (by decide),
    act_eq_ok_iff rfl accepted (by decide) (by decide), exists_reached_iff kept]
  decide +kernel

end DifferentialDrive.Client
