import DifferentialDrive.Proofs.Watch

/-!
# What one move does

A move that is not refused goes through the watch, the motion and its counts (`advance_ok`). What it
leaves of a robot is `Robot.Moved`, and the slice it notes says what the motion was
(`Leg.of_slice?`).
-/

namespace DifferentialDrive

open Wire Scalar

variable {α : Type} [Scalar α]

namespace Robot

/-- A move that is not refused: the watch, the motion and its counts. -/
theorem advance_ok {r a : Robot α} {limit : α} (h : r.advance limit = ⟨a, .ok ()⟩) :
    ∃ w t counts, r.watch = .ok w ∧ w.motion (later limit r.lastStep) = .ok t ∧
      w.counts t = .ok counts ∧
      a = ({ w with track := w.follow t } : Robot α).settle (later limit r.lastStep) counts := by
  unfold advance at h
  split at h
  · cases h
  · next w watched =>
    dsimp only at h
    split at h
    · cases h
    · next t moved =>
      split at h
      · cases h
      · next left right counted =>
        cases h
        exact ⟨w, t, (left, right), watched, moved, counted, rfl⟩

theorem advance_of_ok {r w : Robot α} {limit : α} {t : Travel α} {counts : Int × Int}
    (watched : r.watch = .ok w) (moved : w.motion (later limit r.lastStep) = .ok t)
    (counted : w.counts t = .ok counts) :
    r.advance limit =
      ⟨({ w with track := w.follow t } : Robot α).settle (later limit r.lastStep) counts,
        .ok ()⟩ := by
  have counted' : ({ w with track := w.follow t } : Robot α).counts t = .ok counts := counted
  simp only [advance, watched, moved, counted']
  rfl

theorem chassis_watch {r w : Robot α} (h : r.watch = .ok w) : w.chassis = r.chassis := by
  obtain ⟨-, rfl⟩ | ⟨-, rfl⟩ := watch_cases h <;> rfl

theorem lastStep_watch {r w : Robot α} (h : r.watch = .ok w) : w.lastStep = r.lastStep := by
  obtain ⟨-, rfl⟩ | ⟨-, rfl⟩ := watch_cases h <;> rfl

theorem counts_ok {r : Robot α} {t : Travel α} {n : Int × Int} (h : r.counts t = .ok n) :
    r.chassis.counts t.left = .ok n.1 ∧ r.chassis.counts t.right = .ok n.2 := by
  obtain ⟨left, first, h⟩ := ok_of_bind h
  obtain ⟨right, second, h⟩ := ok_of_bind h
  cases h
  exact ⟨first, second⟩

/-- A robot after a move that is not refused: the watch alone writes to the motors. -/
structure Moved (r : Robot α) (limit : α) (a : Robot α) : Prop where
  lastStep : a.lastStep = later limit r.lastStep
  queue : a.queue = r.queue
  chassis : a.chassis = r.chassis
  mode : a.registers.mode = r.registers.mode
  lastCommand : a.registers.lastCommand = r.registers.lastCommand
  drive : r.overdue = .ok false → a.registers.drive = r.registers.drive

/-- What is not overdue keeps its speeds and how they are read. -/
theorem Moved.speeds {r a : Robot α} {limit : α} (h : Moved r limit a)
    (early : r.overdue = .ok false) :
    a.registers.speed1 = r.registers.speed1 ∧ a.registers.speed2 = r.registers.speed2 ∧
      a.registers.decodeMode = r.registers.decodeMode := by
  obtain ⟨first, second, -, read, -⟩ := by simpa [Registers.drive] using h.drive early
  exact ⟨first, second, read⟩

theorem moved_of_advance {r a : Robot α} {limit : α} (h : r.advance limit = ⟨a, .ok ()⟩) :
    Moved r limit a := by
  obtain ⟨w, t, counts, watched, -, -, rfl⟩ := advance_ok h
  obtain ⟨-, rfl⟩ | ⟨late, rfl⟩ := watch_cases watched
  · exact ⟨rfl, rfl, rfl, rfl, rfl, fun _ => rfl⟩
  · exact ⟨rfl, rfl, rfl, rfl, rfl, fun early => by simp [late] at early⟩

/-- A robot after a command: it has moved to its time and been written to. -/
theorem moved_of_perform {r m : Robot α} {c : Command} {t : α}
    (h : r.perform c t = ⟨m, .ok ()⟩) :
    ∃ a, Moved r t a ∧ m.registers = a.registers.apply t c ∧ m.lastStep = a.lastStep ∧
      m.chassis = a.chassis := by
  obtain ⟨a, s, moved, executed, rfl⟩ := perform_ok h
  have effect := execute_effect executed
  exact ⟨a, moved_of_advance moved, effect.registers, effect.lastStep, effect.chassis⟩

end Robot

namespace Leg

/-- A robot that is not overdue turns its wheels as the registers say. -/
theorem units_of_early {l : Leg α} (early : l.robot.overdue = .ok false) :
    l.units = .ok l.robot.registers.units := by
  simp [units, Robot.watch, early, bind, Except.bind, pure, Except.pure]

/-- The motion of a leg, once the watch has looked at the motors. -/
def travel (l : Leg α) : Except (Fault α) (Travel α) := do
  (← l.robot.watch).motion (later l.limit l.robot.lastStep)

/-- The slice that a leg notes: where it begins and ends, the units its wheels turn at, and the
counts of the way that each wheel has made. -/
theorem of_slice? {l : Leg α} {first last : α} {turned counts : Int × Int} {point : α × α}
    (h : l.slice? = some (.moved first last turned point counts)) :
    first = l.robot.lastStep ∧ last = later l.limit l.robot.lastStep ∧ l.units = .ok turned ∧
      ∃ t, l.travel = .ok t ∧ l.robot.chassis.counts t.left = .ok counts.1 ∧
        l.robot.chassis.counts t.right = .ok counts.2 := by
  cases done : l.robot.advance l.limit with
  | mk a result =>
    cases result with
    | error f => simp [slice?, done] at h
    | ok _ =>
      obtain ⟨w, t, n, watched, moved, counted, rfl⟩ := Robot.advance_ok done
      simp only [slice?, done, Robot.journal_settle, Array.back?_push, Robot.slice,
        Option.some.injEq, Event.moved.injEq] at h
      obtain ⟨rfl, rfl, rfl, -, rfl⟩ := h
      refine ⟨Robot.lastStep_watch watched, rfl, ?_, t, ?_, ?_⟩
      · rw [units, watched]
        rfl
      · rw [travel, watched]
        exact moved
      · rw [← Robot.chassis_watch watched]
        exact Robot.counts_ok counted

end Leg

end DifferentialDrive
