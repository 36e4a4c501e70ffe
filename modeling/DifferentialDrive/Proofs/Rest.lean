import DifferentialDrive.Binary64.Scalar
import DifferentialDrive.Proofs.Legs
import DifferentialDrive.Proofs.ModeLatch
import Mathlib.Control.Monad.Basic

/-!
# Robots at rest

A robot is put at rest when it is made and when the watch stops it, and until the next speed its
speed registers then hold the resting value of the mode they were written in (`resting_step`).
They are read in the last mode but one. So the robot stays at rest exactly if that mode has the
same resting value, or the watch stops the robot anew.
-/

namespace DifferentialDrive

open Wire Scalar

variable {α : Type}

/-- Speeds at the resting value of one mode are at rest in the modes with that value alone. -/
theorem wheelUnits_rest_iff (d m : Mode) :
    wheelUnits d m.rest.toNat m.rest.toNat = (0, 0) ↔ d.rest = m.rest := by
  cases d <;> cases m <;> decide

/-- Whether a robot is at rest after an event, from whether it was. -/
def Event.keepsRest (resting : Bool) : Event α → Bool
  | timedOut .. => true
  | executed c _ => resting && !c.writesSpeed
  | _ => resting

theorem Event.keepsRest_of_aside (resting : Bool) {e : Event α} (h : e.aside = true) :
    e.keepsRest resting = resting := by
  cases e <;> simp_all [Event.aside, keepsRest]

namespace Journal

/-- Whether no speed has been written since the robot was last put at rest. -/
def resting (j : Journal α) : Bool := j.toList.foldl Event.keepsRest true

@[simp] theorem resting_push (j : Journal α) (e : Event α) :
    resting (j.push e) = e.keepsRest j.resting := by
  simp [resting]

end Journal

/-- Whether the speed registers hold the resting value of a mode. -/
def Registers.AtRest (r : Registers α) (m : Mode) : Prop := r.speed1 = m.rest ∧ r.speed2 = m.rest

@[simp] theorem Registers.atRest_addCounts (r : Registers α) (a b : Int) (m : Mode) :
    (r.addCounts a b).AtRest m ↔ r.AtRest m := Iff.rfl

theorem Registers.AtRest.units {r : Registers α} {m : Mode} (h : r.AtRest m) :
    r.units = (0, 0) ↔ r.decodeMode.rest = m.rest := by
  rw [Registers.units, h.1, h.2, wheelUnits_rest_iff]

theorem ModeHistory.atSpeed_observe (h : ModeHistory) (t : α) {c : Command}
    (other : c.writesSpeed = false) : (h.observe (.executed c t)).atSpeed = h.atSpeed := by
  cases c with
  | speed1 | speed2 => simp [Command.writesSpeed] at other
  | mode code =>
    simp only [observe]
    cases Mode.ofCode? code.toNat <;> rfl
  | _ => rfl

variable [Scalar α]

theorem Registers.AtRest.apply {r : Registers α} {m : Mode} (h : r.AtRest m) (t : α) {c : Command}
    (other : c.writesSpeed = false) : (r.apply t c).AtRest m := by
  cases c with
  | speed1 | speed2 => simp [Command.writesSpeed] at other
  | mode code =>
    simp only [Registers.apply]
    cases Mode.ofCode? code.toNat <;> exact h
  | _ => exact h

namespace Robot

/-- A robot at rest has the resting speeds of the mode they were written in. -/
def Resting (r : Robot α) : Prop :=
  r.journal.resting = true → r.registers.AtRest r.journal.modes.atSpeed

theorem Effect.resting_eq {r s : Robot α} {c : Command} (h : Effect r c s) :
    s.journal.resting = r.journal.resting :=
  h.journal_eq fun _ _ aside => by simp [Event.keepsRest_of_aside _ aside]

/-- What the watch stops holds the resting value of the mode register, which is as the journal
tells; so the mode of reading is carried along. -/
theorem resting_step (r s : Robot α) (step : Step r s) (h : Latched r ∧ Resting r) :
    Latched s ∧ Resting s := by
  refine ⟨latched_step r s step h.1, ?_⟩
  obtain ⟨⟨mode, -⟩, resting⟩ := h
  intro still
  cases step with
  | work step =>
    cases step with
    | halt =>
      simp [Registers.AtRest, Registers.forceStop, Registers.setSpeed1, Registers.setSpeed2,
        ModeHistory.observe, ModeHistory.speed, mode]
    | @execute s now c rest found executed =>
      have effect := execute_effect executed
      obtain ⟨before, other⟩ : r.journal.resting = true ∧ c.writesSpeed = false := by
        simpa [Event.keepsRest, effect.resting_eq] using still
      simpa [effect.registers, effect.modes, ModeHistory.atSpeed_observe _ _ other]
        using (resting before).apply r.commandTime other
    | stray | unknown | settle =>
      have before : r.journal.resting = true := by simpa [slice, Event.keepsRest] using still
      simpa [slice, ModeHistory.observe] using resting before
    | follow | arrive => exact resting still
  | remark e aside =>
    have before : r.journal.resting = true := by
      simpa [Event.keepsRest_of_aside _ aside] using still
    simpa [ModeHistory.observe_of_aside _ aside] using resting before
  | resume =>
    have before : r.journal.resting = true := by simpa [Event.keepsRest] using still
    simpa [ModeHistory.observe] using resting before
  | receive | clear | drain | poke => exact resting still

end Robot

/-! ## Legs at rest -/

/-- What the wheels turn at in a leg: nothing if the watch stops the robot, and otherwise what the
registers say. -/
theorem Leg.units_eq {l : Leg α} {u : Int × Int} (h : l.units = .ok u) :
    (l.robot.overdue = .ok true ∧ u = (0, 0)) ∨
      (l.robot.overdue = .ok false ∧ u = l.robot.registers.units) := by
  obtain ⟨w, watched, h⟩ := ok_of_bind h
  cases h
  obtain ⟨late, rfl⟩ | ⟨late, rfl⟩ := Robot.watch_cases watched
  · exact .inr ⟨late, rfl⟩
  · exact .inl ⟨late, by simp⟩

/-- In every session on a fresh simulation, a leg that begins when no speed has been written since
the robot was last put at rest is gone through at rest exactly if the watch stops the robot anew or
the mode of reading has the resting value of the mode that the speeds were written in. At most one
mode written meanwhile leaves the robot at rest. -/
theorem Session.resting_legs (chassis : Chassis α) (arena : Arena α) (factor start : α)
    (timeout : Bool) (client : Timeline α) (keys : Keyboard) (world : World) (line : Bool)
    (socket : Option Socket) (actions : List (Session.Action α)) :
    let fresh : Session α :=
      ⟨⟨.initial chassis arena factor start timeout, world, line, socket⟩, client, keys⟩
    ∀ l ∈ fresh.legs actions, l.robot.journal.resting = true → ∀ u, l.units = .ok u →
      let h := l.robot.journal.modes
      (u = (0, 0) ↔ l.robot.overdue = .ok true ∨ h.lastButOne.rest = h.atSpeed.rest) ∧
        (h.since.length ≤ 1 → u = (0, 0)) := by
  intro fresh l hl still u hu h
  have before : Robot.Steps fresh.sim.robot l.robot := steps_legs hl
  obtain ⟨⟨-, decode⟩, resting⟩ :=
    kept_of_chain (P := fun r => r.Latched ∧ r.Resting) Robot.resting_step before
      ⟨⟨rfl, rfl⟩, fun _ => ⟨rfl, rfl⟩⟩
  have rest : u = (0, 0) ↔ l.robot.overdue = .ok true ∨ h.lastButOne.rest = h.atSpeed.rest := by
    obtain ⟨late, rfl⟩ | ⟨late, rfl⟩ := Leg.units_eq hu
    · simp [late]
    · rw [(resting still).units, decode, late]
      simp [h]
  refine ⟨rest, fun few => rest.2 (.inr ?_)⟩
  rw [h.lastButOne_eq_atSpeed_iff.2 (.inl few)]

/-- A robot that has not been driven is told a mode and then moved. -/
def Session.oneMode : List (Session.Action Float) :=
  [.start zero, .push [0, 0x34, 1] zero, .tick zero, .tick (ofInt 1)]

/-- It stays where it is. -/
theorem Session.resting_legs_oneMode :
    ∃ l ∈ (Session.standard : Session Float).legs oneMode,
      l.robot.lastStep < l.limit ∧ l.robot.registers.mode = .signed ∧ l.units = .ok (0, 0) := by
  obtain ⟨l, inside, onward, mode, still, few, moved⟩ :
      ∃ l ∈ (Session.standard : Session Float).legs oneMode,
        l.robot.lastStep < l.limit ∧ l.robot.registers.mode = .signed ∧
          l.robot.journal.resting = true ∧ l.robot.journal.modes.since.length ≤ 1 ∧
          l.units.isOk = true := by
    decide +kernel
  refine ⟨l, inside, onward, mode, ?_⟩
  cases turned : l.units with
  | error f => simp [turned, Except.isOk, Except.toBool] at moved
  | ok u =>
    have every := resting_legs .standard .standard (ofInt 1) zero true
      ⟨.standard, zero, ofInt 1, {}⟩ {} { machine := .looped } false none oneMode
    rw [(every l inside still u turned).2 few]

/-- Two modes in a row set a robot going that has not been driven. -/
theorem Session.two_modes_drive_resting_robot :
    ∃ l ∈ (Session.standard : Session Float).legs
        [.start zero, .push [0, 0x34, 1, 0, 0x34, 2] zero, .tick zero, .tick (ofInt 1)],
      l.robot.journal.resting = true ∧ l.robot.lastStep < l.limit ∧
        l.units = .ok (-128, -128) := by
  decide +kernel

end DifferentialDrive
