import DifferentialDrive.Binary64.Scalar
import DifferentialDrive.Proofs.Sessions

/-!
# The mode in which speeds are read

The journal tells which mode the mode register had when a speed register was last written, and
which modes have been written since. A mode written on its own moves the mode of reading to the
mode it replaces, so the speeds are read in the last mode but one of these (`latched_step`). They
are read as they were written as long as that is the mode they were written in.
-/

namespace DifferentialDrive

open Wire

variable {α : Type}

/-- The mode register over time: its value when a speed register was last written, and the modes
written since. -/
structure ModeHistory where
  atSpeed : Mode
  since : List Mode
  deriving Repr, DecidableEq

namespace ModeHistory

/-- The mode the register has now. -/
def current (h : ModeHistory) : Mode := h.since.getLastD h.atSpeed

/-- The last mode but one, if a mode has been written since. -/
def lastButOne (h : ModeHistory) : Mode := h.since.dropLast.getLastD h.atSpeed

/-- A speed register is written. -/
def speed (h : ModeHistory) : ModeHistory := ⟨h.current, []⟩

def mode (h : ModeHistory) (m : Mode) : ModeHistory := { h with since := h.since ++ [m] }

@[simp] theorem current_speed (h : ModeHistory) : h.speed.current = h.current := rfl

@[simp] theorem lastButOne_speed (h : ModeHistory) : h.speed.lastButOne = h.current := rfl

@[simp] theorem current_mode (h : ModeHistory) (m : Mode) : (h.mode m).current = m := by
  simp [current, mode]

@[simp] theorem lastButOne_mode (h : ModeHistory) (m : Mode) :
    (h.mode m).lastButOne = h.current := by
  simp [lastButOne, current, mode]

theorem lastButOne_eq_atSpeed_iff (h : ModeHistory) :
    h.lastButOne = h.atSpeed ↔
      h.since.length ≤ 1 ∨ h.since.dropLast.getLast? = some h.atSpeed := by
  rw [lastButOne, List.getLastD_eq_getLast?]
  have length := h.since.length_dropLast
  cases last : h.since.dropLast.getLast? with
  | none =>
    rw [List.getLast?_eq_none_iff.1 last] at length
    simpa using (by simp at length; omega : h.since.length ≤ 1)
  | some m =>
    have long : 0 < h.since.dropLast.length := List.length_pos_of_mem (List.mem_of_getLast? last)
    simp
    omega

/-- The history with one more event. A stop by the watch writes both speed registers. -/
def observe (h : ModeHistory) : Event α → ModeHistory
  | .executed (.speed1 _) _ | .executed (.speed2 _) _ | .timedOut .. => h.speed
  | .executed (.mode code) _ => (Mode.ofCode? code.toNat).elim h h.mode
  | _ => h

theorem observe_of_aside (h : ModeHistory) {e : Event α} (aside : e.aside = true) :
    h.observe e = h := by
  cases e <;> simp_all [Event.aside, observe]

end ModeHistory

/-- The history of the mode register that a journal tells. -/
def Journal.modes (j : Journal α) : ModeHistory :=
  j.toList.foldl ModeHistory.observe ⟨.centred, []⟩

@[simp] theorem Journal.modes_push (j : Journal α) (e : Event α) :
    Journal.modes (j.push e) = j.modes.observe e := by
  simp [Journal.modes]

@[simp] theorem Registers.mode_forceStop (r : Registers α) : r.forceStop.mode = r.mode := rfl

@[simp] theorem Registers.decodeMode_forceStop (r : Registers α) :
    r.forceStop.decodeMode = r.mode := rfl

variable [Scalar α]

namespace Robot

/-- The mode registers are as the journal tells. -/
def Latched (r : Robot α) : Prop :=
  r.registers.mode = r.journal.modes.current ∧
    r.registers.decodeMode = r.journal.modes.lastButOne

theorem Effect.modes {r s : Robot α} {c : Command} (h : Effect r c s) :
    s.journal.modes = r.journal.modes :=
  h.journal_eq fun _ _ aside => by simp [ModeHistory.observe_of_aside _ aside]

theorem latched_execute {r : Robot α} (h : Latched r) (c : Command) (t : α) :
    (r.registers.apply t c).mode = (r.journal.modes.observe (.executed c t)).current ∧
      (r.registers.apply t c).decodeMode =
        (r.journal.modes.observe (.executed c t)).lastButOne := by
  obtain ⟨mode, decode⟩ := h
  cases c with
  | speed1 v | speed2 v => exact ⟨mode, mode⟩
  | mode code =>
    cases known : Mode.ofCode? code.toNat with
    | none => simpa [Registers.apply, ModeHistory.observe, known] using ⟨mode, decode⟩
    | some m => simp [Registers.apply, Registers.setMode, ModeHistory.observe, known, mode]
  | _ => exact ⟨mode, decode⟩

theorem latched_step (r s : Robot α) (step : Step r s) (h : Latched r) : Latched s := by
  cases step with
  | work step =>
    cases step with
    | halt => exact ⟨by simpa [ModeHistory.observe] using h.1,
        by simpa [ModeHistory.observe] using h.1⟩
    | @execute s now c rest found executed =>
      have effect := execute_effect executed
      have written := latched_execute h c r.commandTime
      simpa [Latched, effect.registers, effect.modes] using written
    | stray | unknown => simpa [Latched, ModeHistory.observe] using h
    | settle => simpa [Latched, slice, Registers.addCounts, ModeHistory.observe] using h
    | follow | arrive => exact h
  | remark e aside => simpa [Latched, ModeHistory.observe_of_aside _ aside] using h
  | resume => simpa [Latched, ModeHistory.observe] using h
  | receive | clear | drain | poke => exact h

end Robot

/-- In every session on a fresh simulation the speeds are read in the last mode but one: in the
mode they were written in exactly if at most one mode has been written since, or the last but one
of these is that mode again. -/
theorem decodeMode_eq_lastButOne (chassis : Chassis α) (arena : Arena α) (factor start : α)
    (timeout : Bool) (client : Timeline α) (keys : Keyboard) (world : World) (line : Bool)
    (socket : Option Socket) (actions : List (Session.Action α)) :
    let fresh : Session α :=
      ⟨⟨.initial chassis arena factor start timeout, world, line, socket⟩, client, keys⟩
    let r := (fresh.after actions).sim.robot
    let h := r.journal.modes
    r.registers.mode = h.current ∧
      r.registers.decodeMode = h.lastButOne ∧
      (r.registers.decodeMode = h.atSpeed ↔
        h.since.length ≤ 1 ∨ h.since.dropLast.getLast? = some h.atSpeed) := by
  intro fresh r h
  have latched : Robot.Latched r :=
    kept_of_chain Robot.latched_step (Session.steps_after _ actions) ⟨rfl, rfl⟩
  obtain ⟨mode, decode⟩ := latched
  refine ⟨mode, decode, ?_⟩
  rw [decode]
  exact h.lastButOne_eq_atSpeed_iff

/-- Two modes in a row make the resting speeds full speed backward. -/
theorem two_modes_reread_speeds :
    let r := ((Session.standard : Session Float).after
      [.start Scalar.zero, .push [0, 0x34, 1, 0, 0x34, 2] Scalar.zero,
        .tick Scalar.zero]).sim.robot
    r.journal.modes.atSpeed = .centred ∧ r.registers.decodeMode = .signed ∧
      r.registers.units = (-128, -128) := by
  decide +kernel

end DifferentialDrive
