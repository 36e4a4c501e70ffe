import DifferentialDrive.Binary64.Scalar
import DifferentialDrive.Log
import DifferentialDrive.Proofs.Binary64.Order
import DifferentialDrive.Proofs.Legs

/-!
# The watch

The watch counts from the latest of the start of the simulation and the arrivals of the speed
commands executed since (`fed_step`): nothing else that happens feeds it. A leg that begins when
they have been out for too long is gone through at rest and leaves the robot timed out; any other
leg leaves the motors as they are. A stop is logged only if the robot was not timed out before, and
that it stays until a speed is written (`marked_step`).
-/

namespace DifferentialDrive

open Wire Scalar

variable {α : Type}

/-! ## What the journal tells -/

namespace Event

/-- Whether an event is a stop that is logged. -/
def isStopLine : Event α → Bool
  | timedOut _ first => first
  | _ => false

/-- Whether an event is the execution of a speed command. -/
def writesSpeed : Event α → Bool
  | executed c _ => c.writesSpeed
  | _ => false

/-- Whether an event is one or the other. -/
def isMark : Event α → Bool
  | timedOut _ first => first
  | executed c _ => c.writesSpeed
  | _ => false

theorem isMark_eq (e : Event α) : e.isMark = (e.isStopLine || e.writesSpeed) := by
  cases e <;> simp [isMark, isStopLine, writesSpeed]

@[simp] theorem isStopLine_timedOut (silence : α) (first : Bool) :
    (timedOut silence first).isStopLine = first := rfl

@[simp] theorem isStopLine_executed (c : Command) (t : α) :
    (executed c t).isStopLine = false := rfl

theorem isMark_of_aside {e : Event α} (h : e.aside = true) : e.isMark = false := by
  cases e <;> simp_all [Event.aside, isMark]

/-- The log says that the motors were stopped exactly where they are stopped first. -/
theorem isStopLine_iff_entry? (e : Event Float) :
    e.isStopLine = true ↔
      ∃ entry, e.entry? = some entry ∧ "motor timeout".toList <+: entry.text.toList := by
  cases e with
  | timedOut silence first =>
    cases first <;> simp [isStopLine, entry?, String.toList_append]
  | status => simp [isStopLine, entry?, statusText, String.toList_append]
  | _ => simp [isStopLine, entry?, String.toList_append, toString]

end Event

namespace Journal

/-- When the speed commands that were executed had arrived, in order. -/
def speedTimes (j : Journal α) : List α :=
  (j.executed.filter (·.1.writesSpeed)).map Prod.snd

@[simp] theorem speedTimes_push (j : Journal α) (e : Event α) :
    speedTimes (j.push e) =
      j.speedTimes ++ (e.command?.toList.filter (·.1.writesSpeed)).map Prod.snd := by
  simp [speedTimes]

/-- The stops that are logged and the speeds that are written, in order. -/
def marks (j : Journal α) : List (Event α) := j.toList.filter Event.isMark

@[simp] theorem marks_push (j : Journal α) (e : Event α) :
    marks (j.push e) = j.marks ++ if e.isMark then [e] else [] := by
  cases h : e.isMark <;> simp [marks, h]

/-- No logged stop comes right after another one. -/
def StopsApart (j : Journal α) : Prop :=
  j.marks.IsChain fun e f => e.isStopLine = true → f.isStopLine = false

/-- Between two logged stops a speed has been written. -/
theorem StopsApart.between {j : Journal α} (apart : StopsApart j) {a b c : List (Event α)}
    {e f : Event α} (split : j.toList = a ++ e :: (b ++ f :: c)) (he : e.isStopLine = true)
    (hf : f.isStopLine = true) : ∃ g ∈ b, g.writesSpeed = true := by
  have marked {g : Event α} (hg : g.isStopLine = true) : g.isMark = true := by
    simp [Event.isMark_eq, hg]
  rw [StopsApart, marks, split] at apart
  simp only [List.filter_append, List.filter_cons, marked he, marked hf, if_true] at apart
  have rest := apart.right_of_append
  cases between : b.filter Event.isMark with
  | nil =>
    rw [between, List.nil_append, List.isChain_cons_cons] at rest
    simp [rest.1 he] at hf
  | cons g gs =>
    rw [between, List.cons_append, List.isChain_cons_cons] at rest
    obtain ⟨inside, mark⟩ := List.mem_filter.1 (between ▸ List.mem_cons_self : g ∈ b.filter _)
    exact ⟨g, inside, by simpa [Event.isMark_eq, rest.1 he] using mark⟩

end Journal

namespace Registers

/-- What the motors turn by, and whether the watch has stopped them. -/
def drive (r : Registers α) : UInt8 × UInt8 × Mode × Mode × Bool :=
  (r.speed1, r.speed2, r.mode, r.decodeMode, r.timedOut)

@[simp] theorem drive_addCounts (r : Registers α) (a b : Int) :
    (r.addCounts a b).drive = r.drive := rfl

@[simp] theorem timedOut_addCounts (r : Registers α) (a b : Int) :
    (r.addCounts a b).timedOut = r.timedOut := rfl

@[simp] theorem lastCommand_addCounts (r : Registers α) (a b : Int) :
    (r.addCounts a b).lastCommand = r.lastCommand := rfl

@[simp] theorem timedOut_forceStop (r : Registers α) : r.forceStop.timedOut = true := rfl

@[simp] theorem lastCommand_forceStop (r : Registers α) :
    r.forceStop.lastCommand = r.lastCommand := rfl

end Registers

variable [Scalar α]

theorem Registers.lastCommand_apply (r : Registers α) (t : α) (c : Command) :
    (r.apply t c).lastCommand = if c.writesSpeed then later t r.lastCommand else r.lastCommand := by
  cases c with
  | mode code =>
    simp only [apply, Command.writesSpeed]
    cases Mode.ofCode? code.toNat <;> rfl
  | _ => rfl

theorem Registers.timedOut_apply (r : Registers α) (t : α) (c : Command) :
    (r.apply t c).timedOut = if c.writesSpeed then false else r.timedOut := by
  cases c with
  | mode code =>
    simp only [apply, Command.writesSpeed]
    cases Mode.ofCode? code.toNat <;> rfl
  | _ => rfl

/-! ## What one leg does -/

namespace Leg

/-- A leg that begins too late is gone through at rest, and the robot is timed out. -/
theorem rests_of_overdue {l : Leg α} (late : l.robot.overdue = .ok true) :
    l.units = .ok (0, 0) ∧ l.arrived.registers.timedOut = true := by
  have watched : l.robot.watch = .ok l.robot.halt := by
    simp [Robot.watch, late, bind, Except.bind, pure, Except.pure]
  refine ⟨by simp [units, watched, bind, Except.bind, pure, Except.pure], ?_⟩
  have slice := Robot.advance_slice l.robot l.limit
  unfold arrived
  generalize l.robot.advance l.limit = o at slice ⊢
  cases slice with
  | unwatched failed => simp [watched] at failed
  | unmoved hw | uncounted hw | settled hw =>
    obtain rfl : l.robot.halt = _ := Except.ok.inj (watched.symm.trans hw)
    rfl

/-- Any other leg leaves the motors as they are. -/
theorem drive_arrived {l : Leg α} (early : l.robot.overdue ≠ .ok true) :
    l.arrived.registers.drive = l.robot.registers.drive := by
  have slice := Robot.advance_slice l.robot l.limit
  unfold arrived
  generalize l.robot.advance l.limit = o at slice ⊢
  have untouched {w : Robot α} (hw : l.robot.watch = .ok w) : w = l.robot := by
    obtain ⟨-, same⟩ | ⟨late, -⟩ := Robot.watch_cases hw
    · exact same
    · exact absurd late early
  cases slice with
  | unwatched => rfl
  | unmoved hw | uncounted hw | settled hw => simp [untouched hw]

end Leg

namespace Robot

theorem overdue_eq_true_iff (r : Robot α) :
    r.overdue = .ok true ↔
      r.registers.timeout = true ∧
        r.chassis.motorTimeout.isBelow (r.lastStep - r.registers.lastCommand) = .ok true := by
  cases h : r.registers.timeout <;> simp [overdue, silence, h]

/-! ## What feeds the watch -/

theorem chassis_step (r s : Robot α) (step : Step r s) : s.chassis = r.chassis := by
  cases step with
  | work step =>
    cases step with
    | execute found executed => exact (execute_effect executed).chassis
    | _ => rfl
  | _ => rfl

/-- The watch counts from the latest of the given start and the arrivals of the speed commands. -/
def FedSince (start : α) (r : Robot α) : Prop :=
  r.registers.lastCommand = latest start r.journal.speedTimes

theorem Effect.speedTimes_eq {r s : Robot α} {c : Command} (h : Effect r c s) :
    s.journal.speedTimes = r.journal.speedTimes := by
  simp [Journal.speedTimes, h.executed_eq]

theorem fed_step {start : α} (r s : Robot α) (step : Step r s) (h : FedSince start r) :
    FedSince start s := by
  cases step with
  | work step =>
    cases step with
    | @execute s now c rest found executed =>
      have effect := execute_effect executed
      have fed : r.registers.lastCommand = latest start r.journal.speedTimes := h
      cases writes : c.writesSpeed <;>
        simp [FedSince, effect.registers, effect.speedTimes_eq, Event.command?,
          Registers.lastCommand_apply, writes, fed]
    | stray | unknown | halt | settle => simpa [FedSince, slice, Event.command?] using h
    | follow | arrive => exact h
  | remark e aside => simpa [FedSince, Event.command?_of_aside aside] using h
  | resume => simpa [FedSince, Event.command?] using h
  | receive | clear | drain | poke => exact h

/-! ## When a stop is logged -/

/-- Logged stops are apart, and none is the last mark unless the robot is timed out. -/
def Marked (r : Robot α) : Prop :=
  r.journal.StopsApart ∧
    (r.registers.timedOut = false → ∀ e ∈ r.journal.marks.getLast?, e.isStopLine = false)

theorem Effect.marks_eq {r s : Robot α} {c : Command} (h : Effect r c s) :
    s.journal.marks = r.journal.marks :=
  h.journal_eq fun _ _ aside => by simp [Event.isMark_of_aside aside]

omit [Scalar α] in
/-- What is no mark and leaves the watch alone keeps the marks as they are. -/
theorem Marked.of_marks_eq {r s : Robot α} (h : Marked r)
    (marks : s.journal.marks = r.journal.marks)
    (timedOut : s.registers.timedOut = r.registers.timedOut) : Marked s := by
  unfold Marked Journal.StopsApart at h ⊢
  rwa [marks, timedOut]

theorem marked_initial (chassis : Chassis α) (factor start : α) (timeout : Bool) :
    Marked (initial chassis factor start timeout) :=
  ⟨.nil, fun _ _ last => nomatch last⟩

theorem marked_step (r s : Robot α) (step : Step r s) (h : Marked r) : Marked s := by
  cases step with
  | work step =>
    cases step with
    | halt =>
      obtain ⟨apart, last⟩ := h
      refine ⟨?_, by simp⟩
      cases before : r.registers.timedOut with
      | true => simpa [Journal.StopsApart, Event.isMark, before] using apart
      | false =>
        simpa [Journal.StopsApart, Event.isMark, before, List.isChain_append]
          using ⟨apart, last before⟩
    | @execute s now c rest found executed =>
      have effect := execute_effect executed
      cases writes : c.writesSpeed with
      | true =>
        have apart := h.1
        simpa [Marked, Journal.StopsApart, effect.marks_eq, Event.isMark, writes,
          List.isChain_append] using apart
      | false =>
        refine h.of_marks_eq ?_ ?_
        · simp [effect.marks_eq, Event.isMark, writes]
        · simp [effect.registers, Registers.timedOut_apply, writes]
    | stray | unknown | settle => exact h.of_marks_eq (by simp [slice, Event.isMark]) rfl
    | follow | arrive => exact h
  | remark e aside => exact h.of_marks_eq (by simp [Event.isMark_of_aside aside]) rfl
  | resume => exact h.of_marks_eq (by simp [Event.isMark]) rfl
  | receive | clear | drain | poke => exact h

end Robot

/-! ## Every session -/

/-- In every session on a fresh simulation, the slices of motion are those of the legs. A leg that
begins more than the motor timeout after the latest of the start and the arrivals of the speed
commands executed by then is gone through at rest and leaves the robot timed out, if the watch is
on; any other leg leaves the motors as they are. At the end too the watch counts from the latest of
these instants, and between two stops that are logged a speed has been written. -/
theorem Session.silent_legs_rest [Ordered α] (chassis : Chassis α) (arena : Arena α)
    (factor start : α) (timeout : Bool) (client : Timeline α) (keys : Keyboard)
    (world : World) (line : Bool) (socket : Option Socket) (actions : List (Session.Action α)) :
    let fresh : Session α :=
      ⟨⟨.initial chassis arena factor start timeout, world, line, socket⟩, client, keys⟩
    let final := (fresh.after actions).sim.robot
    final.journal.slices = (fresh.legs actions).filterMap Leg.slice? ∧
      (∀ l ∈ fresh.legs actions,
        let r := l.robot
        let fed := start :: r.journal.speedTimes
        let last := latest start r.journal.speedTimes
        let silent := r.registers.timeout = true ∧
          chassis.motorTimeout.isBelow (r.lastStep - last) = .ok true
        ((∀ t ∈ fed, isNaN t = false) → last ∈ fed ∧ ∀ t ∈ fed, t ≤ last) ∧
          (silent → l.units = .ok (0, 0) ∧ l.arrived.registers.timedOut = true) ∧
          (¬ silent → l.arrived.registers.drive = r.registers.drive)) ∧
      final.registers.lastCommand = latest start final.journal.speedTimes ∧
      ∀ a e b f c, final.journal.toList = a ++ e :: (b ++ f :: c) → e.isStopLine = true →
        f.isStopLine = true → ∃ g ∈ b, g.writesSpeed = true := by
  intro fresh final
  have steps : Robot.Steps fresh.sim.robot final := Session.steps_after fresh actions
  refine ⟨fresh.slices_after actions, ?_, kept_of_chain Robot.fed_step steps rfl, ?_⟩
  · intro l hl r fed last silent
    have before : Robot.Steps fresh.sim.robot r := Session.steps_legs hl
    have since : r.registers.lastCommand = last := kept_of_chain Robot.fed_step before rfl
    have same : r.chassis = chassis :=
      kept_of_chain (fun r s step h => (Robot.chassis_step r s step).trans h) before rfl
    have overdue : r.overdue = .ok true ↔ silent := by
      rw [Robot.overdue_eq_true_iff, since, same]
    refine ⟨fun numbers => ⟨latest_mem _ _, le_latest numbers⟩, ?_, ?_⟩
    · intro late
      exact Leg.rests_of_overdue (overdue.2 late)
    · intro early
      exact Leg.drive_arrived fun late => early (overdue.1 late)
  · intro a e b f c split he hf
    have marked : Robot.Marked final :=
      kept_of_chain Robot.marked_step steps (Robot.marked_initial ..)
    exact marked.1.between split he hf

/-- The motors are set going and then left alone. -/
def Session.leftAlone : List (Session.Action Float) :=
  [.start zero, .push [0, 0x31, 228, 0, 0x32, 228] zero, .tick (ofInt 3), .tick (ofInt 4)]

/-- Three seconds later they are found silent. -/
theorem Session.silent_legs_rest_leftAlone :
    ∃ l ∈ (Session.standard : Session Float).legs leftAlone,
      l.robot.registers.units = (100, 100) ∧ l.units = .ok (0, 0) ∧
        l.arrived.registers.timedOut = true := by
  obtain ⟨l, inside, driven, late⟩ : ∃ l ∈ (Session.standard : Session Float).legs leftAlone,
      l.robot.registers.units = (100, 100) ∧ l.robot.registers.timeout = true ∧
        (Chassis.standard : Chassis Float).motorTimeout.isBelow
          (l.robot.lastStep - latest zero l.robot.journal.speedTimes) = .ok true := by
    decide +kernel
  have every := silent_legs_rest .standard .standard (ofInt 1) zero true
    ⟨.standard, zero, ofInt 1, {}⟩ {} { machine := .looped } false none leftAlone
  exact ⟨l, inside, driven, (every.2.1 l inside).2.1 late⟩

end DifferentialDrive
