import DifferentialDrive.Binary64.Scalar
import DifferentialDrive.Proofs.Moves
import DifferentialDrive.Proofs.Readings
import Mathlib.Algebra.BigOperators.Group.List.Basic
import Mathlib.Algebra.Group.Int.Defs
import Mathlib.Algebra.Group.Prod
import Mathlib.Data.List.DropRight

/-!
# The odometer

The encoders are 32-bit counters. What they would be without that bound is the odometer: the sum of
the counts of all slices since the encoders were last reset, read off the journal
(`Journal.odometer`). Every step keeps the encoders at the odometer wrapped (`counting_turn`), for
wrapping a sum does not ask how often it was wrapped before. The counts of a slice are those of the
way each wheel has made (`Leg.of_slice?`).
-/

namespace DifferentialDrive

open Wire Scalar

variable {α : Type}

/-! ## The counts in a history -/

namespace Event

/-- The encoder counts of a slice of motion. -/
def counts? : Event α → Option (Int × Int)
  | moved _ _ _ _ counts => some counts
  | _ => none

/-- Whether an event is the execution of a reset of the encoders. -/
def resets : Event α → Bool
  | executed .resetEncoders _ => true
  | _ => false

theorem counts?_of_aside {e : Event α} (h : e.aside = true) : e.counts? = none := by
  cases e <;> simp_all [aside, counts?]

theorem resets_of_aside {e : Event α} (h : e.aside = true) : e.resets = false := by
  cases e <;> simp_all [aside, resets]

@[simp] theorem resets_executed (c : Command) (t : α) :
    (executed c t).resets = decide (c = .resetEncoders) := by
  cases c <;> simp [resets]

end Event

namespace Journal

/-- What has happened since the encoders were last reset, or ever. -/
def sinceReset (j : Journal α) : List (Event α) := j.toList.rtakeWhile fun e => !e.resets

/-- The counts of all slices since the encoders were last reset. -/
def odometer (j : Journal α) : Int × Int := (j.sinceReset.filterMap Event.counts?).sum

theorem odometer_push (j : Journal α) (e : Event α) :
    odometer (j.push e) = if e.resets then 0 else j.odometer + e.counts?.getD 0 := by
  unfold odometer sinceReset
  rw [Array.toList_push, List.rtakeWhile_concat]
  cases e.resets <;> cases h : e.counts? <;> simp [h]

/-- An event that is neither a slice nor a reset is not counted. -/
theorem odometer_push_other (j : Journal α) {e : Event α} (slice : e.counts? = none)
    (other : e.resets = false) : odometer (j.push e) = j.odometer := by
  simp [odometer_push, slice, other]

end Journal

namespace Registers

/-- Both encoders. -/
def encoders (r : Registers α) : Int × Int := (r.encoder1, r.encoder2)

@[simp] theorem encoders_forceStop (r : Registers α) : r.forceStop.encoders = r.encoders := rfl

theorem encoders_addCounts (r : Registers α) (a b : Int) :
    (r.addCounts a b).encoders = (wrap32 (r.encoder1 + a), wrap32 (r.encoder2 + b)) := rfl

end Registers

/-- Each of two counters as a 32-bit number. -/
def wrapBoth (n : Int × Int) : Int × Int := (wrap32 n.1, wrap32 n.2)

/-- What a counter was wrapped to before does not matter. -/
theorem Wire.wrap32_wrap32_add (m n : Int) : wrap32 (wrap32 m + n) = wrap32 (m + n) := by
  simp [wrap32]

variable [Scalar α]

theorem Registers.encoders_apply (r : Registers α) (t : α) (c : Command) :
    (r.apply t c).encoders = if c = .resetEncoders then 0 else r.encoders := by
  cases c with
  | mode code =>
    simp only [apply]
    cases Mode.ofCode? code.toNat <;> rfl
  | _ => rfl

/-! ## What every step keeps -/

namespace Robot

/-- The encoders of a robot are its odometer wrapped. -/
def Counting (r : Robot α) : Prop := r.registers.encoders = wrapBoth r.journal.odometer

theorem Effect.odometer_eq {r s : Robot α} {c : Command} (h : Effect r c s) :
    s.journal.odometer = r.journal.odometer :=
  h.journal_eq fun j _ aside =>
    j.odometer_push_other (Event.counts?_of_aside aside) (Event.resets_of_aside aside)

omit [Scalar α] in
@[simp] theorem odometer_settle (r : Robot α) (stop : α) (counts : Int × Int) :
    (r.settle stop counts).journal.odometer = r.journal.odometer + counts := by
  simp [Journal.odometer_push, slice, Event.resets, Event.counts?]

omit [Scalar α] in
theorem counting_settle {r : Robot α} (h : r.Counting) (stop : α) (counts : Int × Int) :
    (r.settle stop counts).Counting := by
  obtain ⟨first, second⟩ := Prod.ext_iff.1 h
  rw [Counting, odometer_settle, registers_settle, Registers.encoders_addCounts]
  refine Prod.ext ?_ ?_
  · exact (congrArg (fun n => wrap32 (n + counts.1)) first).trans (wrap32_wrap32_add _ _)
  · exact (congrArg (fun n => wrap32 (n + counts.2)) second).trans (wrap32_wrap32_add _ _)

theorem counting_turn (r s : Robot α) (turn : Turn r s) (h : r.Counting) : s.Counting := by
  have noted {e : Event α} (slice : e.counts? = none) (other : e.resets = false) :
      r.registers.encoders = wrapBoth (Journal.odometer (r.journal.push e)) := by
    rwa [Journal.odometer_push_other _ slice other]
  cases turn with
  | work step =>
    cases step with
    | settle => exact counting_settle h _ _
    | @execute s now c rest found executed =>
      have effect := execute_effect executed
      have same : (s.note (.executed c r.commandTime)).journal.odometer =
          if c = .resetEncoders then 0 else r.journal.odometer := by
        simp [Journal.odometer_push, effect.odometer_eq, Event.counts?]
      change s.registers.encoders = _
      rw [effect.registers, Registers.encoders_apply, same]
      split
      · rfl
      · exact h
    | stray | unknown | halt => exact noted rfl rfl
    | follow | arrive => exact h
  | remark e aside => exact noted (Event.counts?_of_aside aside) (Event.resets_of_aside aside)
  | resume => exact noted rfl rfl
  | receive | clear | drain => exact h

omit [Scalar α] in
theorem Counting.wrapped {r : Robot α} (h : r.Counting) : r.registers.Wrapped := by
  obtain ⟨first, second⟩ := Prod.ext_iff.1 h
  have settled {n m : Int} (same : n = wrap32 m) : wrap32 n = n := by rw [same, wrap32_wrap32]
  exact ⟨settled first, settled second⟩

end Robot

/-! ## What the counters are read as -/

namespace Robot

/-- A query is not refused, and the bytes it adds to the telemetry are read as the given reply. -/
def Sends (r : Robot α) (q : Query) (reply : Reply α) : Prop :=
  ∃ s bytes, r.execute (.query q) = ⟨s, .ok ()⟩ ∧ s.telemetry = r.telemetry ++ bytes ∧
    Reply.read (some q) bytes = (.ok reply : Except (Fault α) (Reply α))

theorem sends_reading {r : Robot α} {q : Query} {bytes : List UInt8} (h : r.answer q = .ok bytes)
    (wrapped : r.registers.Wrapped) : r.Sends q (r.reading q) := by
  refine ⟨{ r.note (.replied q bytes) with telemetry := r.telemetry ++ bytes }, bytes, ?_, rfl, ?_⟩
  · rw [execute, h]
  · have spells := answer_spells h wrapped
    generalize bytes = answered at spells
    cases spells with
    | cons _ read rest =>
      cases rest
      simpa using read

/-- The queries for encoders that are wrapped are told their values. -/
theorem sends_encoders {r : Robot α} (wrapped : r.registers.Wrapped) :
    r.Sends .encoder1 (.number r.registers.encoder1) ∧
      r.Sends .encoder2 (.number r.registers.encoder2) ∧
      r.Sends .encoders (.numbers [r.registers.encoder1, r.registers.encoder2]) := by
  have first := counterPayload_of_wrapped (α := α) wrapped.1
  have second := counterPayload_of_wrapped (α := α) wrapped.2
  have both : r.answer .encoders =
      .ok (counterBytes r.registers.encoder1 ++ counterBytes r.registers.encoder2) := by
    rw [answer, first, second]
    rfl
  exact ⟨sends_reading first wrapped, sends_reading second wrapped, sends_reading both wrapped⟩

end Robot

/-- In every session on a fresh simulation in which no register is set from outside, at its end and
at both ends of every leg: the encoders are the counts of all slices since the last reset, added up
without bound and then wrapped to 32 bits. Of the commands only a reset changes them, and what
answers the queries for them is read as these signed numbers. The slices are those of the legs, and
the counts of a slice are the counts of the way that each wheel makes in its leg. -/
theorem Session.encoders_eq_odometer (chassis : Chassis α) (arena : Arena α) (factor start : α)
    (timeout : Bool) (client : Timeline α) (keys : Keyboard) (world : World) (line : Bool)
    (socket : Option Socket) (actions : List (Session.Action α))
    (usual : ∀ a ∈ actions, a.pokes = false) :
    let fresh : Session α :=
      ⟨⟨.initial chassis arena factor start timeout, world, line, socket⟩, client, keys⟩
    let final := (fresh.after actions).sim.robot
    (∀ r : Robot α, (r = final ∨ ∃ l ∈ fresh.legs actions, r = l.robot ∨ r = l.arrived) →
      r.registers.encoders = wrapBoth r.journal.odometer ∧
      ∀ stamp, let r' : Robot α := { r with commandTime := stamp }
        (∀ c s, r'.execute c = ⟨s, .ok ()⟩ →
          s.registers.encoders = if c = .resetEncoders then 0 else r.registers.encoders) ∧
        r'.Sends .encoder1 (.number r.registers.encoder1) ∧
        r'.Sends .encoder2 (.number r.registers.encoder2) ∧
        r'.Sends .encoders (.numbers [r.registers.encoder1, r.registers.encoder2])) ∧
    final.journal.slices = (fresh.legs actions).filterMap Leg.slice? ∧
    ∀ l ∈ fresh.legs actions, ∀ first last units point counts,
      l.slice? = some (.moved first last units point counts) →
        ∃ t, l.travel = .ok t ∧ chassis.counts t.left = .ok counts.1 ∧
          chassis.counts t.right = .ok counts.2 := by
  intro fresh final
  have reached {r : Robot α} (h : Robot.Turns fresh.sim.robot r) : r.Counting :=
    kept_of_chain Robot.counting_turn h rfl
  refine ⟨fun r h => ?_, by simpa using! fresh.slices_after actions, ?_⟩
  · have counting : r.Counting := by
      obtain rfl | ⟨l, inside, rfl | rfl⟩ := h
      · exact reached (fresh.turns_after usual)
      · exact reached (turns_legs usual inside)
      · exact reached ((turns_legs usual inside).trans (Robot.works_advance l.robot l.limit).turns)
    refine ⟨counting, fun stamp => ⟨fun c s executed => ?_,
      Robot.sends_encoders (r := { r with commandTime := stamp }) counting.wrapped⟩⟩
    rw [(Robot.execute_effect executed).registers, Registers.encoders_apply]
  · intro l inside first last units point counts noted
    have same : l.robot.chassis = chassis :=
      kept_of_chain (fun r s step h => (Robot.chassis_step r s step).trans h)
        (steps_legs inside) rfl
    rw [← same]
    exact (l.of_slice? noted).2.2.2

/-- The wheels turn at full speed for three weeks, with the watch turned off. -/
def Session.longDrive : List (Session.Action Float) :=
  [.start zero, .push [0, 0x38, 0, 0x31, 255, 0, 0x32, 255] zero, .tick zero, .tick (ofInt 2000000)]

/-- The encoders have gone past their end once, and that is what a query for them is told. -/
theorem Session.encoders_eq_odometer_longDrive :
    let final := (Session.standard.after longDrive).sim.robot
    final.journal.odometer = (3961684843, 3961684843) ∧
      final.registers.encoders = (-333282453, -333282453) ∧
      final.Sends .encoder1 (.number (-333282453)) := by
  intro final
  obtain ⟨every, -, -⟩ := encoders_eq_odometer .standard .standard (ofInt 1) zero true
    ⟨.standard, zero, ofInt 1, {}⟩ {} { machine := .looped } false none longDrive (by decide)
  obtain ⟨counted, told⟩ := every final (.inl rfl)
  have sum : final.journal.odometer = (3961684843, 3961684843) := by decide +kernel
  have encoders : final.registers.encoders = (-333282453, -333282453) := by
    rw [counted, sum]
    decide
  refine ⟨sum, encoders, ?_⟩
  obtain ⟨-, sends, -⟩ := told final.commandTime
  rwa [show final.registers.encoder1 = -333282453 from congrArg Prod.fst encoders] at sends

end DifferentialDrive
