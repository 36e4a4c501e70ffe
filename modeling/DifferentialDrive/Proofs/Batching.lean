import DifferentialDrive.Binary64.Scalar
import DifferentialDrive.Proofs.Binary64.Order
import DifferentialDrive.Proofs.Sessions

/-!
# What is sent matters, not in which portions

With the watch off, a robot that takes its bytes in portions and looks at them early and often
executes the same commands at the same times as one that gets them all and looks once
(`delivered_eq_parse`). Only the motion is cut otherwise, and with it the rounding of what is added
up along the way.
-/

namespace DifferentialDrive

open Wire Scalar

variable {α : Type} [Scalar α]

/-! ## The watch stays off -/

/-- No byte is the opcode that turns the watch on. -/
def Wire.Quiet (q : List (Stamped α)) : Prop := ∀ b ∈ q, b.code ≠ (Command.timeout true).opcode

theorem Wire.Quiet.ready {now t : α} {c : Command} {q rest : List (Stamped α)} (quiet : Quiet q)
    (taken : Frame.next now q = .ready c t rest) : c ≠ .timeout true ∧ Quiet rest := by
  constructor
  · rintro rfl
    obtain ⟨b, found, same⟩ := Frame.exists_opcode_of_ready taken
    exact quiet b found same
  · have shorter : rest <:+ q := Frame.next_suffix (by rw [taken]; rfl)
    exact fun b hb => quiet b (shorter.subset hb)

/-! ## What commands set -/

/-- What commands set, the encoders apart, and when the last command arrived. -/
structure Control (α : Type) where
  registers : Registers α
  simSpeed : α
  commandTime : α

/-- What is set after a command that arrived at the given time. -/
def Control.after (k : Control α) (p : Command × α) : Control α :=
  ⟨k.registers.apply p.2 p.1, Robot.speedAfter k.simSpeed p.1, p.2⟩

namespace Registers

/-- No command reads the encoders. -/
theorem resetEncoders_apply (r : Registers α) (t : α) (c : Command) :
    (r.apply t c).resetEncoders = r.resetEncoders.apply t c := by
  cases c with
  | mode code =>
    simp only [apply]
    cases Mode.ofCode? code.toNat <;> rfl
  | _ => rfl

theorem timeout_apply {r : Registers α} {c : Command} (off : r.timeout = false)
    (other : c ≠ .timeout true) (t : α) : (r.apply t c).timeout = false := by
  cases c with
  | mode code =>
    simp only [apply]
    cases Mode.ofCode? code.toNat <;> exact off
  | timeout on => simpa [apply] using other
  | _ => exact off

end Registers

namespace Robot

/-- What commands have set. -/
def control (r : Robot α) : Control α := ⟨r.registers.resetEncoders, r.simSpeed, r.commandTime⟩

theorem watch_of_off {r : Robot α} (off : r.registers.timeout = false) : r.watch = .ok r := by
  simp [watch, overdue, off, bind, Except.bind]
  rfl

/-- With the watch off a slice sets nothing. -/
theorem advance_control {r a : Robot α} {limit : α} (off : r.registers.timeout = false)
    (moved : r.advance limit = ⟨a, .ok ()⟩) :
    a.control = r.control ∧ a.registers.timeout = false := by
  have slice := advance_slice r limit
  rw [moved] at slice
  cases slice with
  | settled watched _ =>
    rw [watch_of_off off] at watched
    cases watched
    exact ⟨rfl, off⟩

theorem Effect.control {r s : Robot α} {c : Command} (h : Effect r c s) :
    s.control = r.control.after (c, r.commandTime) := by
  simp [Robot.control, Control.after, h.registers, h.simSpeed, h.commandTime,
    Registers.resetEncoders_apply]

theorem perform_control {r m : Robot α} {c : Command} {t : α} (off : r.registers.timeout = false)
    (other : c ≠ .timeout true) (performed : r.perform c t = ⟨m, .ok ()⟩) :
    m.control = r.control.after (c, t) ∧ m.registers.timeout = false := by
  obtain ⟨a, s, moved, executed, rfl⟩ := perform_ok performed
  obtain ⟨same, off⟩ := advance_control off moved
  have effect := execute_effect executed
  constructor
  · calc s.control = ({ a with commandTime := t } : Robot α).control.after (c, t) := effect.control
      _ = a.control.after (c, t) := rfl
      _ = r.control.after (c, t) := by rw [same]
  · simpa [effect.registers] using Registers.timeout_apply off other t

/-- With the watch off and kept off, a run sets what its commands set in turn. -/
theorem Ran.control {now : α} {r s : Robot α} (h : Ran now r s)
    (off : r.registers.timeout = false) (quiet : Quiet r.queue) :
    s.control = (Frame.parse now r.queue).commands.foldl Control.after r.control ∧
      s.registers.timeout = false := by
  induction h with
  | idle waits moved =>
    rw [Frame.parse_waiting waits]
    exact advance_control off moved
  | stray found _ ih =>
    have shorter := Frame.next_suffix (by rw [found]; rfl)
    rw [Frame.parse_stray found]
    exact ih off fun b hb => quiet b (shorter.subset hb)
  | unknown found _ ih =>
    have shorter := Frame.next_suffix (by rw [found]; rfl)
    rw [Frame.parse_unknown found]
    exact ih off fun b hb => quiet b (shorter.subset hb)
  | command found performed _ ih =>
    obtain ⟨other, quiet⟩ := quiet.ready found
    obtain ⟨set, off⟩ := perform_control off other performed
    obtain ⟨rest, off⟩ := ih off quiet
    rw [Frame.parse_ready found, List.foldl_cons, ← set]
    exact ⟨rest, off⟩

end Robot

open Robot

/-! ## Deliveries -/

/-- Bytes that arrive together, or a look at what has arrived. -/
inductive Delivery (α : Type) where
  | push (bytes : List UInt8) (stamp : α)
  | tick (now : α)

/-- The bytes of a delivery. -/
def Delivery.bytes : Delivery α → List (Stamped α)
  | .push bytes stamp => stampAll bytes stamp
  | .tick _ => []

namespace Simulation

/-- The simulation after deliveries, of which none may be refused. -/
def deliver (s : Simulation α) : List (Delivery α) → Except (Fault α) (Simulation α)
  | [] => .ok s
  | .push bytes stamp :: rest => (s.push bytes stamp).deliver rest
  | .tick now :: rest =>
    match s.tick now with
    | ⟨s, .ok _⟩ => s.deliver rest
    | ⟨_, .error f⟩ => .error f

variable {s e : Simulation α} {now last : α} {ds : List (Delivery α)}

/-- A look that is not refused is a run of the robot, and the simulation goes on running. -/
theorem ran_of_deliver_tick (running : s.running = true)
    (done : s.deliver (.tick now :: ds) = .ok e) :
    ∃ m : Simulation α, Ran now s.robot m.robot ∧ m.running = true ∧ m.deliver ds = .ok e := by
  simp only [deliver] at done
  split at done
  · next m flag ticked =>
    have ran := tick_ran running (congrArg Outcome.result ticked)
    rw [ticked] at ran
    refine ⟨m, ran, ?_, done⟩
    obtain rfl : (s.tick now).state = m := by rw [ticked]
    simp [tick, running]
  · cases done

/-- With the watch off, a robot that is looked at up to a last time has executed the commands that
stand in its bytes at that time, whatever portions they came in. -/
theorem delivered_eq_parse [Ordered α] (running : s.running = true)
    (off : s.robot.registers.timeout = false)
    (quiet : Quiet (s.robot.queue ++ ds.flatMap Delivery.bytes))
    (early : ∀ now, .tick now ∈ ds → now ≤ last)
    (done : s.deliver (ds ++ [.tick last]) = .ok e) :
    let p := Frame.parse last (s.robot.queue ++ ds.flatMap Delivery.bytes)
    e.robot.journal.executed = s.robot.journal.executed ++ p.commands ∧
      e.robot.queue = p.rest ∧
      e.robot.control = p.commands.foldl Control.after s.robot.control := by
  -- An early look does a part of the last one's work, so the induction is over all simulations.
  induction ds generalizing s with
  | nil =>
    obtain ⟨m, ran, -, done⟩ := ran_of_deliver_tick running done
    cases done
    obtain ⟨executed, left⟩ := ran.executed_queue
    simp only [List.flatMap_nil, List.append_nil] at quiet ⊢
    exact ⟨executed, left, (ran.control off quiet).1⟩
  | cons d ds ih =>
    have later now (h : .tick now ∈ ds) : now ≤ last := early now (by simp [h])
    cases d with
    | push bytes stamp =>
      have same : (s.push bytes stamp).robot.queue ++ ds.flatMap Delivery.bytes =
          s.robot.queue ++ (.push bytes stamp :: ds).flatMap Delivery.bytes := by
        simp [push, Robot.push, Robot.receive, Delivery.bytes]
      rw [← same] at quiet ⊢
      exact ih (s := s.push bytes stamp) running off quiet later done
    | tick now =>
      obtain ⟨m, ran, running, done⟩ := ran_of_deliver_tick running done
      have covers : Covers last now := Covers.of_le (early now (by simp))
      have here : Quiet s.robot.queue := fun b hb => quiet b (by simp [hb])
      obtain ⟨executed, left⟩ := ran.executed_queue
      obtain ⟨set, off⟩ := ran.control off here
      have shorter := Frame.parse_rest_suffix now s.robot.queue
      have rest : Quiet (m.robot.queue ++ ds.flatMap Delivery.bytes) := by
        intro b hb
        rw [left, List.mem_append] at hb
        apply quiet
        simpa [Delivery.bytes] using hb.imp_left fun h => shorter.subset h
      obtain ⟨executed', left', set'⟩ := ih running off rest later done
      have cut : Frame.parse last (s.robot.queue ++ ds.flatMap Delivery.bytes) = _ :=
        Frame.parse_append covers s.robot.queue (ds.flatMap Delivery.bytes)
      simp only [List.flatMap_cons, Delivery.bytes, List.nil_append, cut, ← left]
      refine ⟨?_, left', ?_⟩
      · rw [executed', executed, List.append_assoc]
      · rw [set', set, List.foldl_append]

/-- With the watch off, what is executed and when, what is left and what is set depend on the bytes
and the last look alone: not on the portions the bytes came in, nor on how many earlier looks there
were, nor on when. -/
theorem deliver_batching_invariant [Ordered α] (s : Simulation α) (ds whole : List (Delivery α))
    (last : α) (running : s.running = true) (off : s.robot.registers.timeout = false)
    (quiet : Quiet (s.robot.queue ++ ds.flatMap Delivery.bytes))
    (same : ds.flatMap Delivery.bytes = whole.flatMap Delivery.bytes)
    (early : ∀ now, .tick now ∈ ds ++ whole → now ≤ last) {a b : Simulation α}
    (apart : s.deliver (ds ++ [.tick last]) = .ok a)
    (together : s.deliver (whole ++ [.tick last]) = .ok b) :
    a.robot.journal.executed = b.robot.journal.executed ∧
      a.robot.queue = b.robot.queue ∧
      a.robot.control = b.robot.control := by
  obtain ⟨executed, left, set⟩ :=
    delivered_eq_parse running off quiet (fun now h => early now (by simp [h])) apart
  rw [same] at quiet executed left set
  obtain ⟨executed', left', set'⟩ :=
    delivered_eq_parse running off quiet (fun now h => early now (by simp [h])) together
  exact ⟨executed.trans executed'.symm, left.trans left'.symm, set.trans set'.symm⟩

/-- A stray byte, a byte that is no opcode and a mode that comes in three portions, before a speed
whose operand is late. -/
theorem deliver_batching_invariant_portions :
    let s : Simulation Float := (initial .standard .standard (ofInt 1) zero false).start zero
    let ds : List (Delivery Float) :=
      [.push [7, 0] zero, .tick zero, .push [0x34] zero, .tick zero,
        .push [1, 0, 0x99, 0, 0x31] zero, .push [0] (ofInt 1), .tick zero]
    let whole : List (Delivery Float) :=
      [.push [7, 0, 0x34, 1, 0, 0x99, 0, 0x31] zero, .push [0] (ofInt 1)]
    ∃ a b, s.deliver (ds ++ [.tick zero]) = .ok a ∧ s.deliver (whole ++ [.tick zero]) = .ok b ∧
      a.robot.journal.executed = b.robot.journal.executed ∧
      a.robot.queue = b.robot.queue ∧
      a.robot.control = b.robot.control := by
  intro s ds whole
  have apart : (s.deliver (ds ++ [.tick zero])).isOk = true := by decide +kernel
  have together : (s.deliver (whole ++ [.tick zero])).isOk = true := by decide +kernel
  cases ha : s.deliver (ds ++ [.tick zero]) with
  | error f => simp [ha, Except.isOk, Except.toBool] at apart
  | ok a =>
    cases hb : s.deliver (whole ++ [.tick zero]) with
    | error f => simp [hb, Except.isOk, Except.toBool] at together
    | ok b =>
      have early : ∀ now : Float, .tick now ∈ ds ++ whole → now ≤ zero := by
        intro now h
        obtain rfl : now = zero := by simpa [ds, whole] using h
        decide
      have quiet : Quiet (s.robot.queue ++ ds.flatMap Delivery.bytes) := by
        unfold Quiet
        decide
      exact ⟨a, b, rfl, rfl,
        deliver_batching_invariant s ds whole zero rfl rfl quiet rfl early ha hb⟩

end Simulation

end DifferentialDrive
