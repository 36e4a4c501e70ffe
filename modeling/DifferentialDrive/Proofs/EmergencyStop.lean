import DifferentialDrive.Binary64.Scalar
import DifferentialDrive.Proofs.Binary64.Order
import DifferentialDrive.Proofs.Sessions

/-!
# The stop key

The stop key appends a mode, the watch and two resting speeds to whatever is in the queue. If the
queue ends in the middle of a command, that command takes its operands from the bytes of the stop.
The rest of them are dropped up to the watch (`parse_stop`), so at worst the mode is lost and the
resting speeds of mode 0 are read in the mode that the robot was in.
-/

namespace DifferentialDrive

open Wire Scalar

variable {α : Type}

/-! ## What the stop becomes -/

/-- The commands of the stop key after the mode. -/
def DriveAction.resting : List Command := [.timeout true, .speed1 128, .speed2 128]

theorem DriveAction.stampAll_bytes_stop (now : α) :
    stampAll stop.bytes now =
      ⟨0, now⟩ :: ⟨0x34, now⟩ :: ⟨0, now⟩ :: encode (resting.map (·, now)) := rfl

namespace Wire

/-- Whether bytes that wait are the beginning of a command that is not a mode, at least up to its
opcode. -/
def cutShort : List (Stamped α) → Bool
  | _ :: op :: _ => op.code != (Command.mode 0).opcode
  | _ => false

variable [Scalar α]

namespace Frame

variable {now : α} {q : List (Stamped α)}

/-- A zero byte before whole commands is dropped. -/
theorem parse_zero_encode {z : Stamped α} (zero : z.code = 0) (arrived : ¬ now < z.stamp)
    (p : Command × α) (rest : List (Command × α)) (all : ∀ p' ∈ p :: rest, ¬ now < p'.2) :
    parse now (z :: encode (p :: rest)) = ⟨p :: rest, []⟩ := by
  have dropped : next now (z :: encode (p :: rest)) = unknown 0 (encode (p :: rest)) := by
    have second : ¬ now < p.2 := all p (by simp)
    have none : Form.ofOpcode? 0 = none := rfl
    simp [next, zero, arrived, encode, stampAll, Command.bytes, second, none]
  rw [parse_unknown dropped, parse_encode _ all]

/-- The last byte of the stop's mode is dropped if the bytes before it are taken. -/
theorem parse_resting_of_zero (here : ¬ now < now) :
    parse now (⟨0, now⟩ :: encode (DriveAction.resting.map (·, now))) =
      ⟨DriveAction.resting.map (·, now), []⟩ :=
  parse_zero_encode rfl here _ _ (by simp [here])

/-- So are its last two bytes. -/
theorem parse_resting_of_mode (here : ¬ now < now) :
    parse now (⟨0x34, now⟩ :: ⟨0, now⟩ :: encode (DriveAction.resting.map (·, now))) =
      ⟨DriveAction.resting.map (·, now), []⟩ := by
  have dropped : next now (⟨0x34, now⟩ :: ⟨0, now⟩ :: encode (DriveAction.resting.map (·, now))) =
      stray 0x34 (⟨0, now⟩ :: encode (DriveAction.resting.map (·, now))) := by
    simp [next, here]
  rw [parse_stray dropped, parse_resting_of_zero here]

/-- A command without its last operands takes them from the stop, and the resting speeds remain. -/
theorem parse_cut {z op : Stamped α} {form : Form} {operands : List (Stamped α)}
    (zero : z.code = 0) (known : Form.ofOpcode? op.code = some form)
    (short : operands.length < form.arity)
    (arrived : ∀ b ∈ z :: op :: operands, ¬ now < b.stamp) (here : ¬ now < now) :
    ∃ c, parse now (z :: op :: operands ++ stampAll DriveAction.stop.bytes now) =
        ⟨(c, now) :: DriveAction.resting.map (·, now), []⟩ ∧
      c.opcode = op.code ∧ (op.code = 0x34 → c = .mode 0) := by
  have first := arrived z (by simp)
  have second := arrived op (by simp)
  have step {c : Command} {rest : List (Stamped α)} (q : List (Stamped α))
      (taken : ofForm now op.stamp form q = ready c now rest)
      (left : parse now rest = ⟨DriveAction.resting.map (·, now), []⟩) :
      parse now (z :: op :: q) = ⟨(c, now) :: DriveAction.resting.map (·, now), []⟩ := by
    have front : next now (z :: op :: q) = ofForm now op.stamp form q := by
      simp [next, first, zero, second, known]
    rw [parse_ready (front.trans taken), left]
  have spells := Form.spells_of_ofOpcode? known
  have asMode : op.code = 0x34 → form = .byte .mode := by
    intro same
    rw [same] at known
    exact (Option.some.inj known).symm
  rw [DriveAction.stampAll_bytes_stop]
  -- What is lacking is at most the first two bytes of the stop, both of its mode.
  rcases form with c | f | f
  · simp [Form.arity] at short
  · obtain rfl : operands = [] := by simpa [Form.arity] using short
    refine ⟨f 0, step _ (by simp [ofForm, here]) (parse_resting_of_mode here), spells 0, ?_⟩
    intro same
    obtain rfl : f = .mode := by simpa using asMode same
    rfl
  · have other : op.code ≠ 0x34 := fun same => by simpa using asMode same
    rcases operands with _ | ⟨a, _ | ⟨b, operands⟩⟩
    · exact ⟨f (word 0 0x34), step _ (by simp [ofForm, here]) (parse_resting_of_zero here),
        spells _, fun same => absurd same other⟩
    · exact ⟨f (word a.code 0), step _ (by simp [ofForm, here]) (parse_resting_of_mode here),
        spells _, fun same => absurd same other⟩
    · simp only [List.length_cons, Form.arity] at short
      omega

/-- Behind bytes that wait the stop becomes one command and the rest of the stop. The one is the
mode, or else the command that was cut short. -/
theorem parse_stop (waits : next now q = waiting) (arrived : ∀ b ∈ q, ¬ now < b.stamp)
    (here : ¬ now < now) :
    ∃ c, parse now (q ++ stampAll DriveAction.stop.bytes now) =
        ⟨(c, now) :: DriveAction.resting.map (·, now), []⟩ ∧
      if cutShort q then ∀ v, c ≠ .mode v else c = .mode 0 := by
  have bytes : stampAll DriveAction.stop.bytes now =
      encode ((.mode 0, now) :: DriveAction.resting.map (·, now)) := rfl
  have all : ∀ p ∈ (Command.mode 0, now) :: DriveAction.resting.map (·, now), ¬ now < p.2 := by
    simp [here]
  obtain rfl | ⟨z, zero, rfl⟩ | ⟨z, op, form, operands, zero, known, short, rfl⟩ :=
    waiting_cases waits arrived
  · refine ⟨.mode 0, ?_, by simp [cutShort]⟩
    rw [bytes]
    exact parse_encode _ all
  · refine ⟨.mode 0, ?_, by simp [cutShort]⟩
    rw [bytes]
    exact parse_zero_encode zero (arrived z (by simp)) _ _ all
  · obtain ⟨c, found, opcode, mode⟩ := parse_cut zero known short arrived here
    refine ⟨c, found, ?_⟩
    split
    · next cut =>
      rintro v rfl
      simp [cutShort, ← opcode, Command.opcode] at cut
    · next whole => exact mode (by simpa [cutShort, Command.opcode] using whole)

end Frame

end Wire

/-! ## What the stop does -/

/-- A speed register at 128 and one at 128 or at rest are both at rest only around a centre. -/
theorem wheelUnits_resting (m : Mode) {a : UInt8} (resting : a = 128 ∨ a = m.rest) :
    wheelUnits m a.toNat (128 : UInt8).toNat = (0, 0) ↔ m.rest = 128 := by
  obtain rfl | rfl := resting <;> cases m <;> decide

namespace Registers

/-- A speed register is after a slice what it was or at rest. -/
theorem Drift.speed1 {r s : Registers α} (h : r.Drift s) :
    s.speed1 = r.speed1 ∨ s.speed1 = s.mode.rest := by
  obtain ⟨a, b, rfl | rfl⟩ := h
  · exact .inl rfl
  · exact .inr rfl

/-- A slice leaves the wheels as they were or stops them, and then says so. -/
theorem Drift.units {r s : Registers α} (h : r.Drift s) :
    s.units = r.units ∧ s.timedOut = r.timedOut ∨ s.units = (0, 0) ∧ s.timedOut = true := by
  obtain ⟨a, b, rfl | rfl⟩ := h
  · exact .inl ⟨rfl, rfl⟩
  · exact .inr ⟨units_forceStop r, rfl⟩

variable [Scalar α]

/-- After the resting speeds the wheels are at rest if 128 is the rest of the mode, and otherwise
only by the watch. -/
theorem units_of_resting {t : α} {r m s : Registers α}
    (obeys : Obeys (DriveAction.resting.map (·, t)) r m) (drift : m.Drift s) :
    s.units = (0, 0) ↔ r.mode.rest = 128 ∨ s.timedOut = true := by
  obtain ⟨r₁, drift₁, obeys⟩ := obeys.head
  obtain ⟨r₂, drift₂, obeys⟩ := obeys.head
  obtain ⟨r₃, drift₃, obeys⟩ := obeys.head
  obtain rfl := obeys.eq_of_nil
  -- The watch may stop the motors between the two speeds, but leaves the mode as it is.
  have mode : r₃.mode = r.mode := by
    rw [drift₃.mode, mode_apply, drift₂.mode, mode_apply, drift₁.mode]
    rfl
  have units : (r₃.apply t (.speed2 128)).units = (0, 0) ↔ r.mode.rest = 128 := by
    rw [← mode]
    exact wheelUnits_resting r₃.mode drift₃.speed1
  obtain ⟨same, flag⟩ | ⟨stopped, flag⟩ := drift.units
  · rw [same, units, flag]
    simp [apply, setSpeed2]
  · simp [stopped, flag]

end Registers

namespace Session

variable [Scalar α]

/-- The stop key puts its bytes behind the queue, whatever the keyboard is set to. -/
theorem perform_globalStop (s : Session α) (now : α) :
    let t := (s.perform (.key s.keyboard.globalStop now)).state.sim
    t.running = s.sim.running ∧ t.robot.registers = s.sim.robot.registers ∧
      t.robot.queue = s.sim.robot.queue ++ stampAll DriveAction.stop.bytes now := by
  have pressed : s.keyboard.press s.keyboard.globalStop = some .stop := by simp [Keyboard.press]
  simp only [perform, press, pressed]
  exact ⟨rfl, rfl, rfl⟩

/-- If all bytes in the queue have arrived, the stop key and a tick that is not refused bring the
wheels to rest, whatever the bytes are, unless they end in a command that is cut short, is no mode
and comes in a mode whose rest is not 128. Then only the watch brings them to rest. -/
theorem units_after_globalStop [Ordered α] (s : Session α) (now : α)
    (running : s.sim.running = true) (arrived : ∀ b ∈ s.sim.robot.queue, b.stamp ≤ now)
    {answer : Bool}
    (returned : ((s.perform (.key s.keyboard.globalStop now)).state.sim.tick now).result =
      .ok answer) :
    let read := Frame.parse now s.sim.robot.queue
    let mode := read.commands.foldl (fun m p => m.after p.1) s.sim.robot.registers.mode
    let lost := cutShort read.rest = true ∧ (mode = .signed ∨ mode = .signedTurn)
    let r := (s.after [.key s.keyboard.globalStop now, .tick now]).sim.robot.registers
    (¬ lost → r.units = (0, 0)) ∧ (lost → (r.units = (0, 0) ↔ r.timedOut = true)) := by
  intro read mode lost r
  obtain ⟨started, registers, queue⟩ := s.perform_globalStop now
  obtain ⟨m, obeys, drift⟩ := (Simulation.tick_ran (started.trans running) returned).obeys
  have rest_arrived : ∀ b ∈ read.rest, ¬ now < b.stamp := fun b hb =>
    not_lt_of_le (arrived b ((Frame.parse_rest_suffix now s.sim.robot.queue).subset hb))
  obtain ⟨c, stop, first⟩ := Frame.parse_stop (Frame.next_parse_rest now s.sim.robot.queue)
    rest_arrived (lt_irrefl now)
  -- The queue is read as it would be without the key, and then its rest with the stop behind it.
  rw [queue, registers, Frame.parse_append (Covers.refl now), stop] at obeys
  obtain ⟨k, before, obeys⟩ := obeys.append
  obtain ⟨k', drift', resting⟩ := obeys.head
  have reached : (k'.apply now c).mode = mode.after c := by
    rw [Registers.mode_apply, drift'.mode, before.mode]
  have units : r.units = (0, 0) ↔ (mode.after c).rest = 128 ∨ r.timedOut = true := by
    rw [← reached]
    exact Registers.units_of_resting resting drift
  split at first
  · next cut =>
    have kept : mode.after c = mode := Mode.after_of_ne_mode first
    have off : mode.rest = 128 ↔ ¬ (mode = .signed ∨ mode = .signedTurn) := by
      cases mode <;> decide
    rw [kept, off] at units
    refine ⟨fun found => units.2 (.inl fun read => found ⟨cut, read⟩), fun ⟨_, misread⟩ => ?_⟩
    simpa [misread] using units
  · next whole =>
    subst first
    have rests : (mode.after (.mode 0)).rest = 128 := rfl
    exact ⟨fun _ => units.2 (.inl rests), fun found => absurd found.1 whole⟩

/-- A place without its last byte takes the mode of the stop, but 128 is the rest of mode 2. -/
theorem units_after_globalStop_mode_two :
    let s := Session.standard.after
      [.start zero, .push [0, 0x34, 2] zero, .tick zero, .push [0, 0x31, 9, 0, 0x41, 5] zero]
    let t := (s.perform (.key "escape" zero)).state.sim.tick (zero : Float)
    s.sim.running = true ∧ (∀ b ∈ s.sim.robot.queue, b.stamp ≤ zero) ∧ t.result.isOk = true ∧
      s.keyboard.globalStop = "escape" ∧
      (s.after [.key "escape" zero, .tick zero]).sim.robot.registers.units = (0, 0) := by
  intro s t
  have running : s.sim.running = true := by decide +kernel
  have arrived : ∀ b ∈ s.sim.robot.queue, b.stamp ≤ zero := by decide +kernel
  have isOk : t.result.isOk = true := by decide +kernel
  have key : s.keyboard.globalStop = "escape" := rfl
  refine ⟨running, arrived, isOk, key, ?_⟩
  cases returned : t.result with
  | error f => simp [returned, Except.isOk, Except.toBool] at isOk
  | ok answer =>
    exact (units_after_globalStop s zero running arrived returned).1 (by decide +kernel)

/-- The stop key does not always bring the wheels to rest: a speed without its operand takes the
mode of the stop and both wheels go backward at full speed, and a tick that is refused does not
come to the stop. -/
theorem globalStop_leaves_wheels_turning :
    let late : Float := ofInt (10 ^ 308)
    let cut := Session.standard.after [.start zero, .push [0, 0x34, 1, 0, 0x31] (zero : Float)]
    let driving := Session.standard.after
      [.start zero, .push [0, 0x31, 255, 0, 0x32, 255] (zero : Float), .tick zero]
    (cut.sim.running = true ∧ (∀ b ∈ cut.sim.robot.queue, b.stamp ≤ zero) ∧
      ((cut.perform (.key "escape" zero)).state.sim.tick zero).result.isOk = true ∧
      (cut.after [.key "escape" zero, .tick zero]).sim.robot.registers.units = (-128, -128)) ∧
    (driving.sim.running = true ∧ driving.sim.robot.queue.isEmpty = true ∧
      ((driving.perform (.key "escape" late)).state.sim.tick late).result.isOk = false ∧
      (driving.after [.key "escape" late, .tick late]).sim.robot.registers.units = (127, 127)) := by
  decide +kernel

end Session

end DifferentialDrive
