import DifferentialDrive.Proofs.Hold
import DifferentialDrive.Proofs.Ranges
import DifferentialDrive.Proofs.Refusals

/-!
# Settings are read back

A client sets speeds, the mode, the acceleration, the simulation speed or a coordinate, or is
refused (`Setting.request_of_fits`, `Setting.request_of_not_fits`). Its commands put what it has set
in force, however overdue the motors were before (`Setting.inForce_of_commands`), and neither the
motion nor the queries of the same instant change that, so the queries are answered with what was
set (`Setting.InForce.answers`).
-/

namespace DifferentialDrive

open Wire Scalar Binary64

/-! ## Tenths -/

namespace Binary64

/-- A number of tenths, divided by ten and multiplied again, is nearest to itself. -/
theorem nearest_tenths (w : UInt16) :
    Scalar.nearest (Robot.ofTenths w * Scalar.ofInt 10 : Float) = w.toNat := by
  obtain ⟨-, divided, -⟩ := near_tenths w
  have product := (rounds_tenths w).near (isFinite_tenths w)
  have small : (w.toNat : ℚ) ≤ 65536 := by exact_mod_cast w.toNat_lt.le
  have whole : Grid ((w.toNat : ℤ) : ℚ) := grid_intCast (by
    rw [Nat.abs_cast]
    exact_mod_cast w.toNat_lt.le.trans (by norm_num))
  have off : |value (Robot.ofTenths w : Float) - w.toNat / 10| ≤ 1 / 1000 := by
    have tiny : (2 : ℚ) ^ (-1075 : ℤ) ≤ 2 ^ (-10 : ℤ) := zpow_le_zpow_right₀ one_le_two (by decide)
    refine divided.error.trans (max_le ?_ (tiny.trans (by norm_num)))
    rw [abs_of_nonneg (by positivity), div_le_iff₀ (by positivity)]
    linarith
  -- The product is rounded no further off than the whole number of tenths would be.
  have back := product.nearest whole
  rw [Int.cast_natCast] at back
  have flip : |(w.toNat : ℚ) - value (Robot.ofTenths w : Float) * 10| =
      10 * |value (Robot.ofTenths w : Float) - w.toNat / 10| := by
    rw [abs_sub_comm, ← abs_of_pos (show (0 : ℚ) < 10 by norm_num), ← abs_mul,
      abs_of_pos (show (0 : ℚ) < 10 by norm_num)]
    congr 1
    ring
  refine nearestInt_eq (isFinite_tenths w) ?_
  rw [Int.cast_natCast]
  calc |value (Robot.ofTenths w * Scalar.ofInt 10 : Float) - w.toNat|
    _ ≤ |value (Robot.ofTenths w * Scalar.ofInt 10 : Float) -
          value (Robot.ofTenths w : Float) * 10| +
        |value (Robot.ofTenths w : Float) * 10 - w.toNat| := abs_sub_le _ _ _
    _ < 1 / 2 := by
      rw [abs_sub_comm _ (w.toNat : ℚ)]
      linarith

/-- The silence up to a time is none if a command has come at that time or later. -/
theorem silence_le_zero {t l : Float} (ht : t.isFinite = true) (hl : l.isFinite = true)
    (since : t ≤ l) : t - l ≤ (zero : Float) := by
  refine (rounds_sub ht hl).le (by rfl) ?_
  have := (le_iff_value ht hl).1 since
  have nothing : value (zero : Float) = 0 := (value_ofInt_of_small (n := 0) (by decide)).2
  rw [nothing]
  linarith

end Binary64

/-! ## What a client can set -/

/-- A client's settings. -/
inductive Setting where
  | speeds (a b : Int)
  | mode (code : Int)
  | acceleration (value : Int)
  | simSpeed (factor : Float)
  | placeX (millimetres : Int)
  | placeY (millimetres : Int)
  | placeHeading (degrees : Float)

namespace Setting

def request : Setting → Except (Fault Float) (List Command)
  | speeds a b => Request.speeds a b
  | mode code => Request.mode code
  | acceleration value => Request.acceleration value
  | simSpeed factor => Request.simSpeed factor
  | placeX x => Request.placeX x
  | placeY y => Request.placeY y
  | placeHeading degrees => Request.placeHeading degrees

/-- Tenths of a unit, before they are rounded. -/
def scaled (x : Float) : Float := x * Scalar.ofInt 10

/-- Whether a setting is within its range, where tenths are rounded. -/
def Fits : Setting → Prop
  | speeds a b => (0 ≤ a ∧ a ≤ 255) ∧ 0 ≤ b ∧ b ≤ 255
  | mode code => 0 ≤ code ∧ code ≤ 3
  | acceleration value => 1 ≤ value ∧ value ≤ 10
  | placeX n | placeY n => 0 ≤ n ∧ n ≤ 65535
  | simSpeed x | placeHeading x => (scaled x).isFinite = true ∧
      0 ≤ Scalar.nearest (scaled x) ∧ Scalar.nearest (scaled x) ≤ 65535

instance : DecidablePred Fits := fun w => by
  cases w <;> unfold Fits <;> infer_instance

/-- The commands of a setting that is within its range. -/
def commands : Setting → List Command
  | speeds a b => [.speed1 a.toNat.toUInt8, .speed2 b.toNat.toUInt8]
  | mode code => [.mode code.toNat.toUInt8]
  | acceleration value => [.acceleration value.toNat.toUInt8]
  | simSpeed x => [.simSpeed (Scalar.nearest (scaled x)).toNat.toUInt16]
  | placeX n => [.placeX n.toNat.toUInt16]
  | placeY n => [.placeY n.toNat.toUInt16]
  | placeHeading x => [.placeHeading (Scalar.nearest (scaled x)).toNat.toUInt16]

/-- Why tenths that are out of range are refused. -/
def refusalOfTenths (argument : String) (x : Float) : Fault Float :=
  if Scalar.isInfinite (scaled x) then .infinityToInteger
  else if Scalar.isNaN (scaled x) then .nanToInteger
  else .outOfRange argument 0 65535 (Scalar.nearest (scaled x))

/-- Why a setting that is out of range is refused. -/
def refusal : Setting → Fault Float
  | speeds a b =>
    if 0 ≤ a ∧ a ≤ 255 then .outOfRange "speed2" 0 255 b else .outOfRange "speed1" 0 255 a
  | mode code => .modeArgument code
  | acceleration value => .accelerationArgument value
  | placeX n => .outOfRange "x" 0 65535 n
  | placeY n => .outOfRange "y" 0 65535 n
  | simSpeed x => refusalOfTenths "sim speed" x
  | placeHeading x => refusalOfTenths "angle" x

theorem toNat_of_byte {n : Int} (fits : 0 ≤ n ∧ n ≤ 255) : (n.toNat.toUInt8.toNat : Int) = n := by
  simp
  omega

theorem toNat_of_word {n : Int} (fits : 0 ≤ n ∧ n ≤ 65535) :
    (n.toNat.toUInt16.toNat : Int) = n := by
  simp
  omega

theorem tenths_of_fits (argument : String) {x : Float} (fits : (placeHeading x).Fits) :
    (Request.tenths argument x : Except (Fault Float) UInt16) =
      .ok (Scalar.nearest (scaled x)).toNat.toUInt16 := by
  change (Scalar.toNearest (scaled x) >>= Request.word argument) = _
  rw [Scalar.toNearest, finite_ok fits.1]
  exact if_pos fits.2

theorem tenths_of_not_fits (argument : String) {x : Float} (unfit : ¬ (placeHeading x).Fits) :
    (Request.tenths argument x : Except (Fault Float) UInt16) =
      .error (refusalOfTenths argument x) := by
  change (Scalar.toNearest (scaled x) >>= Request.word argument) = _
  rw [Scalar.toNearest, Scalar.finite, refusalOfTenths]
  cases large : Scalar.isInfinite (scaled x) with
  | true => rfl
  | false =>
    cases none : Scalar.isNaN (scaled x) with
    | true => rfl
    | false =>
      have bounded : (scaled x).isFinite = true := by
        rw [isFinite_eq, show (scaled x).isNaN = false from none,
          show (scaled x).isInf = false from large]
        rfl
      exact if_neg fun range => unfit ⟨bounded, range⟩

theorem request_of_fits {w : Setting} (fits : w.Fits) : w.request = .ok w.commands := by
  cases w with
  | speeds a b => simp [request, Request.speeds, Request.byte, fits.1, fits.2, commands, bind,
      Except.bind, pure, Except.pure]
  | mode code => exact if_pos fits
  | acceleration value => exact if_pos fits
  | simSpeed x =>
    rw [request, Request.simSpeed, tenths_of_fits _ fits]
    rfl
  | placeX n =>
    rw [request, Request.placeX, Request.word, if_pos (show 0 ≤ n ∧ n ≤ 65535 from fits)]
    rfl
  | placeY n =>
    rw [request, Request.placeY, Request.word, if_pos (show 0 ≤ n ∧ n ≤ 65535 from fits)]
    rfl
  | placeHeading x =>
    rw [request, Request.placeHeading, tenths_of_fits _ fits]
    rfl

theorem request_of_not_fits {w : Setting} (unfit : ¬ w.Fits) : w.request = .error w.refusal := by
  cases w with
  | speeds a b =>
    rw [request, Request.speeds, refusal, Request.byte]
    split_ifs with first
    · rw [Request.byte, if_neg fun second => unfit ⟨first, second⟩]
      rfl
    · rfl
  | mode code => exact if_neg unfit
  | acceleration value => exact if_neg unfit
  | simSpeed x =>
    rw [request, Request.simSpeed, tenths_of_not_fits _ unfit]
    rfl
  | placeX n =>
    rw [request, Request.placeX, Request.word, if_neg (show ¬ (0 ≤ n ∧ n ≤ 65535) from unfit)]
    rfl
  | placeY n =>
    rw [request, Request.placeY, Request.word, if_neg (show ¬ (0 ≤ n ∧ n ≤ 65535) from unfit)]
    rfl
  | placeHeading x =>
    rw [request, Request.placeHeading, tenths_of_not_fits _ unfit]
    rfl

/-- The commands of a setting and then queries. -/
def exchange (w : Setting) (asks : List (Query × Reply Float)) : List Command :=
  w.commands ++ asks.map fun p => .query p.1

/-- What queries about a setting are answered. -/
def replies : Setting → List (Query × Reply Float)
  | speeds a b => [(.speed1, .number a), (.speed2, .number b)]
  | mode code => [(.mode, .number code)]
  | acceleration value => [(.acceleration, .number value)]
  | simSpeed x =>
    [(.simSpeed, .factor (Scalar.ofInt (Scalar.nearest (scaled x)) / Scalar.ofInt 10))]
  | placeX _ | placeY _ | placeHeading _ => []

/-- Where a setting places the robot, if it does. -/
def place? : Setting → Option (Pose Float → Pose Float)
  | placeX n => some fun p => { p with x := Scalar.ofInt n }
  | placeY n => some fun p => { p with y := Scalar.ofInt n }
  | placeHeading x => some fun p => { p with
      heading := Heading.normalize (Scalar.ofInt (Scalar.nearest (scaled x)) / Scalar.ofInt 10) }
  | _ => none

/-- A robot holds a setting, and a watch that looks at it at the same instant leaves it. -/
def InForce (t : Float) (r : Robot Float) : Setting → Prop
  | speeds a b => (r.registers.speed1.toNat : Int) = a ∧ (r.registers.speed2.toNat : Int) = b ∧
      r.lastStep = t ∧ t ≤ r.registers.lastCommand
  | mode code => (r.registers.mode.code.toNat : Int) = code
  | acceleration value => r.registers.acceleration = value
  | simSpeed x => r.simSpeed = Robot.ofTenths (Scalar.nearest (scaled x)).toNat.toUInt16
  | placeX _ | placeY _ | placeHeading _ => True

variable {w : Setting} {t now : Float} {r m s : Robot Float}

/-- What is asked about a setting in force is what was set. -/
theorem InForce.reading (h : w.InForce t r) (fits : w.Fits) {p : Query × Reply Float}
    (inside : p ∈ w.replies) : r.reading p.1 = p.2 := by
  cases w with
  | speeds a b =>
    obtain ⟨first, second, -⟩ := h
    obtain rfl | rfl : p = (.speed1, .number a) ∨ p = (.speed2, .number b) := by
      simpa [replies] using inside
    · exact congrArg Reply.number first
    · exact congrArg Reply.number second
  | mode code =>
    obtain rfl := List.mem_singleton.1 inside
    exact congrArg Reply.number h
  | acceleration value =>
    obtain rfl := List.mem_singleton.1 inside
    exact congrArg Reply.number h
  | simSpeed x =>
    obtain rfl := List.mem_singleton.1 inside
    obtain ⟨-, range⟩ := fits
    have same : r.simSpeed = Robot.ofTenths (Scalar.nearest (scaled x)).toNat.toUInt16 := h
    have tenths : r.speedTenths = Scalar.nearest (scaled x) := by
      rw [Robot.speedTenths, same, nearest_tenths, toNat_of_word range]
      omega
    simp only [Robot.reading, tenths]
  | placeX n | placeY n | placeHeading x => cases inside

end Setting

/-! ## Commands of one instant -/

/-- A robot that commands of an instant can still come to, and that has the patience to wait for
no time at all. -/
structure Robot.Awaits (t : Float) (r : Robot Float) : Prop where
  finite : t.isFinite = true
  before : r.lastStep ≤ t
  patient : r.chassis.motorTimeout.reaches zero = .ok true
  written : r.registers.lastCommand.isFinite = true

namespace Robot

variable {t now : Float} {r a m s : Robot Float} {c : Command}

/-- A robot that has moved to an instant and been told a speed there is not overdue. -/
theorem Awaits.early (h : Awaits t r) (here : r.lastStep = t)
    (since : t ≤ r.registers.lastCommand) : r.overdue = .ok false := by
  unfold overdue
  split
  · have none : r.silence ≤ (zero : Float) := by
      rw [silence, here]
      exact silence_le_zero h.finite h.written since
    exact Quantity.isBelow_of_reaches h.patient (by decide) none
  · rfl

/-- A robot moves to an instant and is left there by a command. -/
structure Takes (t : Float) (c : Command) (r a m : Robot Float) : Prop where
  performed : r.perform c t = ⟨m, .ok ()⟩
  moved : r.advance t = ⟨a, .ok ()⟩
  lastStep : m.lastStep = t
  registers : m.registers = a.registers.apply t c
  simSpeed : m.simSpeed = speedAfter a.simSpeed c
  replied : ∃ bytes, m.telemetry = r.telemetry ++ bytes ∧
    Spells (c.query?.map fun q => (q, a.reading q)).toList bytes

theorem Awaits.takes (h : Awaits t r) (performed : r.perform c t = ⟨m, .ok ()⟩) :
    (∃ a, Takes t c r a m) ∧ ∀ queue, Awaits t { m with queue := queue } := by
  obtain ⟨a, e, moved, executed, rfl⟩ := perform_ok performed
  have effect := execute_effect executed
  have there := moved_of_advance moved
  have here : e.lastStep = t := by
    rw [effect.lastStep, there.lastStep, later_of_le h.before]
  have untouched : a.telemetry = r.telemetry := by
    obtain ⟨untouched, -⟩ := advance_unwritten r t
    rwa [moved] at untouched
  have wrapped : a.registers.Wrapped := wrapped_of_advance moved
  obtain ⟨bytes, sent, spells⟩ := telemetry_execute executed wrapped
  refine ⟨⟨a, performed, moved, here, effect.registers, effect.simSpeed, bytes, ?_, spells⟩,
    fun queue => ⟨h.finite, ?_, ?_, ?_⟩⟩
  · exact sent.trans (congrArg (· ++ bytes) untouched)
  · exact here ▸ (le_iff_value h.finite h.finite).2 le_rfl
  · change e.chassis.motorTimeout.reaches zero = .ok true
    rw [effect.chassis, there.chassis]
    exact h.patient
  · change e.registers.lastCommand.isFinite = true
    rw [effect.registers]
    exact Registers.isFinite_lastCommand_apply h.finite (there.lastCommand ▸ h.written) c

/-- What is no query sends nothing. -/
theorem Takes.quiet (h : Takes t c r a m) (told : c.query? = none) :
    m.telemetry = r.telemetry := by
  obtain ⟨bytes, sent, spells⟩ := h.replied
  rw [told] at spells
  cases spells
  simpa using sent

/-- A speed feeds the watch. -/
theorem Takes.since (h : Takes t c r a m) (awaits : Awaits t r) (told : c.writesSpeed = true) :
    t ≤ m.registers.lastCommand := by
  have written : a.registers.lastCommand.isFinite = true :=
    (moved_of_advance h.moved).lastCommand ▸ awaits.written
  rw [h.registers, Registers.lastCommand_apply, if_pos told]
  exact Hold.le_later_left awaits.finite written

/-- The first command of an instant is taken, and the run goes on behind it. -/
theorem Awaits.first (h : Awaits t r) {more : List (Command × Float)}
    (queue : r.queue = encode ((c, t) :: more)) (arrived : ¬ now < t) (ran : Ran now r s) :
    ∃ a m, Takes t c r a m ∧ Awaits t { m with queue := encode more } ∧
      Ran now { m with queue := encode more } s := by
  have front : Frame.next now r.queue = .ready c t (encode more) := by
    rw [queue, Frame.next_encode]
    exact if_neg arrived
  cases ran with
  | idle found | stray found | unknown found => cases found.symm.trans front
  | @command _ m _ _ _ _ found performed rest =>
    cases found.symm.trans front
    obtain ⟨⟨a, takes⟩, awaits⟩ := h.takes performed
    exact ⟨a, m, takes, awaits _, rest⟩

/-- When all commands have been executed the robot is moved on. -/
theorem Ran.last (ran : Ran now r s) (empty : r.queue = []) : r.advance now = ⟨s, .ok ()⟩ := by
  have waits : Frame.next now r.queue = .waiting := by rw [empty]; rfl
  cases ran with
  | idle _ moved => exact moved
  | stray found | unknown found | command found => cases found.symm.trans waits

end Robot

/-! ## A setting from its commands to its queries -/

namespace Setting

variable {w : Setting} {t now : Float} {r a m s : Robot Float} {more : List (Command × Float)}

/-- A move to the instant a setting was made at leaves it in force. -/
theorem InForce.advance (h : w.InForce t r) (awaits : r.Awaits t)
    (moved : r.advance t = ⟨a, .ok ()⟩) : w.InForce t a := by
  have there := Robot.moved_of_advance moved
  cases w with
  | speeds x y =>
    obtain ⟨first, second, here, since⟩ := h
    obtain ⟨same1, same2, -⟩ := there.speeds (awaits.early here since)
    refine ⟨same1 ▸ first, same2 ▸ second, ?_, there.lastCommand ▸ since⟩
    rw [there.lastStep, later_of_le awaits.before]
  | mode code =>
    change (a.registers.mode.code.toNat : Int) = code
    rw [there.mode]
    exact h
  | acceleration value =>
    have kept : a.registers.acceleration = r.registers.acceleration := by
      obtain ⟨x, y, same | same⟩ := Robot.advance_drift moved <;> rw [same] <;> rfl
    exact kept.trans h
  | simSpeed x =>
    obtain ⟨-, kept, -⟩ := Robot.advance_unwritten r t
    rw [moved] at kept
    exact kept.trans h
  | placeX n | placeY n | placeHeading x => trivial

/-- A query leaves a setting in force. -/
theorem InForce.query {q : Query} (h : w.InForce t r) (awaits : r.Awaits t)
    (takes : Robot.Takes t (.query q) r a m) : w.InForce t m := by
  have force := h.advance awaits takes.moved
  have registers : m.registers = a.registers := takes.registers
  have factor : m.simSpeed = a.simSpeed := takes.simSpeed
  cases w with
  | speeds x y =>
    obtain ⟨first, second, -, since⟩ := force
    exact ⟨registers ▸ first, registers ▸ second, takes.lastStep, registers ▸ since⟩
  | mode code =>
    change (m.registers.mode.code.toNat : Int) = code
    rw [registers]
    exact force
  | acceleration value => exact (congrArg Registers.acceleration registers).trans force
  | simSpeed x => exact factor.trans force
  | placeX n | placeY n | placeHeading x => trivial

/-- Queries that follow a setting at the same instant are answered with it. -/
theorem InForce.answers (h : w.InForce t r) (fits : w.Fits) (awaits : r.Awaits t)
    (arrived : ¬ now < t) {asks : List (Query × Reply Float)} (about : ∀ p ∈ asks, p ∈ w.replies)
    (queue : r.queue = encode (asks.map fun p => (.query p.1, t))) (ran : Robot.Ran now r s) :
    ∃ bytes, s.telemetry = r.telemetry ++ bytes ∧ Spells asks bytes := by
  induction asks generalizing r with
  | nil =>
    have same := Robot.telemetry_advance r now
    rw [ran.last queue] at same
    exact ⟨[], by simpa using same, .nil⟩
  | cons p asks ih =>
    -- The first query is answered while the setting is in force, and leaves it so for the others.
    obtain ⟨a, m, takes, awaits', ran'⟩ := awaits.first queue arrived ran
    have force : w.InForce t m := h.query awaits takes
    obtain ⟨bytes, sent, spells⟩ := takes.replied
    obtain ⟨others, rest, spells'⟩ :=
      ih (r := { m with queue := encode (asks.map fun p => (.query p.1, t)) }) force awaits'
        (fun p hp => about p (by simp [hp])) rfl ran'
    have reading : a.reading p.1 = p.2 :=
      (h.advance awaits takes.moved).reading fits (about p (by simp))
    have spelled : Spells [p] bytes := by
      simpa [Command.query?, reading] using spells
    exact ⟨bytes ++ others, by rw [rest, ← List.append_assoc, ← sent], spelled.append spells'⟩

/-- The mode register after one of the four modes has been written. -/
theorem code_after (m : Mode) {code : Int} (fits : 0 ≤ code ∧ code ≤ 3) :
    ((m.after (.mode code.toNat.toUInt8)).code.toNat : Int) = code := by
  obtain rfl | rfl | rfl | rfl : code = 0 ∨ code = 1 ∨ code = 2 ∨ code = 3 := by omega
  all_goals rfl

/-- The commands of a setting put it in force and send nothing. -/
theorem inForce_of_commands (fits : w.Fits) (awaits : r.Awaits t) (arrived : ¬ now < t)
    (queue : r.queue = encode (w.commands.map (·, t) ++ more)) (ran : Robot.Ran now r s) :
    ∃ m, m.Awaits t ∧ w.InForce t m ∧ m.telemetry = r.telemetry ∧ m.queue = encode more ∧
      Robot.Ran now m s := by
  cases w with
  | speeds x y =>
    obtain ⟨a, m, first, awaits', ran'⟩ := awaits.first queue arrived ran
    obtain ⟨b, n, second, awaits'', ran''⟩ := awaits'.first rfl arrived ran'
    -- The watch may have stopped the motors before the first speed, but not before the second.
    have since := first.since awaits rfl
    obtain ⟨kept, -, -⟩ := (Robot.moved_of_advance second.moved).speeds
      (awaits'.early first.lastStep since)
    have speed1 : n.registers.speed1 = x.toNat.toUInt8 := by
      rw [second.registers]
      exact kept.trans (congrArg Registers.speed1 first.registers)
    have speed2 : n.registers.speed2 = y.toNat.toUInt8 :=
      congrArg Registers.speed2 second.registers
    have force : (speeds x y).InForce t n :=
      ⟨speed1 ▸ toNat_of_byte fits.1, speed2 ▸ toNat_of_byte fits.2, second.lastStep,
        second.since awaits' rfl⟩
    exact ⟨_, awaits'', force, (second.quiet rfl).trans (first.quiet rfl), rfl, ran''⟩
  | mode code =>
    obtain ⟨a, m, takes, awaits', ran'⟩ := awaits.first queue arrived ran
    have force : (mode code).InForce t m := by
      change (m.registers.mode.code.toNat : Int) = code
      rw [takes.registers, Registers.mode_apply]
      exact code_after a.registers.mode fits
    exact ⟨_, awaits', force, takes.quiet rfl, rfl, ran'⟩
  | acceleration value =>
    obtain ⟨a, m, takes, awaits', ran'⟩ := awaits.first queue arrived ran
    have force : (acceleration value).InForce t m := by
      obtain ⟨low, high⟩ := fits
      have written : m.registers.acceleration = _ :=
        congrArg Registers.acceleration takes.registers
      refine written.trans ?_
      simp [Registers.apply, Registers.setAcceleration]
      omega
    exact ⟨_, awaits', force, takes.quiet rfl, rfl, ran'⟩
  | simSpeed x =>
    obtain ⟨a, m, takes, awaits', ran'⟩ := awaits.first queue arrived ran
    exact ⟨_, awaits', takes.simSpeed, takes.quiet rfl, rfl, ran'⟩
  | placeX n | placeY n | placeHeading x =>
    obtain ⟨a, m, takes, awaits', ran'⟩ := awaits.first queue arrived ran
    exact ⟨_, awaits', trivial, takes.quiet rfl, rfl, ran'⟩

/-- A command that places the robot sets its own coordinate and leaves the others. -/
theorem placed_of_perform {c : Command} {place : Pose Float → Pose Float} (fits : w.Fits)
    (places : w.place? = some place) (one : w.commands = [c])
    (performed : r.perform c t = ⟨m, .ok ()⟩) :
    m.track.pose = place (r.advance t).state.track.pose := by
  obtain ⟨a, e, moved, executed, rfl⟩ := Robot.perform_ok performed
  rw [moved]
  cases w with
  | placeX n =>
    cases places
    cases one
    cases executed
    change (⟨Scalar.ofInt _, _, _⟩ : Pose Float) = ⟨Scalar.ofInt n, _, _⟩
    rw [toNat_of_word fits]
    rfl
  | placeY n =>
    cases places
    cases one
    cases executed
    change (⟨_, Scalar.ofInt _, _⟩ : Pose Float) = ⟨_, Scalar.ofInt n, _⟩
    rw [toNat_of_word fits]
    rfl
  | placeHeading x =>
    cases places
    cases one
    cases executed
    change (⟨_, _, Heading.normalize (Scalar.ofInt _ / _)⟩ : Pose Float) =
      ⟨_, _, Heading.normalize (Scalar.ofInt (Scalar.nearest (scaled x)) / _)⟩
    rw [toNat_of_word fits.2]
    rfl
  | speeds | mode | acceleration | simSpeed => cases places

end Setting

open Setting in
/-- A running robot that waits for nothing is made a setting by a client, at a finite time that it
has not been moved past, and is asked about it at the same time; it has the patience to wait for no
time at all. A setting out of range is refused, and then there are no commands. One within its range
is sent; if the tick that takes it is not refused, every query about it is answered with what was
set, however overdue the motors were before. A coordinate is placed where the robot has moved to
when the command is executed, and the others are left as they are there. -/
theorem Simulation.settings_read_back (sim : Simulation Float) (w : Setting) (t now : Float)
    (running : sim.running = true) (empty : sim.robot.queue = []) (finite : t.isFinite = true)
    (written : sim.robot.registers.lastCommand.isFinite = true)
    (before : sim.robot.lastStep ≤ t) (arrived : t ≤ now)
    (patient : sim.robot.chassis.motorTimeout.reaches zero = .ok true) :
    (¬ w.Fits → w.request = .error w.refusal) ∧
    (w.Fits → w.request = .ok w.commands ∧
      ∀ asks : List (Query × Reply Float), (∀ p ∈ asks, p ∈ w.replies) →
        let sent := sim.push ((w.exchange asks).flatMap Command.bytes) t
        let ticked := sent.tick now
        ticked.result.isOk = true →
        (∃ bytes, ticked.state.robot.telemetry = sim.robot.telemetry ++ bytes ∧
          Spells asks bytes) ∧
        ∀ place, w.place? = some place → ∃ c m, w.commands = [c] ∧
          sent.robot.perform c t = ⟨m, .ok ()⟩ ∧
          m.track.pose = place (sent.robot.advance t).state.track.pose ∧
          ({ m with queue := [] } : Robot Float).advance now = ⟨ticked.state.robot, .ok ()⟩) := by
  refine ⟨request_of_not_fits, fun fits => ⟨request_of_fits fits, ?_⟩⟩
  intro asks about sent ticked ok
  have queue : sent.robot.queue =
      encode (w.commands.map (·, t) ++ asks.map fun p => (.query p.1, t)) := by
    refine (congrArg (· ++ _) empty).trans ((List.nil_append _).trans ?_)
    rw [stampAll_flatMap_bytes, exchange, List.map_append, List.map_map]
    rfl
  have ran : Robot.Ran now sent.robot ticked.state.robot := by
    cases done : ticked.result with
    | ok answer => exact Simulation.tick_ran (s := sent) running done
    | error f => simp [done, Except.isOk, Except.toBool] at ok
  have awaits : sent.robot.Awaits t := ⟨finite, before, patient, written⟩
  have late : ¬ now < t := not_lt_of_le arrived
  constructor
  · obtain ⟨m, awaits', force, quiet, rest, ran'⟩ :=
      inForce_of_commands fits awaits late queue ran
    obtain ⟨bytes, answered, spells⟩ := force.answers fits awaits' late about rest ran'
    exact ⟨bytes, by rw [answered, quiet]; rfl, spells⟩
  · intro place places
    obtain ⟨c, one, none⟩ : ∃ c, w.commands = [c] ∧ w.replies = [] := by
      cases w with
      | placeX | placeY | placeHeading => exact ⟨_, rfl, rfl⟩
      | speeds | mode | acceleration | simSpeed => cases places
    obtain rfl : asks = [] := by
      cases asks with
      | nil => rfl
      | cons p asks => simpa [none] using about p (by simp)
    rw [one] at queue
    obtain ⟨a, m, takes, -, ran'⟩ := awaits.first queue late ran
    exact ⟨c, m, one, takes.performed, placed_of_perform fits places one takes.performed,
      ran'.last rfl⟩

/-- A robot whose motors are overdue is told two speeds and asked for them, and is then turned. -/
theorem Simulation.settings_read_back_overdue :
    let sim := ((Session.standard : Session Float).perform (.start (Scalar.ofInt 3))).state.sim
    let asks : List (Query × Reply Float) := [(.speed2, .number 56), (.speed1, .number 200)]
    let told := sim.push (((Setting.speeds 200 56).exchange asks).flatMap Command.bytes)
      (Scalar.ofInt 3)
    let turned := sim.push (((Setting.placeHeading (Scalar.ofInt 725)).exchange []).flatMap
      Command.bytes) (Scalar.ofInt 3)
    sim.robot.overdue = .ok true ∧
      (∃ bytes, (told.tick (Scalar.ofInt 4)).state.robot.telemetry = bytes ∧ Spells asks bytes) ∧
      ∃ m : Robot Float, turned.robot.perform (.placeHeading 7250) (Scalar.ofInt 3) = ⟨m, .ok ()⟩ ∧
        m.track.pose.heading = Heading.normalize (Scalar.ofInt 7250 / Scalar.ofInt 10) ∧
        ({ m with queue := [] } : Robot Float).advance (Scalar.ofInt 4) =
          ⟨(turned.tick (Scalar.ofInt 4)).state.robot, .ok ()⟩ := by
  intro sim asks told turned
  have every (w : Setting) := settings_read_back sim w (Scalar.ofInt 3) (Scalar.ofInt 4) rfl rfl
    (by decide +kernel) (by decide +kernel) (by decide +kernel) (by decide +kernel)
    (by decide +kernel)
  obtain ⟨-, speeds⟩ := (every (.speeds 200 56)).2 (by decide)
  obtain ⟨answered, -⟩ := speeds asks (by simp [asks, Setting.replies]) (by decide +kernel)
  obtain ⟨-, heading⟩ := (every (.placeHeading (Scalar.ofInt 725))).2 (by decide +kernel)
  obtain ⟨-, placed⟩ := heading [] (by simp) (by decide +kernel)
  obtain ⟨c, m, one, performed, pose, ended⟩ := placed _ rfl
  have tenths : Scalar.nearest (Setting.scaled (Scalar.ofInt 725)) = 7250 := by decide +kernel
  obtain rfl : c = .placeHeading 7250 := by
    rw [Setting.commands, tenths] at one
    exact (List.cons.inj one).1.symm
  have heading : m.track.pose.heading = _ := congrArg Pose.heading pose
  rw [tenths] at heading
  refine ⟨by decide +kernel, answered, m, performed, heading, ended⟩

end DifferentialDrive
