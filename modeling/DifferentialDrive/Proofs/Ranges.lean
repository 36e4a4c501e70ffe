import DifferentialDrive.Proofs.Binary64.Arithmetic
import DifferentialDrive.Proofs.Binary64.Conversion
import DifferentialDrive.Proofs.Readings

/-!
# The ranges of the registers

Every step of a robot, one that is refused included, leaves its acceleration and its encoders in
their ranges and its simulation speed either as it was made or a number of tenths
(`measured_turn`). With that the speeds of the wheels fit a signed byte, and there is no command
that a robot cannot execute (`execute_isOk`): what is refused is motion alone.
-/

namespace DifferentialDrive

open Wire Scalar

variable {α : Type}

/-! ## Ranges -/

theorem Wire.wrap32_eq_iff (n : Int) : wrap32 n = n ↔ -2147483648 ≤ n ∧ n ≤ 2147483647 := by
  have low := Int.le_bmod (x := n) (show 0 < 0x100000000 by decide)
  have high := Int.bmod_lt (x := n) (show 0 < 0x100000000 by decide)
  unfold wrap32
  constructor
  · omega
  · rintro ⟨lower, upper⟩
    exact Int.bmod_eq_of_le (by omega) (by omega)

@[simp] theorem Wire.lowByte_toNat (n : Int) : ((lowByte n).toNat : Int) = n % 256 := by
  simp only [lowByte, UInt8.toNat_ofNat']
  omega

theorem signedByte_between (n : Int) : -128 ≤ signedByte n ∧ signedByte n ≤ 127 := by
  have low := Int.le_bmod (x := n) (show 0 < 256 by decide)
  have high := Int.bmod_lt (x := n) (show 0 < 256 by decide)
  unfold signedByte
  omega

/-- Whether both speeds are those of a signed byte. -/
def WithinByte (u : Int × Int) : Prop :=
  (-128 ≤ u.1 ∧ u.1 ≤ 127) ∧ (-128 ≤ u.2 ∧ u.2 ≤ 127)

theorem turning_withinByte {speed turn : Int} (hs : -128 ≤ speed ∧ speed ≤ 127)
    (ht : -128 ≤ turn ∧ turn ≤ 127) : WithinByte (turning speed turn) := by
  unfold turning WithinByte
  split <;> dsimp only <;> omega

/-- Two bytes are read as wheel speeds of one byte each, whatever the mode. -/
theorem wheelUnits_withinByte (m : Mode) {a b : Int} (ha : 0 ≤ a ∧ a ≤ 255)
    (hb : 0 ≤ b ∧ b ≤ 255) : WithinByte (wheelUnits m a b) := by
  cases m with
  | centred =>
    simp only [wheelUnits, WithinByte]
    omega
  | signed => exact ⟨signedByte_between a, signedByte_between b⟩
  | centredTurn =>
    simp only [wheelUnits, WithinByte]
    split <;> omega
  | signedTurn => exact turning_withinByte (signedByte_between a) (signedByte_between b)

theorem Mode.ofCode_code (m : Mode) :
    (Mode.ofCode m.code.toNat : Except (Fault α) Mode) = .ok m := by
  simp [ofCode]

theorem Mode.code_toNat_le (m : Mode) : m.code.toNat ≤ 3 := by
  cases m <;> decide

theorem byte_between (b : UInt8) : 0 ≤ (b.toNat : Int) ∧ (b.toNat : Int) ≤ 255 := by
  have := b.toNat_lt
  omega

namespace Registers

/-- The ranges of the registers. -/
structure InRange (r : Registers α) : Prop where
  speeds : r.speed1.toNat ≤ 255 ∧ r.speed2.toNat ≤ 255
  modes : r.mode.code.toNat ≤ 3 ∧ r.decodeMode.code.toNat ≤ 3
  acceleration : 1 ≤ r.acceleration ∧ r.acceleration ≤ 10
  encoder1 : -2147483648 ≤ r.encoder1 ∧ r.encoder1 ≤ 2147483647
  encoder2 : -2147483648 ≤ r.encoder2 ∧ r.encoder2 ≤ 2147483647

/-- The range of the acceleration. -/
def Eager (r : Registers α) : Prop := 1 ≤ r.acceleration ∧ r.acceleration ≤ 10

theorem inRange {r : Registers α} (eager : r.Eager) (wrapped : r.Wrapped) : r.InRange where
  speeds := ⟨Nat.lt_succ_iff.1 r.speed1.toNat_lt, Nat.lt_succ_iff.1 r.speed2.toNat_lt⟩
  modes := ⟨r.mode.code_toNat_le, r.decodeMode.code_toNat_le⟩
  acceleration := eager
  encoder1 := (wrap32_eq_iff _).1 wrapped.1
  encoder2 := (wrap32_eq_iff _).1 wrapped.2

theorem units_withinByte (r : Registers α) : WithinByte r.units :=
  wheelUnits_withinByte _ (byte_between _) (byte_between _)

end Registers

variable [Scalar α]

theorem Registers.eager_apply {r : Registers α} (h : r.Eager) (t : α) (c : Command) :
    (r.apply t c).Eager := by
  cases c with
  | acceleration v =>
    simp only [apply, Eager, setAcceleration]
    omega
  | mode code =>
    simp only [apply]
    cases Mode.ofCode? code.toNat <;> exact h
  | _ => exact h

/-! ## What every step keeps -/

namespace Robot

/-- A robot with its acceleration and its encoders in range, and with a simulation speed that is
the one it was made with or a number of tenths. -/
structure Measured (factor : α) (r : Robot α) : Prop where
  eager : r.registers.Eager
  wrapped : r.registers.Wrapped
  simSpeed : r.simSpeed = factor ∨ ∃ w, r.simSpeed = ofTenths w

theorem measured_turn (factor : α) (r s : Robot α) (turn : Turn r s) (h : Measured factor r) :
    Measured factor s := by
  obtain ⟨eager, wrapped, speed⟩ := h
  cases turn with
  | work step =>
    cases step with
    | settle => exact ⟨eager, r.registers.wrapped_addCounts _ _, speed⟩
    | @execute s now c rest found executed =>
      have effect := execute_effect executed
      refine ⟨?_, ?_, ?_⟩
      · simpa [effect.registers] using Registers.eager_apply eager _ c
      · simpa [effect.registers] using wrapped_apply wrapped r.commandTime c
      · change s.simSpeed = factor ∨ ∃ w, s.simSpeed = ofTenths w
        rw [effect.simSpeed]
        cases c with
        | simSpeed w => exact .inr ⟨w, rfl⟩
        | _ => exact speed
    | stray | unknown | halt | follow | arrive => exact ⟨eager, wrapped, speed⟩
  | receive | clear | drain | remark | resume => exact ⟨eager, wrapped, speed⟩

theorem measured_initial (chassis : Chassis α) (factor start : α) (timeout : Bool) :
    Measured factor (.initial chassis factor start timeout) :=
  ⟨⟨(by decide : (1 : Int) ≤ 5), (by decide : (5 : Int) ≤ 10)⟩, ⟨rfl, rfl⟩, .inl rfl⟩

/-! ## Commands are not refused -/

omit [Scalar α] in
theorem registerByte_isOk {n : Int} (fits : 0 ≤ n ∧ n ≤ 255) :
    ∃ bytes, (registerByte n : Except (Fault α) _) = .ok bytes :=
  ⟨_, if_pos fits⟩

/-- The acceleration fits a byte and the encoders fit four; what may fail is to count the simulation
speed in tenths. -/
theorem answer_isOk {r : Robot α} (eager : r.registers.Eager) (wrapped : r.registers.Wrapped)
    (q : Query) (counted : q = .simSpeed → ∃ n, toNearest (r.simSpeed * ofInt 10) = .ok n) :
    ∃ bytes, r.answer q = .ok bytes := by
  have first := counterPayload_of_wrapped (α := α) wrapped.1
  have second := counterPayload_of_wrapped (α := α) wrapped.2
  cases q with
  | encoder1 => exact ⟨_, first⟩
  | encoder2 => exact ⟨_, second⟩
  | encoders => exact ⟨_, by rw [answer, first, second]; rfl⟩
  | acceleration =>
    obtain ⟨low, high⟩ := eager
    exact registerByte_isOk (by omega)
  | simSpeed =>
    obtain ⟨n, same⟩ := counted rfl
    exact ⟨_, by rw [answer, same]; rfl⟩
  | _ => exact ⟨_, rfl⟩

theorem execute_isOk {r : Robot α} (eager : r.registers.Eager) (wrapped : r.registers.Wrapped)
    (c : Command)
    (counted : c = .query .simSpeed → ∃ n, toNearest (r.simSpeed * ofInt 10) = .ok n) :
    ∃ s, r.execute c = ⟨s, .ok ()⟩ := by
  cases c with
  | query q =>
    obtain ⟨bytes, answered⟩ := answer_isOk eager wrapped q fun same => counted (congrArg _ same)
    exact ⟨_, by rw [execute, answered]⟩
  | mode code =>
    simp only [execute]
    split <;> exact ⟨_, rfl⟩
  | _ => exact ⟨_, rfl⟩

end Robot

/-! ## Tenths that are machine numbers -/

namespace Binary64

theorem toNearest_isOk {x : Float} (h : x.isFinite = true) :
    ∃ n, Scalar.toNearest x = .ok n :=
  ⟨_, by rw [Scalar.toNearest, finite_ok h]; rfl⟩

/-- Tenths that two bytes can hold, divided and rounded once. -/
theorem near_tenths (w : UInt16) :
    (Robot.ofTenths w : Float).isFinite = true ∧
      Near (value (Robot.ofTenths w : Float)) (w.toNat / 10) ∧
      |value (Robot.ofTenths w : Float)| ≤ 2 ^ 13 := by
  have small : (w.toNat : ℚ) ≤ 65536 := by exact_mod_cast w.toNat_lt.le
  obtain ⟨whole, value_whole⟩ := value_ofInt_of_small (n := w.toNat) (by
    rw [Nat.abs_cast]
    exact_mod_cast w.toNat_lt.le.trans (by norm_num))
  obtain ⟨ten, value_ten⟩ := value_ofInt_of_small (n := 10) (by decide)
  have divided := rounds_div whole ten (by rw [value_ten]; norm_num)
  rw [value_whole, value_ten, Int.cast_natCast, Int.cast_ofNat] at divided
  have bound : |(w.toNat : ℚ) / 10| ≤ ((2 ^ 13 : ℤ) : ℚ) := by
    rw [abs_of_nonneg (by positivity)]
    push_cast
    linarith
  have finite := divided.isFinite_of_abs_le (bound.trans (by norm_num))
  have size := (divided.near finite).abs_le_of_abs_le (grid_intCast (by norm_num)) bound
  exact ⟨finite, divided.near finite, by exact_mod_cast size⟩

/-- Ten times tenths, rounded once more. -/
theorem rounds_tenths (w : UInt16) :
    Rounds (Robot.ofTenths w * Scalar.ofInt 10 : Float)
      (value (Robot.ofTenths w : Float) * 10) := by
  obtain ⟨ten, value_ten⟩ := value_ofInt_of_small (n := 10) (by decide)
  have product := rounds_mul (near_tenths w).1 ten
  rwa [value_ten] at product

/-- Tenths that two bytes can hold are finite, and so is ten times as much. -/
theorem isFinite_tenths (w : UInt16) :
    (Robot.ofTenths w * Scalar.ofInt 10 : Float).isFinite = true := by
  obtain ⟨-, -, size⟩ := near_tenths w
  refine (rounds_tenths w).isFinite_of_abs_le ?_
  calc |value (Robot.ofTenths w : Float) * 10|
    _ = |value (Robot.ofTenths w : Float)| * 10 := by rw [abs_mul]; norm_num
    _ ≤ 2 ^ 13 * 10 := by gcongr
    _ ≤ 2 ^ 53 := by norm_num

end Binary64

open Binary64

/-- A robot whose first simulation speed can be counted in tenths can count every later one. -/
theorem Robot.Measured.counted {factor : Float} {r : Robot Float} (h : r.Measured factor)
    (countable : (factor * Scalar.ofInt 10).isFinite = true) :
    ∃ n, Scalar.toNearest (r.simSpeed * Scalar.ofInt 10) = .ok n := by
  obtain same | ⟨w, same⟩ := h.simSpeed
  · rw [same]
    exact toNearest_isOk countable
  · rw [same]
    exact toNearest_isOk (isFinite_tenths w)

/-- In every session on a fresh simulation in which no register is set from outside, whether or not
its actions are refused, and in the middle of its runs as well: the registers are in their ranges,
the mode of reading is one of the four and the speeds of the wheels fit a signed byte. No command
is refused, whenever it arrives, if the first simulation speed can be counted in tenths or the
command does not ask for it. The bytes that wait are the low bytes of the codes that were sent. -/
theorem Session.registers_inRange (chassis : Chassis Float) (arena : Arena Float)
    (factor start : Float) (timeout : Bool) (client : Timeline Float) (keys : Keyboard)
    (world : World) (line : Bool) (socket : Option Socket) (actions : List (Session.Action Float))
    (usual : ∀ a ∈ actions, a.pokes = false) :
    let fresh : Session Float :=
      ⟨⟨.initial chassis arena factor start timeout, world, line, socket⟩, client, keys⟩
    (∀ r : Robot Float, r = (fresh.after actions).sim.robot ∨
        (∃ l ∈ fresh.legs actions, r = l.robot ∨ r = l.arrived) →
      r.registers.InRange ∧ (∀ b ∈ r.queue, b.code.toNat ≤ 255) ∧
      (Mode.ofCode r.registers.decodeMode.code.toNat : Except (Fault Float) Mode).map
          (wheelUnits · r.registers.speed1.toNat r.registers.speed2.toNat) =
        .ok r.registers.units ∧
      WithinByte r.registers.units ∧
      ∀ c stamp, (c = .query .simSpeed → (factor * Scalar.ofInt 10).isFinite = true) →
        ∃ s, ({ r with commandTime := stamp } : Robot Float).execute c = ⟨s, .ok ()⟩) ∧
    ∀ (codes : List Int) stamp,
      let pushed := ((fresh.after actions).perform (.push (codes.map lowByte) stamp)).state
      pushed.sim.robot.queue.map (fun b => (b.code.toNat : Int)) =
        (fresh.after actions).sim.robot.queue.map (fun b => (b.code.toNat : Int)) ++
          codes.map (· % 256) := by
  intro fresh
  have reached {r : Robot Float} (h : Robot.Turns fresh.sim.robot r) : r.Measured factor :=
    kept_of_chain (Robot.measured_turn factor) h
      (Robot.measured_initial chassis factor start timeout)
  refine ⟨fun r h => ?_, fun codes stamp => ?_⟩
  · have measured : r.Measured factor := by
      obtain rfl | ⟨l, inside, rfl | rfl⟩ := h
      · exact reached (fresh.turns_after usual)
      · exact reached (turns_legs usual inside)
      · exact reached ((turns_legs usual inside).trans (Robot.works_advance l.robot l.limit).turns)
    refine ⟨Registers.inRange measured.eager measured.wrapped,
      fun b _ => Nat.lt_succ_iff.1 b.code.toNat_lt, by rw [Mode.ofCode_code]; rfl,
      r.registers.units_withinByte, fun c stamp countable => ?_⟩
    exact Robot.execute_isOk (r := { r with commandTime := stamp }) measured.eager
      measured.wrapped c fun asks => measured.counted (countable asks)
  · simp [perform, Simulation.push, Robot.push, Robot.receive, stampAll]

/-- A robot is told an acceleration that is too large and is then run without end. -/
def Session.overrun : List (Session.Action Float) :=
  [.start Scalar.zero, .push [0, 0x33, 200] Scalar.zero, .tick Scalar.zero,
    .tick (Scalar.ofInt 1 / Scalar.zero)]

/-- The run is refused, and no command is refused after it. -/
theorem Session.registers_inRange_overrun :
    ((Session.standard : Session Float).outcomes overrun).map (·.result.isOk) =
        [true, true, true, false] ∧
      (Session.standard.after overrun).sim.robot.registers.acceleration = 10 ∧
      (Session.standard.after overrun).sim.robot.registers.InRange ∧
      ∀ c stamp, ∃ s,
        ({ (Session.standard.after overrun).sim.robot with commandTime := stamp } :
          Robot Float).execute c = ⟨s, .ok ()⟩ := by
  have every := registers_inRange .standard .standard (Scalar.ofInt 1) Scalar.zero true
    ⟨.standard, Scalar.zero, Scalar.ofInt 1, {}⟩ {} { machine := .looped } false none overrun
    (by decide)
  obtain ⟨ranges, -, -, -, executes⟩ := every.1 _ (.inl rfl)
  exact ⟨by decide +kernel, by decide +kernel, ranges,
    fun c stamp => executes c stamp fun _ => by decide +kernel⟩

end DifferentialDrive
