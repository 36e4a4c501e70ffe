import DifferentialDrive.Proofs.Binary64.Arithmetic
import DifferentialDrive.Proofs.Binary64.Conversion
import DifferentialDrive.Proofs.Moves
import DifferentialDrive.Proofs.Replies

/-!
# A held speed

A hold sends its speeds at instants that are one keepalive apart (`Spaced`). A robot that is run
goes through them in order, and `Stage` says how far it has come: it waits for the mode, it has the
mode, it has one of the two speeds, it has both, or the hold is over. Each frame and each move of a
run leads from one stage to the next (`Follows.command`, `Follows.idle`). While both speeds are
there the silence is never longer than the keepalive, also where the instants are rounded
(`silence_le`), so the watch leaves the motors alone.
-/

namespace DifferentialDrive

open Wire Scalar Binary64

/-! ## Silence -/

namespace Binary64

/-- Less than one keepalive after a command, as it is rounded, the silence is no longer than a
keepalive, as it is rounded. -/
theorem silence_le {u l s k : Float} (hu : u.isFinite = true) (hl : l.isFinite = true)
    (hs : s.isFinite = true) (positive : zero < k) (since : u ≤ l)
    (soon : s < u + k ∨ s ≤ u) : s - l ≤ k := by
  have difference := rounds_sub hs hl
  have sinceValue := (le_iff_value hu hl).1 since
  have zeroFinite : (zero : Float).isFinite = true := rfl
  have above : (zero : Float) ≤ k := (Ordered.lt_iff.1 positive).1
  cases hk : k.isFinite with
  | false => exact le_of_not_isFinite difference.isNaN zeroFinite above hk
  | true =>
    have kValue : 0 ≤ value k := (le_iff_value zeroFinite hk).1 above
    refine difference.le hk ?_
    by_contra! long
    obtain before | reached := soon
    · -- the command would then be more than a keepalive ago, and so would it be when rounded
      have sum := (rounds_add hu hk).le hs (by linarith)
      exact not_lt_of_le sum before
    · have := (le_iff_value hs hu).1 reached
      linarith

end Binary64

/-- What reaches a quantity is not above it, nor is anything less. -/
theorem Quantity.isBelow_of_reaches {q : Quantity Float} {x k : Float}
    (reached : q.reaches k = .ok true) (notNegative : zero ≤ k) (le : x ≤ k) :
    q.isBelow x = .ok false := by
  cases q with
  | unusable => cases reached
  | scalar y =>
    have order : k ≤ y := by simpa using reached
    simpa using not_lt_of_le (Ordered.le_trans le order)
  | whole n =>
    obtain ⟨number, kNumber⟩ := isNaN_of_le le
    have bounded {y : Float} (hy : y.isNaN = false) : y.isFinite = !y.isInf := by
      rw [isFinite_eq, hy, Bool.not_false, Bool.true_and]
    have zeroFinite : (zero : Float).isFinite = true := rfl
    simp only [reaches, isBelow, Scalar.isInfinite, Scalar.isNaN, Except.ok.injEq] at reached ⊢
    split at reached
    · have early : k < zero := by simpa using reached
      exact absurd early (not_lt_of_le notNegative)
    · next kBounded =>
      have kFinite : k.isFinite = true := by simpa [bounded kNumber] using kBounded
      rw [kNumber, ceiling_eq kFinite] at reached
      split
      · next unbounded =>
        have below : ¬ zero < x := by
          intro above
          have := isFinite_of_le_of_le zeroFinite kFinite (Ordered.lt_iff.1 above).1 le
          simp [bounded number, unbounded] at this
        simpa using below
      · next xBounded =>
        have xFinite : x.isFinite = true := by simpa [bounded number] using xBounded
        have order := Int.ceil_le_ceil ((le_iff_value xFinite kFinite).1 le)
        rw [number, ceiling_eq xFinite]
        simp at reached ⊢
        exact order.trans reached

/-! ## The instants of a hold -/

/-- Instants one keepalive apart: another one follows as long as it comes before the end. -/
inductive Spaced (keepalive finish : Float) : List Float → Prop
  | last {u} : finish ≤ u + keepalive → Spaced keepalive finish [u]
  | next {u us} : u < u + keepalive → ¬ finish ≤ u + keepalive →
      Spaced keepalive finish ((u + keepalive) :: us) →
      Spaced keepalive finish (u :: (u + keepalive) :: us)

theorem Timeline.holdStamps_spaced {keepalive finish t : Float} {fuel : Nat} {stamps : List Float}
    (h : holdStamps keepalive finish fuel t = some stamps) :
    ∃ rest, stamps = t :: rest ∧ Spaced keepalive finish (t :: rest) := by
  induction fuel generalizing t stamps with
  | zero => cases h
  | succ fuel ih =>
    rw [holdStamps] at h
    split_ifs at h with reached moves
    · exact ⟨[], (Option.some.inj h).symm, .last reached⟩
    · obtain ⟨others, found, rfl⟩ := Option.map_eq_some_iff.1 h
      obtain ⟨rest, rfl, spaced⟩ := ih found
      exact ⟨_, rfl, .next moves reached spaced⟩

namespace Spaced

variable {keepalive finish u v : Float} {us : List Float}

theorem finish_isNaN (h : Spaced keepalive finish us) : finish.isNaN = false := by
  induction h with
  | last reached => exact (isNaN_of_le reached).1
  | next _ _ _ ih => exact ih

/-- The next instant is a keepalive later, and it comes before the end. -/
theorem head_next (h : Spaced keepalive finish (u :: v :: us)) (hu : u.isFinite = true) :
    v = u + keepalive ∧ u < v ∧ v < finish ∧ v.isFinite = true ∧
      Spaced keepalive finish (v :: us) := by
  cases h with
  | next moves early rest =>
    have later := (Ordered.lt_iff.1 moves).1
    have number := (isNaN_of_le later).2
    have reached : u + keepalive ≤ finish :=
      le_of_not_lt rest.finish_isNaN number fun h => early (Ordered.lt_iff.1 h).1
    have before : u + keepalive < finish := Ordered.lt_iff.2 ⟨reached, early⟩
    exact ⟨rfl, moves, before, isFinite_of_le_of_lt hu later before, rest⟩

end Spaced

/-- A command at a finite time leaves the time of the last speed finite. -/
theorem Registers.isFinite_lastCommand_apply {r : Registers Float} {t : Float}
    (ht : t.isFinite = true) (written : r.lastCommand.isFinite = true) (c : Command) :
    (r.apply t c).lastCommand.isFinite = true := by
  rw [lastCommand_apply]
  split
  · obtain same | same := later_eq_or t r.lastCommand <;> rwa [same]
  · exact written

/-! ## How far a hold has come -/

/-- A hold as it is sent. -/
structure Hold where
  start : Float
  finish : Float
  keepalive : Float
  speed1 : UInt8
  speed2 : UInt8

namespace Hold

/-- The speeds sent at given instants. -/
def speedsAt (h : Hold) (us : List Float) : List (Command × Float) :=
  us.flatMap fun u => [(.speed1 h.speed1, u), (.speed2 h.speed2, u)]

/-- The units of the wheels. -/
def units (h : Hold) : Int × Int := wheelUnits .centred h.speed1.toNat h.speed2.toNat

/-- How far a robot has come in a hold. -/
inductive Stage (h : Hold) (r : Robot Float) : Prop
  /-- The mode has not been taken. -/
  | waiting {us} (queue : r.queue = encode ((.mode 0, h.start) :: h.speedsAt (h.start :: us)))
      (finite : h.start.isFinite = true) (spaced : Spaced h.keepalive h.finish (h.start :: us))
      (before : r.lastStep ≤ h.start)
  /-- The mode is there, and the robot has come to the first instant. -/
  | moded {u us} (queue : r.queue = encode (h.speedsAt (u :: us))) (finite : u.isFinite = true)
      (spaced : Spaced h.keepalive h.finish (u :: us)) (here : r.lastStep = u)
      (mode : r.registers.mode = .centred)
  /-- At an instant the first speed has been taken. -/
  | half {u us} (queue : r.queue = encode ((.speed2 h.speed2, u) :: h.speedsAt us))
      (finite : u.isFinite = true) (spaced : Spaced h.keepalive h.finish (u :: us))
      (here : r.lastStep = u) (mode : r.registers.mode = .centred)
      (speed1 : r.registers.speed1 = h.speed1) (since : u ≤ r.registers.lastCommand)
  /-- Both speeds are there since an instant, and the next or the end has not come. -/
  | held {u us} (queue : r.queue = encode (h.speedsAt us)) (finite : u.isFinite = true)
      (spaced : Spaced h.keepalive h.finish (u :: us)) (after : u ≤ r.lastStep)
      (soon : r.lastStep < u + h.keepalive) (early : r.lastStep < h.finish)
      (mode : r.registers.mode = .centred) (decode : r.registers.decodeMode = .centred)
      (speed1 : r.registers.speed1 = h.speed1) (speed2 : r.registers.speed2 = h.speed2)
      (since : u ≤ r.registers.lastCommand)
  | ended (queue : r.queue = []) (late : ¬ r.lastStep < h.finish)

/-- A robot that the watch leaves alone for a keepalive after a speed. -/
structure Fed (h : Hold) (r : Robot Float) : Prop where
  reached : r.chassis.motorTimeout.reaches h.keepalive = .ok true
  positive : zero < h.keepalive
  number : r.lastStep.isNaN = false
  finite : r.registers.lastCommand.isFinite = true

/-- A leg that begins within the hold and has a length is gone through at the speeds of the hold,
and the watch does not stop it. -/
def Drives (h : Hold) (l : Leg Float) : Prop :=
  l.robot.lastStep < later l.limit l.robot.lastStep → h.start ≤ l.robot.lastStep →
    l.robot.lastStep < h.finish → l.units = .ok h.units ∧ l.robot.overdue = .ok false

variable {h : Hold} {r m s : Robot Float} {now t u : Float} {c : Command}

@[simp] theorem speedsAt_nil : h.speedsAt [] = [] := rfl

@[simp] theorem speedsAt_cons (us : List Float) :
    h.speedsAt (u :: us) =
      (.speed1 h.speed1, u) :: (.speed2 h.speed2, u) :: h.speedsAt us := rfl

/-! ## From stage to stage -/

theorem front_of_ready {commands : List (Command × Float)} {rest : List (Stamped Float)}
    {p : Command × Float} (queue : r.queue = encode (p :: commands))
    (found : Frame.next now r.queue = .ready c t rest) : p = (c, t) ∧ rest = encode commands := by
  rw [queue, Frame.next_encode] at found
  dsimp only at found
  split at found
  · cases found
  · cases found
    exact ⟨rfl, rfl⟩

theorem early_of_waiting {commands : List (Command × Float)}
    (queue : r.queue = encode ((c, t) :: commands)) (found : Frame.next now r.queue = .waiting) :
    now < t := by
  rw [queue, Frame.next_encode] at found
  dsimp only at found
  split at found
  · assumption
  · cases found

/-- Only whole commands are in the queue. -/
theorem Stage.waits_or_ready (stage : Stage h r) (now : Float) :
    Frame.next now r.queue = .waiting ∨ ∃ c t rest, Frame.next now r.queue = .ready c t rest := by
  obtain ⟨commands, queue⟩ : ∃ commands, r.queue = encode commands := by
    cases stage with
    | waiting queue | moded queue | half queue | held queue => exact ⟨_, queue⟩
    | ended queue => exact ⟨[], queue⟩
  rw [queue, Frame.next_encode]
  rcases commands with _ | ⟨⟨c, t⟩, rest⟩
  · exact .inl rfl
  · dsimp only
    split
    · exact .inl rfl
    · exact .inr ⟨c, t, _, rfl⟩

/-- The watch leaves the motors alone for a keepalive after the speeds were sent. -/
theorem Fed.early (f : Fed h r) (hu : u.isFinite = true) (since : u ≤ r.registers.lastCommand)
    (finite : r.lastStep.isFinite = true)
    (soon : r.lastStep < u + h.keepalive ∨ r.lastStep ≤ u) : r.overdue = .ok false := by
  unfold Robot.overdue
  split
  · have silence := silence_le hu f.finite finite f.positive since soon
    exact Quantity.isBelow_of_reaches f.reached (Ordered.lt_iff.1 f.positive).1 silence
  · rfl

theorem Fed.idle (f : Fed h r) (hnow : now.isNaN = false) (moved : Robot.Moved r now s) :
    Fed h s where
  reached := by rw [moved.chassis]; exact f.reached
  positive := f.positive
  number := by
    rw [moved.lastStep]
    obtain same | same := later_eq_or now r.lastStep <;> rw [same]
    · exact hnow
    · exact f.number
  finite := by rw [moved.lastCommand]; exact f.finite

theorem Fed.command (f : Fed h r) (ht : t.isFinite = true) {rest : List (Stamped Float)}
    (performed : r.perform c t = ⟨m, .ok ()⟩) : Fed h { m with queue := rest } := by
  obtain ⟨a, moved, registers, lastStep, chassis⟩ := Robot.moved_of_perform performed
  have arrived := f.idle (isNaN_of_isFinite ht) moved
  refine ⟨chassis ▸ arrived.reached, f.positive, lastStep ▸ arrived.number, ?_⟩
  change m.registers.lastCommand.isFinite = true
  rw [registers]
  exact Registers.isFinite_lastCommand_apply ht arrived.finite c

theorem le_later_left {a b : Float} (ha : a.isFinite = true) (hb : b.isFinite = true) :
    a ≤ later a b := (le_later (isNaN_of_isFinite ha) (isNaN_of_isFinite hb)).1

theorem drives_of_early {l : Leg Float} (early : l.robot.overdue = .ok false)
    (decode : l.robot.registers.decodeMode = .centred)
    (speed1 : l.robot.registers.speed1 = h.speed1)
    (speed2 : l.robot.registers.speed2 = h.speed2) : h.Drives l := by
  intro _ _ _
  refine ⟨?_, early⟩
  rw [Leg.units_of_early early]
  simp [Registers.units, decode, speed1, speed2, units]

/-- A robot that has both speeds at an instant holds them, unless the hold ends there. -/
theorem Stage.of_both {us : List Float} (queue : s.queue = encode (h.speedsAt us))
    (finite : u.isFinite = true) (spaced : Spaced h.keepalive h.finish (u :: us))
    (here : s.lastStep = u) (mode : s.registers.mode = .centred)
    (decode : s.registers.decodeMode = .centred) (speed1 : s.registers.speed1 = h.speed1)
    (speed2 : s.registers.speed2 = h.speed2) (since : u ≤ s.registers.lastCommand) :
    Stage h s := by
  have after : u ≤ s.lastStep := here ▸ (le_iff_value finite finite).2 le_rfl
  have holds (soon : u < u + h.keepalive) (early : u < h.finish) : Stage h s :=
    .held queue finite spaced after (here ▸ soon) (here ▸ early) mode decode speed1 speed2 since
  cases us with
  | nil =>
    by_cases early : u < h.finish
    · cases spaced with
      | last reached => exact holds (lt_of_lt_of_le early reached) early
    · exact .ended queue (here ▸ early)
  | cons v us =>
    obtain ⟨rfl, moves, before, -, -⟩ := spaced.head_next finite
    exact holds moves (lt_of_lt_of_le moves (Ordered.lt_iff.1 before).1)

/-- A command that is taken leads to the next stage. -/
theorem Stage.command (f : Fed h r) (stage : Stage h r) {rest : List (Stamped Float)}
    (found : Frame.next now r.queue = .ready c t rest) (performed : r.perform c t = ⟨m, .ok ()⟩) :
    t.isFinite = true ∧ Stage h { m with queue := rest } ∧ h.Drives ⟨r, t, some c⟩ := by
  obtain ⟨a, moved, registers, lastStep, -⟩ := Robot.moved_of_perform performed
  have lastCommand : a.registers.lastCommand.isFinite = true := by
    rw [moved.lastCommand]
    exact f.finite
  have still (here : r.lastStep = t) : a.lastStep = t := by
    rw [moved.lastStep, here, later, ite_self]
  -- a leg that begins at the time of its command has no length
  have short (here : r.lastStep = t) : h.Drives ⟨r, t, some c⟩ := by
    intro onward
    dsimp only at onward
    rw [here, later, ite_self] at onward
    exact absurd onward (Scalar.lt_irrefl t)
  cases stage with
  | waiting queue finite spaced before =>
    obtain ⟨⟨rfl, rfl⟩, rfl⟩ := front_of_ready queue found
    have here : a.lastStep = h.start := by rw [moved.lastStep, later_of_le before]
    refine ⟨finite, .moded rfl finite spaced (lastStep.trans here) ?_, fun onward since => ?_⟩
    · exact congrArg Registers.mode registers
    · rw [later_of_le before] at onward
      exact absurd onward (not_lt_of_le since)
  | moded queue finite spaced here mode =>
    obtain ⟨⟨rfl, rfl⟩, rfl⟩ := front_of_ready queue found
    have since : t ≤ m.registers.lastCommand := by
      rw [registers]
      exact le_later_left finite lastCommand
    have centred : m.registers.mode = .centred := by
      rw [registers]
      exact moved.mode.trans mode
    exact ⟨finite, .half rfl finite spaced (lastStep.trans (still here)) centred
      (congrArg Registers.speed1 registers) since, short here⟩
  | half queue finite spaced here mode speed1 since =>
    obtain ⟨⟨rfl, rfl⟩, rfl⟩ := front_of_ready queue found
    have reached : r.lastStep ≤ t := here ▸ (le_iff_value finite finite).2 le_rfl
    obtain ⟨same, -, -⟩ := moved.speeds (f.early finite since (here ▸ finite) (.inr reached))
    have first : m.registers.speed1 = h.speed1 := by
      rw [registers]
      exact same.trans speed1
    have centred : m.registers.mode = .centred ∧ m.registers.decodeMode = .centred := by
      rw [registers]
      exact ⟨moved.mode.trans mode, moved.mode.trans mode⟩
    have fed : t ≤ m.registers.lastCommand := by
      rw [registers]
      exact le_later_left finite lastCommand
    exact ⟨finite, .of_both rfl finite spaced (lastStep.trans (still here)) centred.1 centred.2
      first (congrArg Registers.speed2 registers) fed, short here⟩
  | @held u us queue finite spaced after soon early mode decode speed1 speed2 since =>
    cases us with
    | nil =>
      rw [queue] at found
      cases found
    | cons v us =>
      obtain ⟨⟨rfl, rfl⟩, rfl⟩ := front_of_ready queue found
      obtain ⟨rfl, moves, before, finite', spaced'⟩ := spaced.head_next finite
      have here : a.lastStep = u + h.keepalive := by
        rw [moved.lastStep, later_of_le (Ordered.lt_iff.1 soon).1]
      have centred : m.registers.mode = .centred := by
        rw [registers]
        exact moved.mode.trans mode
      have fed : u + h.keepalive ≤ m.registers.lastCommand := by
        rw [registers]
        exact le_later_left finite' lastCommand
      have early := f.early finite since (isFinite_of_le_of_lt finite after soon) (.inl soon)
      exact ⟨finite', .half rfl finite' spaced' (lastStep.trans here) centred
        (congrArg Registers.speed1 registers) fed, drives_of_early early decode speed1 speed2⟩
  | ended queue late =>
    rw [queue] at found
    cases found

/-- A move up to an instant at which nothing more has arrived leaves the robot in its stage, unless
the hold ends on the way. -/
theorem Stage.idle (f : Fed h r) (stage : Stage h r) (hnow : now.isNaN = false)
    (found : Frame.next now r.queue = .waiting) (moved : Robot.Moved r now s) :
    Stage h s ∧ h.Drives ⟨r, now, none⟩ := by
  have stays (early : now < r.lastStep) : s.lastStep = r.lastStep := by
    rw [moved.lastStep, later, if_pos early]
  have short (early : now < r.lastStep) : h.Drives ⟨r, now, none⟩ := by
    intro onward
    dsimp only at onward
    rw [later, if_pos early] at onward
    exact absurd onward (Scalar.lt_irrefl _)
  -- what has not come to an instant that is still to come does not come to it
  have below {v : Float} (first : now < v) (second : r.lastStep < v) : s.lastStep < v := by
    rw [moved.lastStep]
    obtain same | same := later_eq_or now r.lastStep <;> rw [same] <;> assumption
  have forward : r.lastStep ≤ s.lastStep := by
    rw [moved.lastStep]
    exact (le_later hnow f.number).2
  cases stage with
  | waiting queue finite spaced before =>
    have early := early_of_waiting queue found
    refine ⟨.waiting (moved.queue.trans queue) finite spaced ?_, fun onward since => ?_⟩
    · rw [moved.lastStep]
      obtain same | same := later_eq_or now r.lastStep <;> rw [same]
      · exact (Ordered.lt_iff.1 early).1
      · exact before
    · exact short (Scalar.lt_of_lt_of_le early since) onward since
  | moded queue finite spaced here mode =>
    rw [speedsAt_cons] at queue
    have early : now < r.lastStep := by
      rw [here]
      exact early_of_waiting queue found
    exact ⟨.moded (moved.queue.trans queue) finite spaced ((stays early).trans here)
      (moved.mode.trans mode), short early⟩
  | @half u us queue finite spaced here mode speed1 since =>
    have early : now < r.lastStep := by
      rw [here]
      exact early_of_waiting queue found
    have reached : r.lastStep ≤ u := by
      rw [here]
      exact (le_iff_value finite finite).2 le_rfl
    obtain ⟨same, -, -⟩ := moved.speeds (f.early finite since (here ▸ finite) (.inr reached))
    exact ⟨.half (moved.queue.trans queue) finite spaced ((stays early).trans here)
      (moved.mode.trans mode) (same.trans speed1) (moved.lastCommand ▸ since),
      short early⟩
  | @held u us queue finite spaced after soon early mode decode speed1 speed2 since =>
    have quiet := f.early finite since (isFinite_of_le_of_lt finite after soon) (.inl soon)
    refine ⟨?_, drives_of_early quiet decode speed1 speed2⟩
    obtain ⟨first, second, read⟩ := moved.speeds quiet
    have holds (soon : s.lastStep < u + h.keepalive) (early : s.lastStep < h.finish) : Stage h s :=
      .held (moved.queue.trans queue) finite spaced (Ordered.le_trans after forward) soon early
        (moved.mode.trans mode) (read.trans decode) (first.trans speed1) (second.trans speed2)
        (moved.lastCommand ▸ since)
    cases us with
    | nil =>
      by_cases early : s.lastStep < h.finish
      · cases spaced with
        | last reached => exact holds (Scalar.lt_of_lt_of_le early reached) early
      · exact .ended (moved.queue.trans queue) early
    | cons v us =>
      rw [speedsAt_cons] at queue
      have coming := early_of_waiting queue found
      obtain ⟨rfl, -, before, -, -⟩ := spaced.head_next finite
      have soon := below coming soon
      exact holds soon (Scalar.lt_of_lt_of_le soon (Ordered.lt_iff.1 before).1)
  | ended queue late =>
    exact ⟨.ended (moved.queue.trans queue) fun early => late (Scalar.lt_of_le_of_lt forward early),
      fun _ _ early => absurd early late⟩

/-! ## Runs within a hold -/

/-- A run that is not refused follows the hold, and its legs are gone through as the hold says. -/
theorem followed_run (ran : Robot.Ran now r s) (hnow : now.isNaN = false) (fed : Fed h r)
    (stage : Stage h r) : Fed h s ∧ Stage h s ∧ ∀ l ∈ r.legs now, h.Drives l := by
  induction ran with
  | @idle r s waits advanced =>
    have moved := Robot.moved_of_advance advanced
    obtain ⟨next, drives⟩ := stage.idle fed hnow waits moved
    exact ⟨fed.idle hnow moved, next, by simpa [Robot.legs_of_waiting waits] using drives⟩
  | stray found | unknown found =>
    obtain waits | ⟨c, t, rest, ready⟩ := stage.waits_or_ready now
    · cases waits.symm.trans found
    · cases ready.symm.trans found
  | @command r m s c t rest found performed _ ih =>
    obtain ⟨finite, next, drives⟩ := stage.command fed found performed
    obtain ⟨fed', last, others⟩ := ih (fed.command finite performed) next
    refine ⟨fed', last, ?_⟩
    rw [Robot.legs_of_ready found performed]
    simpa using ⟨drives, others⟩

/-- Ticks that are not refused follow the hold. -/
theorem drives_of_ticks {s : Session Float} {ticks : List (Session.Action Float)}
    (running : s.sim.running = true)
    (numbers : ∀ a ∈ ticks, ∃ now : Float, a = .tick now ∧ now.isNaN = false)
    (ok : ∀ o ∈ s.outcomes ticks, o.result.isOk = true) (fed : Fed h s.sim.robot)
    (stage : Stage h s.sim.robot) : ∀ l ∈ s.legs ticks, h.Drives l := by
  induction ticks generalizing s with
  | nil => simp [Session.legs]
  | cons a rest ih =>
    obtain ⟨now, rfl, number⟩ := numbers a (by simp)
    have ran := Session.ran_tick running (ok (s.perform (.tick now)) (by simp [Session.outcomes]))
    obtain ⟨fed', stage', drives⟩ := followed_run ran number fed stage
    have running' : (s.perform (.tick now)).state.sim.running = true := by
      simp [Session.perform, Simulation.tick, running]
    have others := ih running' (fun b hb => numbers b (by simp [hb]))
      (fun o ho => ok o (by simp [Session.outcomes, ho])) fed' stage'
    intro l hl
    obtain here | further := List.mem_append.1 hl
    · exact drives l (by simpa [Session.legsOf, running] using here)
    · exact others l further

end Hold

/-! ## A held speed is held -/

/-- What a hold of a client sends to a robot that waits for nothing. -/
theorem Session.stage_of_hold {s : Session Float} {seconds : Float} {wheel1 wheel2 : Int}
    (empty : s.sim.robot.queue = []) (finite : s.timeline.t.isFinite = true)
    (before : s.sim.robot.lastStep ≤ s.timeline.t)
    (ok : (s.perform (.call (.holdSeconds seconds wheel1 wheel2))).result.isOk = true) :
    let s' := (s.perform (.call (.holdSeconds seconds wheel1 wheel2))).state
    ∃ h : Hold, h.start = s.timeline.t ∧ h.finish = s.timeline.t + seconds ∧
      h.keepalive = s.timeline.keepalive ∧ h.units = (wheel1, wheel2) ∧
      h.Stage s'.sim.robot ∧ s'.sim.running = s.sim.running ∧
      s'.sim.robot.chassis = s.sim.robot.chassis ∧ s'.sim.robot.lastStep = s.sim.robot.lastStep ∧
      s'.sim.robot.registers = s.sim.robot.registers := by
  cases performed : s.timeline.perform (.holdSeconds seconds wheel1 wheel2) with
  | error f => simp [perform, call, performed, Except.isOk, Except.toBool] at ok
  | ok reaction =>
    have state : (s.perform (.call (.holdSeconds seconds wheel1 wheel2))).state =
        s.react reaction := by simp only [perform, call, performed]
    intro s'
    rw [show s' = s.react reaction from state]
    obtain ⟨mode, speeds, stamps, hm, hv, found, rfl⟩ := Timeline.hold_ok performed
    obtain ⟨x, y, rfl, hx, hy⟩ := Timeline.speeds_ok hv
    obtain ⟨us, rfl, spaced⟩ := Timeline.holdStamps_spaced found
    cases hm
    refine ⟨⟨s.timeline.t, s.timeline.t + seconds, s.timeline.keepalive, x, y⟩, rfl, rfl, rfl, ?_,
      .waiting ?_ finite spaced before, rfl, rfl, rfl, rfl⟩
    · simp [Hold.units, wheelUnits, hx, hy]
    · refine (congrArg (· ++ _) empty).trans ((List.nil_append _).trans ?_)
      rw [Reaction.stamped_eq_encode]
      simp [Reaction.commands, Hold.speedsAt, List.flatMap_map]

/-- A keepalive that a quantity is reached by is a number. -/
theorem Quantity.isNaN_of_reaches {q : Quantity Float} {k : Float}
    (reached : q.reaches k = .ok true) : k.isNaN = false := by
  cases q with
  | unusable => cases reached
  | scalar y => exact (isNaN_of_le (by simpa using reached : k ≤ y)).1
  | whole n =>
    simp only [reaches, Scalar.isInfinite, Scalar.isNaN, Except.ok.injEq] at reached
    split at reached
    · have early : k < zero := by simpa using reached
      exact (isNaN_of_le (Ordered.lt_iff.1 early).1).1
    · cases number : k.isNaN <;> simp_all

/-- A running robot that waits for nothing, at finite times, is told by a client, whose cursor is
not before the time the robot has been moved to and whose keepalive is positive and no longer than
the robot's patience, to hold two speeds for some seconds. Then ticks follow, at any instants, and
none is refused. Every slice of motion that has a length and begins within the hold is made at the
speeds that were asked for, and the watch does not stop the robot in it. -/
theorem Session.held_slices (s : Session Float) (seconds : Float) (wheel1 wheel2 : Int)
    (ticks : List (Session.Action Float)) (running : s.sim.running = true)
    (empty : s.sim.robot.queue = []) (cursor : s.timeline.t.isFinite = true)
    (moved : s.sim.robot.lastStep.isFinite = true)
    (written : s.sim.robot.registers.lastCommand.isFinite = true)
    (before : s.sim.robot.lastStep ≤ s.timeline.t) (positive : ¬ s.timeline.keepalive ≤ zero)
    (patient : s.sim.robot.chassis.motorTimeout.reaches s.timeline.keepalive = .ok true)
    (numbers : ∀ a ∈ ticks, ∃ now : Float, a = .tick now ∧ now.isNaN = false) :
    let actions := .call (.holdSeconds seconds wheel1 wheel2) :: ticks
    (∀ o ∈ s.outcomes actions, o.result.isOk = true) →
    (s.after actions).sim.robot.journal.slices =
        s.sim.robot.journal.slices ++ (s.legs actions).filterMap Leg.slice? ∧
      ∀ l ∈ s.legs actions, ∀ first last units point counts,
        l.slice? = some (.moved first last units point counts) → first < last →
          s.timeline.t ≤ first → first < s.timeline.t + seconds →
            units = (wheel1, wheel2) ∧ l.robot.overdue = .ok false := by
  intro actions ok
  refine ⟨s.slices_after actions, fun l inside first last units point counts noted => ?_⟩
  obtain ⟨h, start, finish, keepalive, speeds, stage, runs, chassis, lastStep, registers⟩ :=
    stage_of_hold empty cursor before (ok _ (List.mem_cons_self ..))
  obtain ⟨rfl, rfl, same, -⟩ := Leg.of_slice? noted
  have number := Quantity.isNaN_of_reaches patient
  have awake : zero < s.timeline.keepalive := by
    have reached := (Ordered.le_total (a := (zero : Float)) rfl number).resolve_right positive
    exact Ordered.lt_iff.2 ⟨reached, positive⟩
  have fed : h.Fed _ :=
    ⟨by rw [chassis, keepalive]; exact patient, keepalive ▸ awake,
      lastStep ▸ isNaN_of_isFinite moved, registers ▸ written⟩
  intro onward since early
  obtain ⟨drives, quiet⟩ := Hold.drives_of_ticks (runs.trans running) numbers
    (fun o ho => ok o (List.mem_cons_of_mem _ ho)) fed stage l inside onward (start ▸ since)
    (finish ▸ early)
  rw [speeds, same] at drives
  exact ⟨Except.ok.inj drives, quiet⟩

/-- Ticks while two speeds are held for five seconds, and one after it. -/
def Session.steadyTicks : List (Session.Action Float) :=
  [.tick (Scalar.ofInt 1 / Scalar.ofInt 2), .tick (Scalar.ofInt 3),
    .tick (Scalar.ofInt 9 / Scalar.ofInt 2), .tick (Scalar.ofInt 9)]

/-- Whether an event is a slice that has a length and begins in a stretch of time. -/
def Event.beginsIn (start finish : Float) : Event Float → Bool
  | .moved first last .. => decide (first < last ∧ start ≤ first ∧ first < finish)
  | _ => false

/-- After three seconds the wheels turn as they were told, though the watch is on. -/
theorem Session.held_slices_steady :
    let s : Session Float := (Session.standard.perform (.start zero)).state
    let actions := .call (.holdSeconds (Scalar.ofInt 5) 100 (-50)) :: steadyTicks
    ∃ l ∈ s.legs actions, ∃ first last point counts,
      l.slice? = some (.moved first last (100, -50) point counts) ∧ first < last ∧
        Scalar.ofInt 3 ≤ first ∧ l.robot.registers.timeout = true ∧
        l.robot.overdue = .ok false := by
  intro s actions
  obtain ⟨l, inside, on, begun⟩ : ∃ l ∈ s.legs actions, l.robot.registers.timeout = true ∧
      l.slice?.any (Event.beginsIn (Scalar.ofInt 3) (s.timeline.t + Scalar.ofInt 5)) = true := by
    decide +kernel
  obtain ⟨e, noted, within⟩ := (Option.any_eq_true _ _).1 begun
  cases e with
  | moved first last units point counts =>
    obtain ⟨onward, since, early⟩ := by simpa [Event.beginsIn] using within
    have every := held_slices s (Scalar.ofInt 5) 100 (-50) steadyTicks rfl rfl
      (by decide +kernel) (by decide +kernel) (by decide +kernel) (by decide +kernel)
      (by decide +kernel) (by decide +kernel) (by simp [steadyTicks]; decide +kernel)
      (by decide +kernel)
    have start : s.timeline.t ≤ first := Ordered.le_trans (by decide +kernel) since
    obtain ⟨rfl, quiet⟩ := every.2 l inside _ _ _ _ _ noted onward start early
    exact ⟨l, inside, first, last, point, counts, noted, onward, since, on, quiet⟩
  | _ => cases within

end DifferentialDrive
