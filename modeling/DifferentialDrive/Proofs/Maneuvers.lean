import DifferentialDrive.Proofs.Calls
import DifferentialDrive.Proofs.Slicing

/-!
# Moves that cover what they are asked for

A client turns a distance or an angle into a time to hold the wheel speeds for, and the robot turns
a time at those speeds into a way and a new heading. In exact arithmetic each undoes the other
(`Client.moves_cover`): over the time by which a move takes the cursor on, the robot's centre covers
the distance, and its heading turns by the angle, to the side of the slower wheel.
-/

namespace DifferentialDrive

open Wire Scalar

/-! ## Moves that are accepted -/

theorem Timeline.move?_holdDistance {α : Type} [Scalar α] (tl : Timeline α) (d : α) (a b : Int) :
    tl.move? (.holdDistance d a b) = some (tl.secondsForDistance d a b, a, b) := rfl

theorem Timeline.move?_holdAngle {α : Type} [Scalar α] (tl : Timeline α) (d : α) (a b : Int) :
    tl.move? (.holdAngle d a b) = some (tl.secondsForAngle d a b, a, b) := rfl

namespace Client

theorem ok_of_check {α β γ : Type} {r : Except (Fault α) β} {g : β → Work α γ} {c d : Client α}
    {x : γ} (h : (check r >>= g).run.run c = some (.ok x, d)) :
    ∃ b, r = .ok b ∧ (g b).run.run c = some (.ok x, d) := by
  cases r with
  | error f => cases h
  | ok b => exact ⟨b, rfl, h⟩

/-- A move that is accepted takes the cursor on by the seconds it comes to. -/
theorem accepted_of_move? {α : Type} [Scalar α] {c d : Client α} {call : Call α}
    {seconds : Except (Fault α) α} {a b : Int} {replies : List (Query × Reply α)}
    (moves : c.timeline.move? call = some (seconds, a, b))
    (h : c.act call = some ⟨d, .ok replies⟩) :
    ∃ s, seconds = .ok s ∧ d.timeline.t = c.timeline.t + s := by
  obtain ⟨⟨result, e⟩, run, same⟩ := Option.map_eq_some_iff.1 h
  obtain ⟨rfl, rfl⟩ := Outcome.mk.inj same
  rw [work_of_move? moves] at run
  obtain ⟨s, rfl, held⟩ := ok_of_check run
  refine ⟨s, rfl, ?_⟩
  have checked := held
  simp only [hold, silent_bind] at checked
  obtain ⟨s', hs, checked⟩ := ok_of_check checked
  obtain ⟨x, hx, checked⟩ := ok_of_check checked
  obtain ⟨y, hy, -⟩ := ok_of_check checked
  obtain ⟨n, -, -, rfl⟩ := (hold_eq_some_iff (Timeline.nonNegative_ok hs).2
    (Timeline.wheel_ok hx).2 (Timeline.wheel_ok hy).2).1 held
  rfl

end Client

/-! ## What a client reckons with -/

section

variable {K : Type} [Field K] [LinearOrder K] [IsStrictOrderedRing K] {a b u s : K}

/-- The mean of the ways of two wheels. -/
theorem mean_way {d : K} (fast : 0 < u) (hd : 0 ≤ d) (moves : |a + b| / 2 * u ≠ 0)
    (hs : s = d / (|a + b| / 2 * u)) : |a * u * s + b * u * s| / 2 = d := by
  have time : 0 ≤ s := by
    rw [hs]
    positivity
  calc |a * u * s + b * u * s| / 2
      = |(a + b) * (u * s)| / 2 := by ring_nf
    _ = |a + b| / 2 * u * s := by
      rw [abs_mul, abs_of_nonneg (mul_nonneg fast.le time)]
      ring
    _ = d := by rw [hs, mul_div_cancel₀ _ moves]

/-- How far the heading turns, to the left if the right wheel is the faster one. -/
theorem turn_way {ρ π g : K} (fast : 0 < u) (broad : 0 < ρ) (circle : 0 < π) (hg : 0 ≤ g)
    (hs : s = |2 * ρ * (g * (π / 180)) / ((a - b) * u)|) :
    (a < b → (b * u - a * u) / (2 * ρ) * s * 180 / π = g) ∧
      (b < a → (b * u - a * u) / (2 * ρ) * s * 180 / π = -g) := by
  have way : |2 * ρ * (g * (π / 180))| = 2 * ρ * (g * (π / 180)) := abs_of_nonneg (by positivity)
  rw [abs_div, way, abs_mul, abs_of_pos fast] at hs
  constructor
  · intro left
    have apart : b - a ≠ 0 := (sub_pos.2 left).ne'
    rw [hs, abs_sub_comm, abs_of_pos (sub_pos.2 left)]
    field_simp
  · intro right
    have apart : a - b ≠ 0 := (sub_pos.2 right).ne'
    rw [hs, abs_of_pos (sub_pos.2 right)]
    field_simp
    ring

end

/-- What is refused if something is zero. -/
theorem nonzero_iff {K : Type} [Zero K] {refuses : Bool} {f : Fault (Exact K)} {v z : K}
    {y : Except (Fault (Exact K)) (Exact K)} {s : Exact K} (hv : refuses = true ↔ v = 0)
    (hy : v ≠ 0 → y = .ok ⟨z⟩) :
    (do
      if refuses then throw f
      y) = .ok s ↔ v ≠ 0 ∧ s.value = z := by
  cases refuses with
  | true =>
    have nothing : v = 0 := hv.1 rfl
    simp only [nothing, ne_eq, not_true_eq_false, false_and, iff_false]
    intro h
    cases h
  | false =>
    have something : v ≠ 0 := fun nothing => Bool.false_ne_true (hv.2 nothing)
    change y = .ok s ↔ _
    rw [hy something, Except.ok.injEq, Exact.ext_iff, eq_comm]
    exact (and_iff_right something).symm

variable {K : Type} [Field K] [LinearOrder K] [FloorRing K] [Plane K]

namespace Timeline

variable {tl : Timeline (Exact K)} {ρ u x s : Exact K} {a b : Int}

/-- The checks that come before anything is reckoned. -/
theorem checked_iff {argument : String}
    {f : Exact K → Int → Int → Except (Fault (Exact K)) (Exact K)} :
    (do
      let x ← nonNegative argument x
      let a ← wheel "wheel1" a
      let b ← wheel "wheel2" b
      f x a b) = .ok s ↔
      0 ≤ x.value ∧ (-128 ≤ a ∧ a ≤ 127) ∧ (-128 ≤ b ∧ b ≤ 127) ∧ f x a b = .ok s := by
  constructor
  · intro h
    obtain ⟨x', hx, h₁⟩ := ok_of_bind h
    obtain ⟨a', ha, h₂⟩ := ok_of_bind h₁
    obtain ⟨b', hb, rest⟩ := ok_of_bind h₂
    obtain ⟨rfl, notNegative⟩ := nonNegative_ok hx
    obtain ⟨rfl, first⟩ := wheel_ok ha
    obtain ⟨rfl, second⟩ := wheel_ok hb
    exact ⟨(Exact.not_lt_zero_iff _).1 notNegative, first, second, rest⟩
  · rintro ⟨positive, first, second, rest⟩
    have hx : nonNegative argument x = .ok x := if_neg ((Exact.not_lt_zero_iff x).2 positive)
    have ha : wheel "wheel1" a = (.ok a : Except (Fault (Exact K)) _) := if_pos first
    have hb : wheel "wheel2" b = (.ok b : Except (Fault (Exact K)) _) := if_pos second
    rw [hx, ha, hb]
    exact rest

/-- The time for a distance, from the speed of the robot's centre. -/
theorem secondsForDistance_ok_iff [IsStrictOrderedRing K]
    (hu : tl.chassis.unitSpeed.toScalar = .ok u) :
    tl.secondsForDistance x a b = .ok s ↔
      0 ≤ x.value ∧ (-128 ≤ a ∧ a ≤ 127) ∧ (-128 ≤ b ∧ b ≤ 127) ∧
        |(a + b : K)| / 2 * u.value ≠ 0 ∧ s.value = x.value / (|(a + b : K)| / 2 * u.value) := by
  have centre : (ofInt (a + b).natAbs / ofInt 2 * u).value = |(a + b : K)| / 2 * u.value := by simp
  rw [secondsForDistance, checked_iff, hu, ← centre]
  exact and_congr_right fun _ => and_congr_right fun _ => and_congr_right fun _ =>
    nonzero_iff (Exact.beq_zero_iff _) fun _ => rfl

/-- The time for an angle, from the difference of the wheel speeds. -/
theorem secondsForAngle_ok_iff (hρ : tl.chassis.radius.toScalar = .ok ρ)
    (hu : tl.chassis.unitSpeed.toScalar = .ok u) :
    tl.secondsForAngle x a b = .ok s ↔
      0 ≤ x.value ∧ (-128 ≤ a ∧ a ≤ 127) ∧ (-128 ≤ b ∧ b ≤ 127) ∧ (a - b : K) * u.value ≠ 0 ∧
        s.value = |2 * ρ.value * (x.value * (Plane.pi / 180)) / ((a - b) * u.value)| := by
  obtain ⟨speed, hspeed, speed_eq⟩ := Quantity.exists_mul (p := .whole (a - b)) rfl hu
  obtain ⟨base, hbase, base_eq⟩ := Quantity.exists_mul (p := .whole 2) rfl hρ
  have turns : (ofInt (a - b) * u).value = (a - b : K) * u.value := by simp
  rw [secondsForAngle, checked_iff, ← turns]
  dsimp only
  rw [hspeed]
  refine and_congr_right fun _ => and_congr_right fun _ => and_congr_right fun _ =>
    nonzero_iff (Quantity.isZero_iff speed_eq) fun turning => ?_
  simp only [hbase, base_eq, bind, Except.bind, pure, Except.pure,
    Quantity.div_eq (Quantity.toScalar_scalar _) speed_eq turning]
  exact congrArg _ (Exact.ext (by simp))

end Timeline

/-! ## Which moves are accepted -/

namespace Client

theorem value_stepped (t keepalive : Exact K) (n : Nat) :
    (stepped t keepalive n).value = t.value + n * keepalive.value := by
  induction n with
  | zero => simp
  | succ n ih =>
    rw [stepped_succ, Exact.value_add, ih]
    push_cast
    ring

variable [IsStrictOrderedRing K] {c : Client (Exact K)} {ρ u x : Exact K} {a b : Int}

/-- Keepalives that are not lost come to the end of any hold. -/
theorem exists_act {call : Call (Exact K)} {s : Exact K}
    (moves : c.timeline.move? call = some (.ok s, a, b)) (lasts : 0 ≤ s.value)
    (first : -128 ≤ a ∧ a ≤ 127) (second : -128 ≤ b ∧ b ≤ 127)
    (kept : zero < c.timeline.keepalive) : ∃ d, c.act call = some ⟨d, .ok []⟩ := by
  rw [Exact.zero_lt_iff] at kept
  obtain ⟨n, enough⟩ := exists_nat_ge (s.value / c.timeline.keepalive.value)
  have reached : c.timeline.t + s ≤ stepped c.timeline.t c.timeline.keepalive (n + 1) := by
    rw [Exact.le_iff, value_stepped, Exact.value_add]
    rw [div_le_iff₀ kept] at enough
    push_cast
    linarith
  obtain ⟨m, ends⟩ := exists_endsAfter ⟨n, reached⟩
  exact ⟨_, (act_of_move? moves ((Exact.not_lt_zero_iff s).2 lasts) first second).2 ⟨m, ends, rfl⟩⟩

variable (hu : c.timeline.chassis.unitSpeed.toScalar = .ok u) (fast : zero < u)
  (kept : zero < c.timeline.keepalive)
include hu fast kept

theorem holdDistance_accepted_iff :
    (∃ d replies, c.act (.holdDistance x a b) = some ⟨d, .ok replies⟩) ↔
      0 ≤ x.value ∧ (-128 ≤ a ∧ a ≤ 127) ∧ (-128 ≤ b ∧ b ≤ 127) ∧ a + b ≠ 0 := by
  rw [Exact.zero_lt_iff] at fast
  have moving : |(a + b : K)| / 2 * u.value ≠ 0 ↔ a + b ≠ 0 := by
    have sum : (a + b : K) = 0 ↔ a + b = 0 := by norm_cast
    simp [fast.ne', sum]
  constructor
  · rintro ⟨d, replies, accepted⟩
    obtain ⟨s, seconds, -⟩ := accepted_of_move? (c.timeline.move?_holdDistance ..) accepted
    obtain ⟨positive, first, second, moves, -⟩ :=
      (Timeline.secondsForDistance_ok_iff hu).1 seconds
    exact ⟨positive, first, second, moving.1 moves⟩
  · rintro ⟨positive, first, second, moves⟩
    have seconds := (Timeline.secondsForDistance_ok_iff (s := ⟨_⟩) hu).2
      ⟨positive, first, second, moving.2 moves, rfl⟩
    have held := c.timeline.move?_holdDistance x a b
    rw [seconds] at held
    obtain ⟨d, accepted⟩ := exists_act held (by positivity) first second kept
    exact ⟨d, [], accepted⟩

theorem holdAngle_accepted_iff (hρ : c.timeline.chassis.radius.toScalar = .ok ρ) :
    (∃ d replies, c.act (.holdAngle x a b) = some ⟨d, .ok replies⟩) ↔
      0 ≤ x.value ∧ (-128 ≤ a ∧ a ≤ 127) ∧ (-128 ≤ b ∧ b ≤ 127) ∧ a ≠ b := by
  rw [Exact.zero_lt_iff] at fast
  have turning : (a - b : K) * u.value ≠ 0 ↔ a ≠ b := by
    rw [← Int.cast_sub]
    simp [fast.ne', sub_eq_zero]
  constructor
  · rintro ⟨d, replies, accepted⟩
    obtain ⟨s, seconds, -⟩ := accepted_of_move? (c.timeline.move?_holdAngle ..) accepted
    obtain ⟨positive, first, second, turns, -⟩ :=
      (Timeline.secondsForAngle_ok_iff hρ hu).1 seconds
    exact ⟨positive, first, second, turning.1 turns⟩
  · rintro ⟨positive, first, second, turns⟩
    have seconds := (Timeline.secondsForAngle_ok_iff (s := ⟨_⟩) hρ hu).2
      ⟨positive, first, second, turning.2 turns, rfl⟩
    have held := c.timeline.move?_holdAngle x a b
    rw [seconds] at held
    obtain ⟨d, accepted⟩ := exists_act held (abs_nonneg _) first second kept
    exact ⟨d, [], accepted⟩

end Client

/-! ## What the robot makes of it -/

namespace Client

variable [IsStrictOrderedRing K] {c : Client (Exact K)} {ρ u : Exact K}

/-- The robot's motion at the wheel speeds of a move over the time it takes the cursor on. -/
def motion (c d : Client (Exact K)) (wheel1 wheel2 : Int) (p : Pose (Exact K)) :
    Except (Fault (Exact K)) (Travel (Exact K)) :=
  travel c.timeline.chassis .centred (wheel1 + 128) (wheel2 + 128) c.timeline.t d.timeline.t
    (ofInt 1) p

/-- The way of each wheel and the pose after a move that takes `s` seconds. -/
theorem exists_motion (hρ : c.timeline.chassis.radius.toScalar = .ok ρ) (broad : ρ.value ≠ 0)
    (hu : c.timeline.chassis.unitSpeed.toScalar = .ok u) {d : Client (Exact K)} {s : Exact K}
    (taken : d.timeline.t = c.timeline.t + s) (a b : Int) (p : Pose (Exact K)) :
    ∃ t, c.motion d a b p = .ok t ∧
      t.pose = p.driven (a * u.value) (b * u.value) ρ.value s.value ∧
      t.left.value = a * u.value * s.value ∧ t.right.value = b * u.value * s.value := by
  have duration : (d.timeline.t.value - c.timeline.t.value) * (ofInt 1 : Exact K).value =
      s.value := by
    rw [taken]
    simp
  have units : wheelUnits .centred (a + 128) (b + 128) = (a, b) := by
    simp [wheelUnits]
  have moved := exists_travel hρ broad hu .centred (a + 128) (b + 128) c.timeline.t d.timeline.t
    (ofInt 1) p
  rwa [duration, units] at moved

/-- Over the time by which a move takes the cursor on, the robot's centre covers the distance that
was asked for; and the heading turns by the angle, to the left if the right wheel is the faster one
and else to the right, unless the wheels are so alike that they drive straight. -/
theorem moves_cover (hρ : c.timeline.chassis.radius.toScalar = .ok ρ)
    (hu : c.timeline.chassis.unitSpeed.toScalar = .ok u) (broad : zero < ρ) (fast : zero < u)
    (circle : (zero : Exact K) < pi) (p : Pose (Exact K)) (wheel1 wheel2 : Int) :
    (∀ distance d replies,
      c.act (.holdDistance distance wheel1 wheel2) = some ⟨d, .ok replies⟩ →
        ∃ t, c.motion d wheel1 wheel2 p = .ok t ∧
          |t.left.value + t.right.value| / 2 = distance.value) ∧
    ∀ degrees d replies,
      c.act (.holdAngle degrees wheel1 wheel2) = some ⟨d, .ok replies⟩ →
      straightBelow ≤ ofInt |wheel1 - wheel2| * u →
        ∃ t, c.motion d wheel1 wheel2 p = .ok t ∧
          (wheel1 < wheel2 → t.pose.heading = Heading.normalize (p.heading + degrees)) ∧
          (wheel2 < wheel1 → t.pose.heading = Heading.normalize (p.heading - degrees)) := by
  rw [Exact.zero_lt_iff] at broad fast circle
  rw [Exact.value_pi] at circle
  have moved {d : Client (Exact K)} {s : Exact K} (taken : d.timeline.t = c.timeline.t + s) :=
    exists_motion hρ broad.ne' hu taken wheel1 wheel2 p
  constructor
  · intro distance d replies accepted
    obtain ⟨s, seconds, taken⟩ := accepted_of_move? (c.timeline.move?_holdDistance ..) accepted
    obtain ⟨t, motion, -, left, right⟩ := moved taken
    obtain ⟨positive, -, -, moves, time⟩ := (Timeline.secondsForDistance_ok_iff hu).1 seconds
    refine ⟨t, motion, ?_⟩
    rw [left, right]
    exact mean_way fast positive moves time
  · intro degrees d replies accepted wide
    obtain ⟨s, seconds, taken⟩ := accepted_of_move? (c.timeline.move?_holdAngle ..) accepted
    obtain ⟨t, motion, pose, -, -⟩ := moved taken
    obtain ⟨positive, -, -, -, time⟩ := (Timeline.secondsForAngle_ok_iff hρ hu).1 seconds
    have apart : (straightBelow : Exact K).value ≤ |wheel1 * u.value - wheel2 * u.value| := by
      rw [← sub_mul, abs_mul, abs_of_pos fast]
      simpa [Exact.le_iff] using wide
    obtain ⟨toLeft, toRight⟩ := turn_way fast broad circle positive time
    refine ⟨t, motion, fun faster => ?_, fun faster => ?_⟩
    · rw [pose, Pose.heading_driven apart, toLeft (by exact_mod_cast faster)]
      rfl
    · rw [pose, Pose.heading_driven apart, toRight (by exact_mod_cast faster), ← sub_eq_add_neg]
      rfl

/-- A metre on a bend and a quarter turn across the heading zero. -/
theorem moves_cover_quarterTurn :
    let c : Client (Exact ℝ) := { timeline := ⟨.standard, ofInt 1800, ofInt 1, {}⟩ }
    let p : Pose (Exact ℝ) := ⟨zero, zero, ofInt 350⟩
    (∃ d replies t, c.act (.holdDistance (ofInt 1000) 100 60) = some ⟨d, .ok replies⟩ ∧
      c.motion d 100 60 p = .ok t ∧ |t.left.value + t.right.value| / 2 = 1000) ∧
    ∃ d replies t, c.act (.holdAngle (ofInt 90) (-100) 100) = some ⟨d, .ok replies⟩ ∧
      c.motion d (-100) 100 p = .ok t ∧
      t.pose.heading = Heading.normalize (ofInt 350 + ofInt 90) := by
  intro c p
  have radius : c.timeline.chassis.radius.toScalar = .ok (ofInt 250) := rfl
  have speed : c.timeline.chassis.unitSpeed.toScalar = .ok (ofInt 25 / ofInt 4) := rfl
  have broad : (zero : Exact ℝ) < ofInt 250 := by simp [Exact.zero_lt_iff]
  have fast : (zero : Exact ℝ) < ofInt 25 / ofInt 4 := by simp [Exact.zero_lt_iff]
  have kept : zero < c.timeline.keepalive := by simp [Exact.zero_lt_iff, c]
  have circle : (zero : Exact ℝ) < pi := (Exact.zero_lt_iff _).2 Real.pi_pos
  have covers := moves_cover radius speed broad fast circle p
  constructor
  · obtain ⟨d, replies, accepted⟩ :=
      (holdDistance_accepted_iff (x := ofInt 1000) (a := 100) (b := 60) speed fast kept).2 (by simp)
    obtain ⟨t, motion, covered⟩ := (covers 100 60).1 _ d replies accepted
    exact ⟨d, replies, t, accepted, motion, by simpa using covered⟩
  · obtain ⟨d, replies, accepted⟩ :=
      (holdAngle_accepted_iff (x := ofInt 90) (a := -100) (b := 100) speed fast kept radius).2
        (by simp)
    obtain ⟨t, motion, toLeft, -⟩ := (covers (-100) 100).2 _ d replies accepted
      (by norm_num [Exact.le_iff, straightBelow])
    exact ⟨d, replies, t, accepted, motion, toLeft (by decide)⟩

end Client

end DifferentialDrive
