import DifferentialDrive.Proofs.Odometer
import DifferentialDrive.Proofs.Ranges
import DifferentialDrive.Proofs.SliceCount

/-!
# The odometer on a straight drive

A robot is told one speed for both wheels and then ticks, while queries come in between. What is
left of it to be told, and what it has counted, is `Driving`; it is kept by every frame
(`Driving.takeFrame`), by every run (`Driving.run`) and by a whole drive (`Session.driving_after`),
none of which is refused. Each slice is turned into whole counts on its own, so the total may be a
count short for each slice that has a length.
-/

namespace DifferentialDrive

open Wire Scalar Binary64

/-! ## A slice of a straight drive -/

theorem units_centred (a : UInt8) : |(a.toNat : ℤ) - 128| ≤ 128 := by
  have := a.toNat_lt
  rw [abs_le]
  omega

theorem mul_unitSpeed {v : ℤ} (hv : |v| ≤ 128) :
    (Quantity.whole v).mul (Chassis.standard : Chassis Float).unitSpeed =
      .ok (.scalar (wheelSpeed v)) := by
  obtain ⟨finite, -⟩ := value_ofInt_of_small (hv.trans (by norm_num))
  obtain ⟨-, notInfinite⟩ := Bool.and_eq_true_iff.1 ((isFinite_eq _).symm.trans finite)
  have bounded : (Scalar.ofInt v : Float).isInf = false := by simpa using! notInfinite
  have converted : (ofInteger v : Except (Fault Float) Float) = .ok (Scalar.ofInt v) := by
    simp only [ofInteger, Scalar.isInfinite, bounded]
    rfl
  simp only [Quantity.mul, Quantity.combine, Chassis.standard, converted, wheelSpeed]
  rfl

/-- Wheels at one speed drive straight. -/
theorem straight_of_equal {v : ℤ} (hv : |v| ≤ 128) :
    Scalar.abs (wheelSpeed v - wheelSpeed v) < (straightBelow : Float) :=
  abs_sub_self_lt (value_wheelSpeed hv).1 (by decide +kernel) (by decide +kernel)

theorem straight_ok {p : Pose Float} (heading : p.heading = zero) (speed dt : Float) :
    ∃ q, p.straight (.scalar speed) dt = .ok q ∧ q.heading = zero := by
  have level : isInfinite (radians (zero : Float)) = false := by decide +kernel
  have kept : Heading.normalize (zero : Float) = zero := by decide +kernel
  simp only [Pose.straight, heading, cosine, sine, level, kept, Quantity.toScalar_scalar, bind,
    Except.bind]
  exact ⟨_, rfl, rfl⟩

/-- Looking along the x axis, a slice without length or with equal speeds is gone through, and each
wheel makes its way. -/
theorem travel_ok (a b : UInt8) {start stop : Float} {p : Pose Float} (heading : p.heading = zero)
    (plain : stretch start stop == zero ∨ a = b) :
    ∃ t, travel .standard .centred a.toNat b.toNat start stop (Scalar.ofInt 1) p = .ok t ∧
      t.left = way (a.toNat - 128) start stop ∧ t.right = way (b.toNat - 128) start stop ∧
      t.pose.heading = zero := by
  have speeds : wheelSpeeds (Chassis.standard : Chassis Float) .centred a.toNat b.toNat =
      .ok (.scalar (wheelSpeed (a.toNat - 128)), .scalar (wheelSpeed (b.toNat - 128))) := by
    simp only [wheelSpeeds, wheelUnits, mul_unitSpeed (units_centred a),
      mul_unitSpeed (units_centred b), bind, Except.bind]
    rfl
  obtain ⟨q, moved, level⟩ : ∃ q, p.advance (.scalar (wheelSpeed (a.toNat - 128)))
      (.scalar (wheelSpeed (b.toNat - 128))) (stretch start stop)
      (Chassis.standard : Chassis Float).radius = .ok q ∧ q.heading = zero := by
    unfold Pose.advance
    split
    · have kept : Heading.normalize (zero : Float) = zero := by decide +kernel
      exact ⟨_, rfl, by rw [heading, kept]⟩
    · next moves =>
      obtain rfl := plain.resolve_left moves
      simp only [Quantity.sub_scalar, Quantity.abs, Quantity.isBelow_scalar,
        decide_eq_true (straight_of_equal (units_centred a)), bind, Except.bind, if_true]
      exact straight_ok heading _ _
  refine ⟨⟨stretch start stop, q, way (a.toNat - 128) start stop, way (b.toNat - 128) start stop⟩,
    ?_, rfl, rfl, level⟩
  simp only [travel, speeds, bind, Except.bind]
  rw [show (stop - start) * Scalar.ofInt 1 = stretch start stop from rfl, moved]
  rfl

/-! ## What a move keeps -/

/-- Whether an event is a slice that has a length. -/
def Event.isStride : Event Float → Bool
  | .moved first last .. => decide (first < last)
  | _ => false

theorem Event.isStride_of_aside {e : Event Float} (h : e.aside = true) : e.isStride = false := by
  cases e <;> simp_all [aside, isStride]

/-- How many slices have a length. -/
def Journal.strides (j : Journal Float) : ℕ := j.toList.countP Event.isStride

@[simp] theorem Journal.strides_push (j : Journal Float) (e : Event Float) :
    Journal.strides (j.push e) = j.strides + if e.isStride then 1 else 0 := by
  simp [strides]

namespace Robot

/-- A robot that drives straight at a speed byte for both wheels, with the watch turned off, and
what it has counted. -/
structure Straight (b : UInt8) (r : Robot Float) : Prop where
  chassis : r.chassis = .standard
  mode : r.registers.mode = .centred
  decode : r.registers.decodeMode = .centred
  timeout : r.registers.timeout = false
  eager : r.registers.Eager
  simSpeed : r.simSpeed = Scalar.ofInt 1
  heading : r.track.pose.heading = zero
  finite : r.lastStep.isFinite = true
  forward : 0 ≤ value r.lastStep
  totals : ∃ total, r.journal.odometer = (total, total) ∧
    Totals (b.toNat - 128) (value r.lastStep) r.journal.strides total

/-- An instant that a straight drive can be moved to: it is not before the last and its counts are
not beyond the machine's numbers, and both speeds are there unless no time passes. -/
structure Reaches (b : UInt8) (r : Robot Float) (stop : Float) : Prop where
  finite : stop.isFinite = true
  ahead : value r.lastStep ≤ value stop
  reach : |exactCounts (b.toNat - 128) (value stop)| ≤ 2 ^ 1021
  told : (r.registers.speed1 = b ∧ r.registers.speed2 = b) ∨ r.lastStep = zero ∧ stop = zero

variable {b : UInt8} {r : Robot Float}

theorem heading_follow {t : Travel Float} (heading : r.track.pose.heading = zero)
    (level : t.pose.heading = zero) : (r.follow t).pose.heading = zero := by
  have kept : Heading.normalize (zero : Float) = zero := by decide +kernel
  unfold follow
  split
  · simp only [Track.stay, heading, kept]
  · simp only [Track.moveTo, level, kept]

/-- The counts of a slice at one speed, or of one without length, are the same for both wheels. -/
theorem Straight.counts (h : Straight b r) {stop : Float} (meets : Reaches b r stop) :
    ∃ t c, r.motion stop = .ok t ∧ r.counts t = .ok (c, c) ∧ t.pose.heading = zero ∧
      Tallies (exactCounts (b.toNat - 128) (value stop - value r.lastStep)) c := by
  obtain ⟨finite, ahead, reach, told⟩ := meets
  have plain : stretch r.lastStep stop == zero ∨ r.registers.speed1 = r.registers.speed2 := by
    obtain ⟨first, second⟩ | ⟨first, second⟩ := told
    · exact .inr (first.trans second.symm)
    · rw [first, second]
      exact .inl (by decide +kernel)
  obtain ⟨t, moved, left, right, level⟩ :=
    travel_ok r.registers.speed1 r.registers.speed2 h.heading plain
  have motion : r.motion stop = .ok t := by
    rw [Robot.motion, h.chassis, h.decode, h.simSpeed]
    exact moved
  obtain ⟨c, first, second, tallies⟩ : ∃ c,
      (Chassis.standard : Chassis Float).counts t.left = .ok c ∧
      (Chassis.standard : Chassis Float).counts t.right = .ok c ∧
      Tallies (exactCounts (b.toNat - 128) (value stop - value r.lastStep)) c := by
    rw [left, right]
    obtain ⟨first, second⟩ | ⟨here, same⟩ := told
    · obtain ⟨c, counted, tallies⟩ := counts_of_stretch (units_centred b) h.finite finite h.forward
        ahead ((abs_exactCounts_le _ (sub_nonneg.2 ahead) (sub_le_self _ h.forward)).trans reach)
      rw [first, second]
      exact ⟨c, counted, counted, tallies⟩
    · -- the two speeds may still differ, but no time passes and so neither wheel counts
      have still (v : ℤ) : |exactCounts v (value stop - value r.lastStep)| < 1 / 2 := by
        rw [here, same, sub_self]
        simp [exactCounts]
      have none (a : UInt8) : (Chassis.standard : Chassis Float).counts
          (way (a.toNat - 128) r.lastStep stop) = .ok 0 := by
        have little : (1 / 2 : ℚ) ≤ 2 ^ 1021 :=
          le_trans (by norm_num) (one_le_pow₀ (by norm_num))
        obtain ⟨c, counted, tallies⟩ := counts_of_stretch (units_centred a) h.finite finite
          h.forward ahead ((still _).le.trans little)
        rw [counted, tallies.none (still _)]
      exact ⟨0, none _, none _, .zero (still _)⟩
  refine ⟨t, c, motion, ?_, level, tallies⟩
  rw [Robot.counts, h.chassis, first, second]
  rfl

theorem Straight.overdue (h : Straight b r) : r.overdue = .ok false := by
  simp [Robot.overdue, h.timeout]

/-- Such a slice is not refused, and it adds to the totals. -/
theorem Straight.advance (h : Straight b r) {limit : Float}
    (meets : Reaches b r (later limit r.lastStep)) :
    ∃ a, r.advance limit = ⟨a, .ok ()⟩ ∧ Straight b a ∧ Moved r limit a ∧
      a.journal.strides =
        r.journal.strides + if r.lastStep < later limit r.lastStep then 1 else 0 := by
  obtain ⟨t, c, moved, counted, level, tallies⟩ := h.counts meets
  have watched : r.watch = .ok r := by
    simp only [Robot.watch, h.overdue, bind, Except.bind]
    rfl
  have done := advance_of_ok watched moved counted
  have strides : Journal.strides (r.journal.push
      (({ r with track := r.follow t } : Robot Float).slice (later limit r.lastStep) (c, c))) =
      r.journal.strides + if r.lastStep < later limit r.lastStep then 1 else 0 := by
    simp [Robot.slice, Event.isStride]
  refine ⟨_, done, ⟨h.chassis, h.mode, h.decode, h.timeout, h.eager, h.simSpeed,
    heading_follow h.heading level, meets.finite, h.forward.trans meets.ahead, ?_⟩,
    moved_of_advance done, strides⟩
  obtain ⟨total, odometer, totals⟩ := h.totals
  refine ⟨total + c, by rw [odometer_settle]; exact congrArg (· + (c, c)) odometer, ?_⟩
  rw [journal_settle, strides]
  change Totals _ (value (later limit r.lastStep)) _ _
  by_cases onward : r.lastStep < later limit r.lastStep
  · have longer := sub_pos.2 ((lt_iff_value h.finite meets.finite).1 onward)
    simpa [if_pos onward] using totals.add h.forward longer tallies
  · have same : value (later limit r.lastStep) = value r.lastStep :=
      (not_lt.1 fun less => onward ((lt_iff_value h.finite meets.finite).2 less)).antisymm
        meets.ahead
    have none : c = 0 := tallies.none (by rw [same, sub_self]; simp [exactCounts])
    rw [same, none, if_neg onward, add_zero, add_zero]
    exact totals

/-! ## What a command keeps -/

/-- What a robot is told on a straight drive. -/
inductive Plain (b : UInt8) : Command → Prop
  | mode : Plain b (.mode 0)
  | speed1 : Plain b (.speed1 b)
  | speed2 : Plain b (.speed2 b)
  | query (q) : Plain b (.query q)

theorem Plain.track_eq {c : Command} {s : Robot Float} (plain : Plain b c)
    (executed : r.execute c = ⟨s, .ok ()⟩) : s.track = r.track := by
  cases plain with
  | query q =>
    obtain ⟨reply, -, rfl⟩ := execute_query_ok executed
    rfl
  | mode | speed1 | speed2 =>
    cases executed
    rfl

theorem Plain.speedAfter {c : Command} (plain : Plain b c) (factor : Float) :
    speedAfter factor c = factor := by
  cases plain <;> rfl

/-- Registers read as a drive is told keep being read so, and a speed that has been told stays. -/
theorem Straight.apply (h : Straight b r) {c : Command} (plain : Plain b c) (t : Float) :
    (r.registers.apply t c).mode = .centred ∧ (r.registers.apply t c).decodeMode = .centred ∧
      (r.registers.apply t c).timeout = false ∧
      (c = .speed1 b ∨ r.registers.speed1 = b → (r.registers.apply t c).speed1 = b) ∧
      (c = .speed2 b ∨ r.registers.speed2 = b → (r.registers.apply t c).speed2 = b) := by
  have still {p q : Prop} (other : ¬ p) : p ∨ q → q := fun told => told.resolve_left other
  cases plain with
  | mode => exact ⟨rfl, h.mode, h.timeout, still nofun, still nofun⟩
  | speed1 => exact ⟨h.mode, h.mode, h.timeout, fun _ => rfl, still nofun⟩
  | speed2 => exact ⟨h.mode, h.mode, h.timeout, still nofun, fun _ => rfl⟩
  | query q => exact ⟨h.mode, h.decode, h.timeout, still nofun, still nofun⟩

/-- A command of a drive is executed, and it moves nothing. -/
theorem Straight.execute (h : Straight b r) (wrapped : r.registers.Wrapped) {c : Command}
    (plain : Plain b c) :
    ∃ s, r.execute c = ⟨s, .ok ()⟩ ∧ Straight b s ∧ Effect r c s ∧
      s.journal.strides = r.journal.strides := by
  obtain ⟨s, executed⟩ := execute_isOk h.eager wrapped c fun _ => by
    rw [h.simSpeed]
    exact toNearest_isOk (by decide +kernel)
  have effect := execute_effect executed
  have strides : s.journal.strides = r.journal.strides :=
    effect.journal_eq fun _ _ aside => by simp [Event.isStride_of_aside aside]
  have totals := h.totals
  rw [← effect.odometer_eq, ← strides, ← effect.lastStep] at totals
  obtain ⟨mode, decode, timeout, -, -⟩ := h.apply plain r.commandTime
  have eager := Registers.eager_apply h.eager r.commandTime c
  have factor := (effect.simSpeed.trans (plain.speedAfter _)).trans h.simSpeed
  have heading : s.track.pose.heading = zero := by
    rw [plain.track_eq executed]
    exact h.heading
  rw [← effect.registers] at mode decode timeout eager
  exact ⟨s, executed, ⟨effect.chassis.trans h.chassis, mode, decode, timeout, eager, factor,
    heading, effect.lastStep ▸ h.finite, effect.lastStep ▸ h.forward, totals⟩, effect, strides⟩

/-- A command of a drive is not refused: it is executed after the slice up to its arrival. -/
theorem Straight.perform (h : Straight b r) {c : Command} (plain : Plain b c) {t : Float}
    (meets : Reaches b r (later t r.lastStep)) :
    ∃ m, r.perform c t = ⟨m, .ok ()⟩ ∧ Straight b m ∧ m.lastStep = later t r.lastStep ∧
      (c = .speed1 b ∨ r.registers.speed1 = b → m.registers.speed1 = b) ∧
      (c = .speed2 b ∨ r.registers.speed2 = b → m.registers.speed2 = b) ∧
      m.journal.strides =
        r.journal.strides + if r.lastStep < later t r.lastStep then 1 else 0 := by
  obtain ⟨a, moved, straight, after, counted⟩ := h.advance meets
  have arrived : Straight b ({ a with commandTime := t } : Robot Float) := { straight with }
  have wrapped : a.registers.Wrapped := wrapped_of_advance moved
  obtain ⟨s, executed, ready, effect, same⟩ := arrived.execute wrapped plain
  have performed : r.perform c t = ⟨s.note (.executed c t), .ok ()⟩ := by
    simp only [Robot.perform, moved, executed]
  have strides : (s.note (.executed c t)).journal.strides = s.journal.strides := by
    simp [Event.isStride]
  have odometer : (s.note (.executed c t)).journal.odometer = s.journal.odometer :=
    s.journal.odometer_push_other rfl (by cases plain <;> rfl)
  obtain ⟨total, sum, totals⟩ := ready.totals
  obtain ⟨first, second, -⟩ := after.speeds h.overdue
  obtain ⟨-, -, -, speed1, speed2⟩ := arrived.apply plain t
  rw [← effect.registers] at speed1 speed2
  refine ⟨_, performed, { ready with totals := ⟨total, odometer.trans sum, strides ▸ totals⟩ },
    effect.lastStep.trans after.lastStep, ?_, ?_, strides.trans (same.trans counted)⟩
  · rw [← first]
    exact speed1
  · rw [← second]
    exact speed2

/-! ## Runs -/

/-- A straight drive on the way: what is left of its beginning and the queries that wait, and not
more slices with a length, past and to come for the queries, than `n`. -/
structure Driving (b : UInt8) (n : ℕ) (todo : List Command) (asked : List (Command × Float))
    (r : Robot Float) : Prop where
  straight : Straight b r
  queue : r.queue = encode (todo.map (·, zero) ++ asked)
  plain : ∀ c ∈ todo, Plain b c
  queries : ∀ p ∈ asked, Plain b p.1 ∧ p.2.isNaN = false
  speed1 : .speed1 b ∈ todo ∨ r.registers.speed1 = b
  speed2 : .speed2 b ∈ todo ∨ r.registers.speed2 = b
  still : todo = [] ∨ r.lastStep = zero
  strides : r.journal.strides + asked.length ≤ n

section Run

variable {n : ℕ} {todo : List Command} {asked : List (Command × Float)} {now t : Float}

theorem takeFrame_of_ready {m : Robot Float} {c : Command} {rest : List (Stamped Float)}
    (found : Frame.next now r.queue = .ready c t rest) (performed : r.perform c t = ⟨m, .ok ()⟩) :
    r.takeFrame now = ⟨{ m with queue := rest }, .ok true⟩ := by
  simp only [takeFrame, found, performed]

theorem takeFrame_of_waiting (found : Frame.next now r.queue = .waiting) :
    r.takeFrame now = ⟨r, .ok false⟩ := by
  simp only [takeFrame, found]

theorem Driving.told (h : Driving b n [] asked r) :
    r.registers.speed1 = b ∧ r.registers.speed2 = b :=
  ⟨h.speed1.resolve_left List.not_mem_nil, h.speed2.resolve_left List.not_mem_nil⟩

/-- The beginning of a drive is taken where it began, without a move. -/
theorem Driving.takeFrame_todo {c : Command} (h : Driving b n (c :: todo) asked r)
    (reached : r.lastStep ≤ now) :
    ∃ s, r.takeFrame now = ⟨s, .ok true⟩ ∧ Driving b n todo asked s ∧ s.lastStep ≤ now := by
  have here : r.lastStep = zero := h.still.resolve_left (List.cons_ne_nil _ _)
  have stay : later zero r.lastStep = zero := by rw [here]; rfl
  have found : Frame.next now r.queue = .ready c zero (encode (todo.map (·, zero) ++ asked)) := by
    rw [h.queue, List.map_cons, List.cons_append, Frame.next_encode]
    exact if_neg (here ▸ not_lt_of_le reached)
  have meets : Reaches b r (later zero r.lastStep) := by
    have origin : value (zero : Float) = 0 := rfl
    rw [stay]
    exact ⟨rfl, by rw [here], by rw [origin]; simp [exactCounts], .inr ⟨here, rfl⟩⟩
  obtain ⟨m, performed, straight, there, first, second, strides⟩ :=
    h.straight.perform (h.plain c (List.mem_cons_self ..)) meets
  have told {d : Command} {p : Prop} (h : d ∈ c :: todo ∨ p) : d ∈ todo ∨ c = d ∨ p := by
    grind
  refine ⟨_, takeFrame_of_ready found performed,
    { straight := { straight with }
      queue := rfl
      plain := fun d inside => h.plain d (List.mem_cons_of_mem _ inside)
      queries := h.queries
      speed1 := (told h.speed1).imp_right first
      speed2 := (told h.speed2).imp_right second
      still := .inr (there.trans stay)
      strides := ?_ }, le_of_eq_of_le (there.trans (stay.trans here.symm)) reached⟩
  have none : ¬ r.lastStep < later zero r.lastStep := by
    rw [stay, here]
    exact Scalar.lt_irrefl _
  rw [if_neg none] at strides
  exact (Nat.add_le_add_right strides.le _).trans h.strides

/-- Once the beginning has been taken, a drive can be moved to an instant. -/
theorem Driving.reaches (h : Driving b n [] asked r) {stop : Float} (finite : now.isFinite = true)
    (onward : r.lastStep ≤ stop) (within : stop ≤ now)
    (reach : |exactCounts (b.toNat - 128) (value now)| ≤ 2 ^ 1021) : Reaches b r stop := by
  have some := isFinite_of_le_of_le h.straight.finite finite onward within
  have ahead := (le_iff_value h.straight.finite some).1 onward
  have less := abs_exactCounts_le (b.toNat - 128) (h.straight.forward.trans ahead)
    ((le_iff_value some finite).1 within)
  exact ⟨some, ahead, less.trans reach, .inl h.told⟩

/-- A query that has arrived is answered after the slice up to its arrival. -/
theorem Driving.takeFrame_asked {c : Command} (h : Driving b n [] ((c, t) :: asked) r)
    (finite : now.isFinite = true) (arrived : ¬ now < t) (reached : r.lastStep ≤ now)
    (reach : |exactCounts (b.toNat - 128) (value now)| ≤ 2 ^ 1021) :
    ∃ s, r.takeFrame now = ⟨s, .ok true⟩ ∧ Driving b n [] asked s ∧ s.lastStep ≤ now := by
  obtain ⟨plain, number⟩ := h.queries _ (List.mem_cons_self ..)
  have found : Frame.next now r.queue = .ready c t (encode asked) := by
    rw [h.queue, List.map_nil, List.nil_append, Frame.next_encode]
    exact if_neg arrived
  have onward : r.lastStep ≤ later t r.lastStep :=
    (le_later number (isNaN_of_isFinite h.straight.finite)).2
  have within : later t r.lastStep ≤ now := by
    obtain same | same := later_eq_or t r.lastStep <;> rw [same]
    · exact Scalar.le_of_not_lt (isNaN_of_isFinite finite) number arrived
    · exact reached
  obtain ⟨m, performed, straight, there, first, second, strides⟩ :=
    h.straight.perform plain (h.reaches finite onward within reach)
  refine ⟨_, takeFrame_of_ready found performed,
    { straight := { straight with }
      queue := rfl
      plain := h.plain
      queries := fun p inside => h.queries p (List.mem_cons_of_mem _ inside)
      speed1 := .inr (first (.inr h.told.1))
      speed2 := .inr (second (.inr h.told.2))
      still := .inl rfl
      strides := ?_ }, le_of_eq_of_le there within⟩
  have budget := h.strides
  simp only [List.length_cons] at budget
  change m.journal.strides + asked.length ≤ n
  split at strides <;> omega

/-- A frame of a drive is taken and leaves a drive, or the robot waits. -/
theorem Driving.takeFrame (h : Driving b n todo asked r) (finite : now.isFinite = true)
    (reached : r.lastStep ≤ now)
    (reach : |exactCounts (b.toNat - 128) (value now)| ≤ 2 ^ 1021) :
    (todo = [] ∧ r.takeFrame now = ⟨r, .ok false⟩) ∨
      ∃ s todo asked, r.takeFrame now = ⟨s, .ok true⟩ ∧ Driving b n todo asked s ∧
        s.lastStep ≤ now := by
  cases todo with
  | cons c todo =>
    obtain ⟨s, taken, driving, within⟩ := h.takeFrame_todo reached
    exact .inr ⟨s, todo, asked, taken, driving, within⟩
  | nil =>
    rcases asked with _ | ⟨⟨c, t⟩, asked⟩
    · exact .inl ⟨rfl, takeFrame_of_waiting (by rw [h.queue]; rfl)⟩
    · by_cases early : now < t
      · refine .inl ⟨rfl, takeFrame_of_waiting ?_⟩
        rw [h.queue, List.map_nil, List.nil_append, Frame.next_encode]
        exact if_pos early
      · obtain ⟨s, taken, driving, within⟩ := h.takeFrame_asked finite early reached reach
        exact .inr ⟨s, [], asked, taken, driving, within⟩

/-- A run of a drive is not refused. -/
theorem Driving.run (h : Driving b n todo asked r) (finite : now.isFinite = true)
    (reached : r.lastStep ≤ now)
    (reach : |exactCounts (b.toNat - 128) (value now)| ≤ 2 ^ 1021) :
    ∃ s asked, r.run now = ⟨s, .ok ()⟩ ∧ Driving b (n + 1) [] asked s ∧ s.lastStep = now := by
  fun_induction Robot.run r now generalizing todo asked with
  | case1 r s taken ih =>
    obtain ⟨-, waits⟩ | ⟨m, todo, asked, found, driving, within⟩ :=
      h.takeFrame finite reached reach
    · cases taken.symm.trans waits
    · cases taken.symm.trans found
      exact ih driving within
  | case2 r s taken =>
    obtain ⟨rfl, waits⟩ | ⟨m, todo, asked, found, -, -⟩ := h.takeFrame finite reached reach
    · cases taken.symm.trans waits
      -- nothing of the beginning waits, so both speeds are there for the last slice of the run
      have there : later now r.lastStep = now := later_of_le reached
      have meets : Reaches b r (later now r.lastStep) := by
        rw [there]
        exact h.reaches finite reached ((le_iff_value finite finite).2 le_rfl) reach
      obtain ⟨a, moved, straight, after, strides⟩ := h.straight.advance meets
      obtain ⟨first, second, -⟩ := after.speeds h.straight.overdue
      refine ⟨a, asked, moved,
        { straight := straight
          queue := after.queue.trans h.queue
          plain := h.plain
          queries := h.queries
          speed1 := .inr (first.trans h.told.1)
          speed2 := .inr (second.trans h.told.2)
          still := .inl rfl
          strides := ?_ }, after.lastStep.trans there⟩
      have budget := h.strides
      split at strides <;> omega
    · cases taken.symm.trans found
  | case3 r s f taken =>
    obtain ⟨-, waits⟩ | ⟨m, todo, asked, found, -, -⟩ := h.takeFrame finite reached reach
    · cases taken.symm.trans waits
    · cases taken.symm.trans found

end Run

end Robot

/-! ## Drives -/

open Robot

/-- What happens on a drive: a tick, or a query that arrives. -/
inductive DriveStep where
  | tick (now : Float)
  | ask (q : Query) (stamp : Float)

namespace DriveStep

def action : DriveStep → Session.Action Float
  | tick now => .tick now
  | ask q stamp => .push (Command.query q).bytes stamp

/-- The time of the last tick, a step later. -/
def clock (last : Float) : DriveStep → Float
  | tick now => now
  | ask .. => last

/-- A tick comes later than the one before, at a finite time, and a query arrives at a number. -/
def Comes (last : Float) : DriveStep → Prop
  | tick now => now.isFinite = true ∧ last < now
  | ask _ stamp => stamp.isNaN = false

def Onward (last : Float) : List DriveStep → Prop
  | [] => True
  | step :: rest => step.Comes last ∧ Onward (step.clock last) rest

/-- The time of the last tick. -/
def finish (last : Float) (steps : List DriveStep) : Float := steps.foldl clock last

variable {last : Float} {step : DriveStep} {steps : List DriveStep}

theorem Comes.clock (h : step.Comes last) (finite : last.isFinite = true) :
    (step.clock last).isFinite = true ∧ value last ≤ value (step.clock last) := by
  cases step with
  | tick now => exact ⟨h.1, ((lt_iff_value finite h.1).1 h.2).le⟩
  | ask => exact ⟨finite, le_rfl⟩

theorem Onward.finish (h : Onward last steps) (finite : last.isFinite = true) :
    (finish last steps).isFinite = true ∧ value last ≤ value (finish last steps) := by
  induction steps generalizing last with
  | nil => exact ⟨finite, le_rfl⟩
  | cons step rest ih =>
    obtain ⟨finite', later⟩ := h.1.clock finite
    obtain ⟨finite'', ahead⟩ := ih h.2 finite'
    exact ⟨finite'', later.trans ahead⟩

end DriveStep

open DriveStep

namespace Session

variable {s : Session Float} {b : UInt8} {n : ℕ} {todo : List Command}
  {asked : List (Command × Float)} {last : Float} {steps : List DriveStep}

/-- A step of a drive is not refused. -/
theorem driving_perform {step : DriveStep} (running : s.sim.running = true)
    (driving : Driving b n todo asked s.sim.robot) (here : s.sim.robot.lastStep = last)
    (comes : step.Comes last)
    (reach : |exactCounts (b.toNat - 128) (value (step.clock last))| ≤ 2 ^ 1021) :
    (s.perform step.action).result.isOk = true ∧
      (s.perform step.action).state.sim.running = true ∧
      ∃ todo asked, Driving b (n + 1) todo asked (s.perform step.action).state.sim.robot ∧
        (s.perform step.action).state.sim.robot.lastStep = step.clock last := by
  cases step with
  | tick now =>
    obtain ⟨finite, later⟩ := comes
    obtain ⟨r, asked, ran, driving', there⟩ :=
      driving.run finite (here ▸ (Ordered.lt_iff.1 later).1) reach
    have performed : s.perform (.tick now) =
        ⟨{ s with sim := { s.sim with robot := r } }, .ok (.flag true)⟩ := by
      simp [perform, Simulation.tick, running, ran, Except.map]
    refine ⟨?_, ?_, [], asked, ?_, ?_⟩
    all_goals simp only [action, performed]
    · rfl
    · exact running
    · exact driving'
    · exact there
  | ask q stamp =>
    refine ⟨rfl, running, todo, asked ++ [(.query q, stamp)], ?_, here⟩
    refine
      { straight := { driving.straight with }
        queue := ?_
        plain := driving.plain
        queries := ?_
        speed1 := driving.speed1
        speed2 := driving.speed2
        still := driving.still
        strides := ?_ }
    · change s.sim.robot.queue ++ stampAll (Command.query q).bytes stamp = _
      rw [driving.queue, ← List.append_assoc, encode_append _ [_], encode_cons, encode_nil,
        List.append_nil]
    · intro p inside
      obtain before | last := List.mem_append.1 inside
      · exact driving.queries p before
      · obtain rfl := List.mem_singleton.1 last
        exact ⟨.query q, comes⟩
    · have budget := driving.strides
      rw [List.length_append]
      change s.sim.robot.journal.strides + (asked.length + 1) ≤ n + 1
      omega

/-- What happens on a drive is not refused, and no more slices have a length than it has steps. -/
theorem driving_after (running : s.sim.running = true)
    (driving : Driving b n todo asked s.sim.robot) (here : s.sim.robot.lastStep = last)
    (onward : Onward last steps)
    (reach : |exactCounts (b.toNat - 128) (value (finish last steps))| ≤ 2 ^ 1021) :
    (∀ o ∈ s.outcomes (steps.map action), o.result.isOk = true) ∧
      ∃ todo asked, Driving b (n + steps.length) todo asked
          (s.after (steps.map action)).sim.robot ∧
        (s.after (steps.map action)).sim.robot.lastStep = finish last steps := by
  induction steps generalizing s n todo asked last with
  | nil => exact ⟨by simp [outcomes], todo, asked, driving, here⟩
  | cons step rest ih =>
    obtain ⟨comes, onward⟩ := onward
    have begun := driving.straight.finite
    have forward := driving.straight.forward
    rw [here] at begun forward
    obtain ⟨finite, later⟩ := comes.clock begun
    obtain ⟨-, ahead⟩ := onward.finish finite
    obtain ⟨ok, running', todo, asked, driving', there⟩ := driving_perform running driving here
      comes ((abs_exactCounts_le _ (forward.trans later) ahead).trans reach)
    obtain ⟨others, todo, asked, driving'', arrived⟩ := ih running' driving' there onward reach
    refine ⟨?_, todo, asked, ?_, arrived⟩
    · intro o inside
      obtain rfl | further := List.mem_cons.1 inside
      · exact ok
      · exact others o further
    · rw [List.length_cons, add_comm rest.length, ← add_assoc]
      exact driving''

/-- A drive sets off at zero, with one speed for both wheels. -/
def setOff (b : UInt8) : List (Action Float) :=
  [.start zero, .push ([Command.mode 0, .speed1 b, .speed2 b].flatMap Command.bytes) zero]

theorem driving_setOff (arena : Arena Float) (client : Timeline Float) (keys : Keyboard)
    (world : World) (line : Bool) (socket : Option Socket) (b : UInt8) :
    let off := after
      ⟨⟨.initial .standard arena (Scalar.ofInt 1) zero false, world, line, socket⟩, client, keys⟩
      (setOff b)
    off.sim.running = true ∧ off.sim.robot.lastStep = zero ∧
      Driving b 0 [.mode 0, .speed1 b, .speed2 b] [] off.sim.robot := by
  intro off
  have there : off.sim.robot.lastStep = zero := ite_self _
  have origin : value off.sim.robot.lastStep = 0 := by
    rw [there]
    rfl
  exact ⟨rfl, there,
    { straight :=
      { chassis := rfl
        mode := rfl
        decode := rfl
        timeout := rfl
        eager := ⟨(by decide : (1 : ℤ) ≤ 5), (by decide : (5 : ℤ) ≤ 10)⟩
        simSpeed := rfl
        heading := rfl
        finite := by
          rw [there]
          rfl
        forward := origin.ge
        totals := ⟨0, rfl, origin.symm ▸ .none _⟩ }
      queue := by
        rw [List.append_nil, ← stampAll_flatMap_bytes]
        rfl
      plain := by
        simp only [List.forall_mem_cons]
        exact ⟨.mode, .speed1, .speed2, nofun⟩
      queries := nofun
      speed1 := .inl (by simp)
      speed2 := .inl (by simp)
      still := .inr there
      strides := le_rfl }⟩

end Session

/-- On a fresh standard robot, at the simulation speed of one and with the watch turned off, both
wheels are told one speed at zero. Then ticks follow, each later than the one before, and queries
in between, and the exact number of counts up to the last tick is not beyond the machine's numbers.
Nothing is refused, there is at most one slice with a length for each tick and query, and both
encoders are one total, wrapped. The total is the exact number toward zero, up to one count for
each of these slices, which are turned into whole counts one by one, and up to one part in `2 ^ 51`
that rounding loses. Where the exact number fits the encoders, it is the encoders that are this
near to it, to the count. -/
theorem Session.encoders_of_straightDrive (arena : Arena Float) (client : Timeline Float)
    (keys : Keyboard) (world : World) (line : Bool) (socket : Option Socket) (b : UInt8)
    (steps : List DriveStep) (onward : Onward zero steps)
    (reach : |exactCounts (b.toNat - 128) (value (finish zero steps))| ≤ 2 ^ 1021) :
    let fresh : Session Float :=
      ⟨⟨.initial .standard arena (Scalar.ofInt 1) zero false, world, line, socket⟩, client, keys⟩
    let actions := setOff b ++ steps.map action
    let final := (fresh.after actions).sim.robot
    let exact := exactCounts (b.toNat - 128) (value (finish zero steps))
    (∀ o ∈ fresh.outcomes actions, o.result.isOk = true) ∧
      final.lastStep = finish zero steps ∧ final.journal.strides ≤ steps.length ∧
      (∃ total : ℤ, final.registers.encoders = (wrap32 total, wrap32 total) ∧
        |(total : ℚ) - towardZero exact| ≤ final.journal.strides + |exact| / 2 ^ 51) ∧
      (|exact| ≤ 2 ^ 31 - 2 →
        |final.registers.encoder1 - towardZero exact| ≤ final.journal.strides ∧
          |final.registers.encoder2 - towardZero exact| ≤ final.journal.strides) := by
  intro fresh actions final exact
  obtain ⟨running, here, driving⟩ := driving_setOff arena client keys world line socket b
  obtain ⟨ok, todo, asked, driving', there⟩ := driving_after running driving here onward reach
  rw [← after_append] at driving' there
  have usual : ∀ a ∈ actions, a.pokes = false := by
    intro a inside
    obtain first | second := List.mem_append.1 inside
    · obtain rfl | rfl : a = _ ∨ a = _ := by simpa [setOff] using first
      all_goals rfl
    · obtain ⟨step, -, rfl⟩ := List.mem_map.1 second
      cases step <;> rfl
  have counting : final.Counting :=
    kept_of_chain Robot.counting_turn (fresh.turns_after usual) rfl
  obtain ⟨total, sum, totals⟩ := driving'.straight.totals
  have forward := driving'.straight.forward
  rw [there] at totals forward
  have encoders : final.registers.encoders = (wrap32 total, wrap32 total) := by
    rw [counting, sum]
    rfl
  have strides := (Nat.le_add_right _ _).trans driving'.strides
  rw [Nat.zero_add] at strides
  refine ⟨?_, there, strides, ⟨total, encoders, totals.abs_sub_le forward⟩, fun small => ?_⟩
  · intro o inside
    rw [outcomes_append] at inside
    obtain first | second := List.mem_append.1 inside
    · obtain rfl | rfl : o = _ ∨ o = _ := by simpa [setOff, outcomes] using first
      all_goals rfl
    · exact ok o second
  · have near := totals.abs_sub_le_slices forward (small.trans_lt (by norm_num))
    have fits : wrap32 total = total := by
      have size : |(total : ℚ)| < 2147483647 := totals.le.trans_lt (by linarith)
      obtain ⟨low, high⟩ := abs_lt.1 size
      refine (wrap32_eq_iff total).2 ⟨?_, ?_⟩
      · exact_mod_cast (by linarith : (-2147483648 : ℚ) ≤ total)
      · exact_mod_cast high.le
    rw [fits] at encoders
    obtain ⟨first, second⟩ := Prod.ext_iff.1 encoders
    exact ⟨by rwa [show final.registers.encoder1 = total from first],
      by rwa [show final.registers.encoder2 = total from second]⟩

/-- The standard session with the watch turned off. -/
def Session.unwatched : Session Float :=
  { standard with sim := .initial .standard .standard (Scalar.ofInt 1) zero false }

/-- A drive of a second at twenty units, with a query on the way. -/
def Session.polledDrive : List DriveStep :=
  [.tick (Scalar.ofInt 1 / Scalar.ofInt 2), .ask .encoder1 (Scalar.ofInt 3 / Scalar.ofInt 4),
    .tick (Scalar.ofInt 1)]

/-- The encoders are no more than three counts from the exact number. -/
theorem Session.encoders_of_straightDrive_polled :
    let final := (unwatched.after (setOff 148 ++ polledDrive.map action)).sim.robot
    final.journal.strides = 3 ∧ |final.registers.encoder1 - towardZero (exactCounts 20 1)| ≤ 3 ∧
      |final.registers.encoder2 - towardZero (exactCounts 20 1)| ≤ 3 := by
  intro final
  obtain ⟨low, -⟩ := countLength_between
  have last : value (finish zero polledDrive) = 1 := by decide +kernel
  have units : (((148 : UInt8).toNat : ℤ) - 128) = 20 := by decide
  have small : |exactCounts 20 1| ≤ 2 ^ 31 - 2 := by
    rw [exactCounts, abs_div, abs_of_pos (by linarith : 0 < value countLength),
      div_le_iff₀ (by linarith)]
    norm_num
    linarith
  have reach : |exactCounts 20 1| ≤ 2 ^ 1021 :=
    (small.trans (sub_le_self _ zero_le_two)).trans
      (pow_le_pow_right₀ one_le_two (by norm_num))
  have onward : Onward zero polledDrive := by
    simp only [polledDrive, Onward, Comes, clock]
    decide +kernel
  obtain ⟨-, -, -, -, within⟩ := encoders_of_straightDrive .standard
    ⟨.standard, zero, Scalar.ofInt 1, {}⟩ {} { machine := .looped } false none 148 polledDrive
    onward
    (by rwa [last, units])
  have strides : final.journal.strides = 3 := by decide +kernel
  rw [last, units] at within
  obtain ⟨first, second⟩ := within small
  have three : (final.journal.strides : ℤ) ≤ 3 := by rw [strides]; rfl
  exact ⟨strides, first.trans three, second.trans three⟩

/-- A quarter of a second in four ticks. -/
def Session.cutDrive : List DriveStep :=
  [.tick (Scalar.ofInt 1 / Scalar.ofInt 16), .tick (Scalar.ofInt 1 / Scalar.ofInt 8),
    .tick (Scalar.ofInt 3 / Scalar.ofInt 16), .tick (Scalar.ofInt 1 / Scalar.ofInt 4)]

/-- At one unit no tick is worth a count, though all of them together are worth three, and three
are counted where there is one tick: encoders need not be within one count of the exact number. -/
theorem Session.encoders_short_of_cutDrive :
    let final := (unwatched.after (setOff 129 ++ cutDrive.map action)).sim.robot
    let whole := unwatched.after (setOff 129 ++ [.tick (Scalar.ofInt 1 / Scalar.ofInt 4)])
    let exact := exactCounts 1 (value (finish zero cutDrive))
    Onward zero cutDrive ∧ final.registers.encoders = (0, 0) ∧ towardZero exact = 3 ∧
      ¬ |final.registers.encoder1 - towardZero exact| ≤ 1 ∧
      ¬ |final.registers.encoder2 - towardZero exact| ≤ 1 ∧
      whole.sim.robot.registers.encoders = (3, 3) := by
  intro final whole exact
  obtain ⟨low, high⟩ := countLength_between
  have length : 0 < value countLength := by linarith
  have onward : Onward zero cutDrive := by
    simp only [cutDrive, Onward, Comes, clock]
    decide +kernel
  have encoders : final.registers.encoders = (0, 0) := by decide +kernel
  have last : value (finish zero cutDrive) = 1 / 4 := by decide +kernel
  have three : towardZero exact = 3 := by
    have form : exact = 25 / 16 / value countLength := by
      simp only [exact, last, exactCounts]
      norm_num
    have below : 3 ≤ exact := by
      rw [form, le_div_iff₀ length]
      linarith
    have above : exact < 4 := by
      rw [form, div_lt_iff₀ length]
      linarith
    rw [towardZero, if_neg (by linarith), Int.floor_eq_iff]
    exact ⟨by exact_mod_cast below, by push_cast; linarith⟩
  obtain ⟨first, second⟩ := Prod.ext_iff.1 encoders
  refine ⟨onward, encoders, three, ?_, ?_, by decide +kernel⟩
  · rw [show final.registers.encoder1 = 0 from first, three]
    decide
  · rw [show final.registers.encoder2 = 0 from second, three]
    decide

end DifferentialDrive
