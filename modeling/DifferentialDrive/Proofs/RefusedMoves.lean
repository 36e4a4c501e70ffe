import DifferentialDrive.Proofs.Moves

/-!
# Moves that are refused

A move stops motors that are overdue, follows the motion and only then counts the way of the wheels,
and each of these can be refused. The clock is set and the counts are added last, so a refused move
leaves them, but what was done before stays done (`refused_move_leaves`): motors that were overdue
are stopped, and where the counting is refused the robot has moved. As its clock has not, the next
move follows the same motion again, from where the refused one ended.
-/

namespace DifferentialDrive

open Wire Scalar

variable {α : Type} [Scalar α] {r s w : Robot α} {limit : α} {f : Fault α}

namespace Robot

/-- A move for its own sake. -/
def leg (r : Robot α) (limit : α) : Leg α := ⟨r, limit, none⟩

/-- The registers when the watch has looked at the motors. -/
def watched (r : Robot α) : Registers α :=
  match r.overdue with
  | .ok true => r.registers.forceStop
  | _ => r.registers

/-- The track when the motion up to an instant has been followed, if there is one. -/
def followed (r : Robot α) (limit : α) : Track α :=
  match (r.leg limit).travel with
  | .ok t => r.follow t
  | .error _ => r.track

/-! ## The watch -/

theorem eq_of_watch (h : r.watch = .ok w) :
    w = { r with registers := r.watched, journal := w.journal } := by
  obtain ⟨early, rfl⟩ | ⟨late, rfl⟩ := watch_cases h
  · simp [watched, early]
  · simp [watched, late, halt, note]

theorem watched_of_error (h : r.watch = .error f) : r.watched = r.registers := by
  unfold watch at h
  unfold watched
  cases overdue : r.overdue with
  | error g => rfl
  | ok late => cases late <;> simp [overdue, bind, Except.bind, pure, Except.pure] at h

/-- What the watch does leaves the motors as overdue as they were. -/
theorem overdue_watched (track : Track α) (journal : Journal α) :
    ({ r with registers := r.watched, track := track, journal := journal } : Robot α).overdue =
      r.overdue := by
  have same : r.watched.timeout = r.registers.timeout ∧
      r.watched.lastCommand = r.registers.lastCommand := by
    unfold watched
    split <;> exact ⟨rfl, rfl⟩
  simp only [overdue, silence, same]

/-- Motors that the watch has looked at it leaves as they are. -/
theorem watched_watched (track : Track α) (journal : Journal α) :
    ({ r with registers := r.watched, track := track, journal := journal } : Robot α).watched =
      r.watched := by
  have same := r.overdue_watched track journal
  unfold watched at same ⊢
  rw [same]
  cases r.overdue with
  | error g => rfl
  | ok late => cases late <;> rfl

/-- The motion of a robot whose watch is not refused. -/
theorem travel_leg {late : Bool} (h : r.overdue = .ok late) (limit : α) :
    (r.leg limit).travel = travel r.chassis r.watched.decodeMode r.watched.speed1.toNat
      r.watched.speed2.toNat r.lastStep (later limit r.lastStep) r.simSpeed r.track.pose := by
  cases late <;> simp [leg, Leg.travel, watch, watched, h, motion, halt, note, bind, Except.bind,
    pure, Except.pure]

/-! ## What is left -/

theorem refused_cases (h : r.advance limit = ⟨s, .error f⟩) :
    (r.watch = .error f ∧ s = r) ∨
      ∃ w, r.watch = .ok w ∧
        ((w.motion (later limit r.lastStep) = .error f ∧ s = w) ∨
          ∃ t, w.motion (later limit r.lastStep) = .ok t ∧ w.counts t = .error f ∧
            s = { w with track := w.follow t }) := by
  unfold advance at h
  split at h
  · next g watched =>
    cases h
    exact .inl ⟨watched, rfl⟩
  · next w watched =>
    refine .inr ⟨w, watched, ?_⟩
    dsimp only at h
    split at h
    · next g moved =>
      cases h
      exact .inl ⟨moved, rfl⟩
    · next t moved =>
      split at h
      · next g counted =>
        cases h
        exact .inr ⟨t, moved, counted, rfl⟩
      · cases h

theorem state_of_refused (h : r.advance limit = ⟨s, .error f⟩) :
    s = { r with registers := r.watched, track := r.followed limit, journal := s.journal } := by
  -- refused by the watch, by the motion or by the counts
  obtain ⟨watch, rfl⟩ | ⟨w, watch, ⟨motion, rfl⟩ | ⟨t, motion, -, rfl⟩⟩ := refused_cases h
  · have still : s.followed limit = s.track := by
      simp [followed, leg, Leg.travel, watch, bind, Except.bind]
    rw [watched_of_error watch, still]
  · have still : r.followed limit = r.track := by
      simp [followed, leg, Leg.travel, watch, motion, bind, Except.bind]
    rw [still]
    exact eq_of_watch watch
  · have same := eq_of_watch watch
    have moved : r.followed limit = w.follow t := by
      simp only [followed, leg, Leg.travel, watch, motion, bind, Except.bind]
      rw [same]
      rfl
    rw [moved]
    rw [same]

theorem watched_eq_iff :
    r.watched = r.registers ↔ (r.overdue = .ok true → r.registers.forceStop = r.registers) := by
  unfold watched
  split
  · next late => simp [late]
  · next early => exact ⟨fun _ late => absurd late early, fun _ => rfl⟩

theorem followed_eq_iff :
    r.followed limit = r.track ↔ ∀ t, (r.leg limit).travel = .ok t → r.follow t = r.track := by
  unfold followed
  split
  · next t moved => simp [moved]
  · next g moved => simp [moved]

/-- The motion of the move that comes after one whose motion was not refused. -/
theorem travel_after_refused (h : r.advance limit = ⟨s, .error f⟩) {t : Travel α}
    (moved : (r.leg limit).travel = .ok t) (next : α) :
    (s.leg next).travel = travel r.chassis r.watched.decodeMode r.watched.speed1.toNat
      r.watched.speed2.toNat r.lastStep (later next r.lastStep) r.simSpeed (r.follow t).pose := by
  obtain ⟨w, watch, -⟩ := ok_of_bind moved
  obtain ⟨late, overdue, -⟩ := ok_of_bind watch
  have track : r.followed limit = r.follow t := by simp only [followed, moved]
  rw [state_of_refused h, travel_leg ((r.overdue_watched _ _).trans overdue), watched_watched,
    track]

/-- A move that is refused leaves the clock and the encoders as they are, the motors as the watch
left them and the track where the motion led, if there was one. So it leaves the robot as it was
exactly if neither did anything; and the next move follows the motion since the same instant once
more, from the pose that the refused one led to. -/
theorem refused_move_leaves (h : r.advance limit = ⟨s, .error f⟩) :
    s = { r with registers := r.watched, track := r.followed limit, journal := s.journal } ∧
      (s.registers.encoder1, s.registers.encoder2) =
        (r.registers.encoder1, r.registers.encoder2) ∧
      (s.registers = r.registers ∧ s.track = r.track ↔
        (r.overdue = .ok true → r.registers.forceStop = r.registers) ∧
          ∀ t, (r.leg limit).travel = .ok t → r.follow t = r.track) ∧
      ∀ t, (r.leg limit).travel = .ok t → ∀ next,
        (s.leg next).travel = travel r.chassis r.watched.decodeMode r.watched.speed1.toNat
          r.watched.speed2.toNat r.lastStep (later next r.lastStep) r.simSpeed
          (r.follow t).pose := by
  have left := state_of_refused h
  refine ⟨left, ?_, ?_, fun t moved next => travel_after_refused h moved next⟩
  · rw [left]
    simp only [watched]
    split <;> rfl
  · rw [left, ← watched_eq_iff, ← followed_eq_iff]

/-- Wheels so small that a count is nothing, on a robot that drives. -/
def tinyWheels : Robot Float :=
  let chassis : Chassis Float :=
    { Chassis.standard with wheelDiameter := .scalar (ofInt 1 / ofInt (10 ^ 305)) }
  let r := (initial chassis (ofInt 1) zero true).push
    [0x00, 0x31, 0x94, 0x00, 0x32, 0x94, 0x00, 0x41, 0x00, 0x00] zero
  (((r.takeFrame zero).state.takeFrame zero).state.takeFrame zero).state

/-- A second's way is more counts than there are numbers. -/
theorem advance_tinyWheels : ∃ s f, tinyWheels.advance (ofInt 1) = ⟨s, .error f⟩ ∧
    s.track.trace.size = 1 := by
  have refused : (tinyWheels.advance (ofInt 1)).result.isOk = false := by decide +kernel
  have gone : (tinyWheels.advance (ofInt 1)).state.track.trace.size = 1 := by decide +kernel
  cases h : tinyWheels.advance (ofInt 1) with
  | mk s result =>
    rw [h] at refused gone
    cases result with
    | ok _ => cases refused
    | error f => exact ⟨s, f, rfl, gone⟩

theorem refused_move_leaves_tinyWheels : ∃ s f t, tinyWheels.advance (ofInt 1) = ⟨s, .error f⟩ ∧
    (tinyWheels.leg (ofInt 1)).travel = .ok t ∧ s.lastStep = tinyWheels.lastStep ∧
    s.track = tinyWheels.followed (ofInt 1) ∧
    ∀ next, (s.leg next).travel = travel tinyWheels.chassis tinyWheels.watched.decodeMode
      tinyWheels.watched.speed1.toNat tinyWheels.watched.speed2.toNat tinyWheels.lastStep
      (later next tinyWheels.lastStep) tinyWheels.simSpeed (tinyWheels.follow t).pose := by
  obtain ⟨s, f, h, -⟩ := advance_tinyWheels
  have moves : (tinyWheels.leg (ofInt 1)).travel.isOk = true := by decide +kernel
  obtain ⟨t, moved⟩ : ∃ t, (tinyWheels.leg (ofInt 1)).travel = .ok t := by
    cases travelled : (tinyWheels.leg (ofInt 1)).travel with
    | ok t => exact ⟨t, rfl⟩
    | error f =>
      rw [travelled] at moves
      cases moves
  obtain ⟨left, -, -, again⟩ := refused_move_leaves h
  refine ⟨s, f, t, h, moved, ?_, ?_, again t moved⟩ <;> rw [left]

/-- The refused move has begun the trace. -/
theorem refused_move_moved : ∃ s f, tinyWheels.advance (ofInt 1) = ⟨s, .error f⟩ ∧
    tinyWheels.track.trace.size = 0 ∧ s.track.trace.size = 1 := by
  obtain ⟨s, f, h, gone⟩ := advance_tinyWheels
  exact ⟨s, f, h, by decide +kernel, gone⟩

end Robot

end DifferentialDrive
