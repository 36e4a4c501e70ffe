import DifferentialDrive.Proofs.Sessions

/-!
# The legs of a run

A run moves its robot in legs: up to the arrival of each command that it takes, and at last up to
the time it is run to. `Robot.legs` lists them with the robot as each begins, so that a statement
about every slice of motion is one about every leg. The slices that a run notes are those of its
legs that are not refused (`slices_run`), and so are those of a session (`slices_after`). A leg
begins where a chain of steps has led (`steps_legs`).
-/

namespace DifferentialDrive

open Wire Scalar

variable {α : Type}

/-- Whether an event is a slice of motion. -/
def Event.isSlice : Event α → Bool
  | moved .. => true
  | _ => false

theorem Event.isSlice_of_aside {e : Event α} (h : e.aside = true) : e.isSlice = false := by
  cases e <;> simp_all [Event.aside, Event.isSlice]

/-- The slices of motion, in order. -/
def Journal.slices (j : Journal α) : List (Event α) := j.toList.filter Event.isSlice

@[simp] theorem Journal.slices_push (j : Journal α) (e : Event α) :
    Journal.slices (j.push e) = j.slices ++ if e.isSlice then [e] else [] := by
  cases h : e.isSlice <;> simp [slices, h]

/-- A move of a robot within a run. -/
structure Leg (α : Type) where
  /-- The robot before the move. -/
  robot : Robot α
  /-- The instant it moves to, unless it is past it. -/
  limit : α
  /-- The command that is executed there; none at the end of the run. -/
  command : Option Command

variable [Scalar α]

namespace Leg

/-- The robot when it has moved, before anything is executed. -/
def arrived (l : Leg α) : Robot α := (l.robot.advance l.limit).state

/-- The units the wheels turn at: those of the registers once the watch has looked at them. -/
def units (l : Leg α) : Except (Fault α) (Int × Int) := do
  return (← l.robot.watch).registers.units

/-- The slice that is noted, unless the leg is refused. -/
def slice? (l : Leg α) : Option (Event α) :=
  match l.robot.advance l.limit with
  | ⟨s, .ok ()⟩ => s.journal.back?
  | ⟨_, .error _⟩ => none

end Leg

namespace Robot

/-- The leg to the frame at the front of the queue, if there is one. -/
def leg? (r : Robot α) (now : α) : Option (Leg α) :=
  match Frame.next now r.queue with
  | .waiting => some ⟨r, now, none⟩
  | .ready c stamp _ => some ⟨r, stamp, some c⟩
  | .stray .. | .unknown .. => none

/-- The moves of a run to the given time. -/
def legs (r : Robot α) (now : α) : List (Leg α) :=
  match _taken : r.takeFrame now with
  | ⟨s, .ok true⟩ => (r.leg? now).toList ++ s.legs now
  | ⟨_, .ok false⟩ | ⟨_, .error _⟩ => (r.leg? now).toList
termination_by r.queue.length
decreasing_by exact takeFrame_shortens r s now ‹_›

theorem legs_of_waiting {r : Robot α} {now : α} (h : Frame.next now r.queue = .waiting) :
    r.legs now = [⟨r, now, none⟩] := by
  have idle : r.takeFrame now = ⟨r, .ok false⟩ := by simp [takeFrame, h]
  rw [legs]
  split <;> simp_all [leg?]

theorem legs_of_taken {r s : Robot α} {now : α} (h : r.takeFrame now = ⟨s, .ok true⟩) :
    r.legs now = (r.leg? now).toList ++ s.legs now := by
  rw [legs]
  split <;> simp_all

/-- A run that takes no frame has no leg but the first. -/
theorem legs_of_not_taken {r s : Robot α} {now : α} {taken : Except (Fault α) Bool}
    (h : r.takeFrame now = ⟨s, taken⟩) (other : taken ≠ .ok true) :
    r.legs now = (r.leg? now).toList := by
  rw [legs]
  split <;> simp_all

theorem legs_of_stray {r : Robot α} {now : α} {code : UInt8} {rest : List (Stamped α)}
    (h : Frame.next now r.queue = .stray code rest) :
    r.legs now = ({ r.note (.strayByte code) with queue := rest } : Robot α).legs now := by
  rw [legs_of_taken (by rw [takeFrame, h])]
  simp [leg?, h]

theorem legs_of_unknown {r : Robot α} {now : α} {code : UInt8} {rest : List (Stamped α)}
    (h : Frame.next now r.queue = .unknown code rest) :
    r.legs now = ({ r.note (.unknownOpcode code) with queue := rest } : Robot α).legs now := by
  rw [legs_of_taken (by rw [takeFrame, h])]
  simp [leg?, h]

theorem legs_of_ready {r m : Robot α} {now t : α} {c : Command} {rest : List (Stamped α)}
    (h : Frame.next now r.queue = .ready c t rest) (performed : r.perform c t = ⟨m, .ok ()⟩) :
    r.legs now = ⟨r, t, some c⟩ :: ({ m with queue := rest } : Robot α).legs now := by
  have taken : r.takeFrame now = ⟨{ m with queue := rest }, .ok true⟩ := by
    simp only [takeFrame, h, performed]
  rw [legs_of_taken taken]
  simp [leg?, h]

/-! ## What a leg notes -/

theorem slices_halt (r : Robot α) : r.halt.journal.slices = r.journal.slices := by
  simp [Event.isSlice]

theorem slices_watch {r w : Robot α} (h : r.watch = .ok w) :
    w.journal.slices = r.journal.slices := by
  obtain ⟨-, rfl⟩ | ⟨-, rfl⟩ := watch_cases h
  · rfl
  · exact slices_halt r

/-- A leg that is not refused notes one slice, at the units the watch has left. -/
theorem slice?_of_ok {l : Leg α} (h : (l.robot.advance l.limit).result = .ok ()) :
    ∃ units point counts, l.units = .ok units ∧
      l.slice? = some (.moved l.robot.lastStep (later l.limit l.robot.lastStep) units point
        counts) := by
  have slice := advance_slice l.robot l.limit
  cases done : l.robot.advance l.limit with
  | mk a result =>
    rw [done] at slice h
    subst h
    cases slice with
    | @settled w t counts watched _ =>
      have same : w.lastStep = l.robot.lastStep := by
        obtain ⟨-, rfl⟩ | ⟨-, rfl⟩ := watch_cases watched <;> rfl
      refine ⟨w.registers.units, ((w.follow t).pose.x, (w.follow t).pose.y), counts, ?_, ?_⟩
      · simp [Leg.units, watched, bind, Except.bind]
        rfl
      · simp [Leg.slice?, done, Robot.slice, same]

/-- What a leg adds to the slices of the journal. -/
theorem slices_advance (r : Robot α) (limit : α) (command : Option Command) :
    (r.advance limit).state.journal.slices =
      r.journal.slices ++ (Leg.mk r limit command).slice?.toList := by
  have slice := advance_slice r limit
  cases done : r.advance limit with
  | mk a result =>
    rw [done] at slice
    cases slice with
    | unwatched => simp [Leg.slice?, done]
    | unmoved watched => simp [Leg.slice?, done, slices_watch watched]
    | uncounted watched => simp [Leg.slice?, done, slices_watch watched]
    | settled watched =>
      simp [Leg.slice?, done, slices_watch watched, Robot.slice, Event.isSlice]

theorem Effect.slices_eq {r s : Robot α} {c : Command} (h : Effect r c s) :
    s.journal.slices = r.journal.slices :=
  h.journal_eq fun _ _ aside => by simp [Event.isSlice_of_aside aside]

theorem slices_perform (r : Robot α) (c : Command) (stamp : α) :
    (r.perform c stamp).state.journal.slices =
      r.journal.slices ++ (Leg.mk r stamp (some c)).slice?.toList := by
  rw [← slices_advance r stamp (some c)]
  unfold perform
  split
  · next moved => rw [moved]
  · next a moved =>
    split
    · next s f executed =>
      obtain rfl := execute_refused executed
      rw [moved]
    · next s executed => simp [moved, (execute_effect executed).slices_eq, Event.isSlice]

theorem slices_takeFrame {r s : Robot α} {now : α} {taken : Except (Fault α) Bool}
    (h : r.takeFrame now = ⟨s, taken⟩) (other : taken ≠ .ok false) :
    s.journal.slices = r.journal.slices ++ (r.leg? now).toList.filterMap Leg.slice? := by
  unfold takeFrame at h
  unfold leg?
  split at h
  · simp_all
  · next found =>
    obtain ⟨rfl, -⟩ := by simpa using h
    simp [found, Event.isSlice]
  · next found =>
    obtain ⟨rfl, -⟩ := by simpa using h
    simp [found, Event.isSlice]
  · next c stamp rest found =>
    have performed := slices_perform r c stamp
    simp only [found, Option.toList_some, List.filterMap_cons, List.filterMap_nil]
    split at h
    all_goals
      next done =>
      rw [done] at performed
      obtain ⟨rfl, -⟩ := by simpa using h
      cases noted : (Leg.mk r stamp (some c)).slice? <;> simpa [noted] using performed

theorem leg?_of_idle {r s : Robot α} {now : α} (h : r.takeFrame now = ⟨s, .ok false⟩) :
    s = r ∧ r.leg? now = some ⟨r, now, none⟩ := by
  unfold takeFrame at h
  split at h
  · next found =>
    obtain rfl : r = s := by simpa using h
    exact ⟨rfl, by simp [leg?, found]⟩
  · simp at h
  · simp at h
  · split at h <;> simp at h

/-- The slices that a run notes are those of its legs. -/
theorem slices_run (r : Robot α) (now : α) :
    (r.run now).state.journal.slices = r.journal.slices ++ (r.legs now).filterMap Leg.slice? := by
  fun_induction run r now with
  | case1 r s taken ih =>
    rw [legs]
    split
    · next s' same =>
      obtain rfl : s = s' := by simpa [taken] using same
      simp [ih, slices_takeFrame taken (by simp)]
    all_goals simp_all
  | case2 r s taken =>
    obtain ⟨rfl, idle⟩ := leg?_of_idle taken
    rw [legs]
    split
    · simp_all
    · have last := slices_advance s now none
      cases noted : (Leg.mk s now none).slice? <;> simpa [idle, noted] using last
    · simp_all
  | case3 r s f taken =>
    rw [legs]
    split
    · simp_all
    · simp_all
    · exact slices_takeFrame taken (by simp)

/-- No leg of a run is refused if the run is not. -/
theorem Ran.moves {r s : Robot α} {now : α} (h : Ran now r s) :
    ∀ l ∈ r.legs now, (l.robot.advance l.limit).result = .ok () := by
  induction h with
  | idle waits moved => simp [legs_of_waiting waits, moved]
  | stray found _ ih => rwa [legs_of_stray found]
  | unknown found _ ih => rwa [legs_of_unknown found]
  | command found performed _ ih =>
    obtain ⟨a, m, moved, -, -⟩ := perform_ok performed
    rw [legs_of_ready found performed]
    simpa [moved] using ih

/-! ## Where a leg begins -/

theorem robot_of_mem_leg? {r : Robot α} {now : α} {l : Leg α} (h : l ∈ (r.leg? now).toList) :
    l.robot = r := by
  unfold leg? at h
  split at h <;> simp_all

/-- A leg begins where the run has come to. -/
theorem works_legs {r : Robot α} {now : α} {l : Leg α} (h : l ∈ r.legs now) :
    Works r l.robot := by
  fun_induction legs r now with
  | case1 r s taken ih =>
    obtain here | further := List.mem_append.1 h
    · rw [robot_of_mem_leg? here]
    · have first := works_takeFrame r now
      rw [taken] at first
      exact first.trans (ih further)
  | case2 r | case3 r => rw [robot_of_mem_leg? h]

end Robot

open Robot

namespace Session

/-- The legs of an action: those of a tick of a running simulation. -/
def legsOf (s : Session α) : Action α → List (Leg α)
  | .tick now => if s.sim.running then s.sim.robot.legs now else []
  | _ => []

/-- The legs of actions in turn. -/
def legs (s : Session α) : List (Action α) → List (Leg α)
  | [] => []
  | a :: rest => s.legsOf a ++ (s.perform a).state.legs rest

/-- The slices that an action notes are those of its legs. -/
theorem slices_perform (s : Session α) (a : Action α) :
    (s.perform a).state.sim.robot.journal.slices =
      s.sim.robot.journal.slices ++ (s.legsOf a).filterMap Leg.slice? := by
  have still (touches : a.touches = true) (none : s.legsOf a = []) :
      (s.perform a).state.sim.robot.journal.slices =
        s.sim.robot.journal.slices ++ (s.legsOf a).filterMap Leg.slice? := by
    rw [none, (s.touches_perform a touches).journal_eq Journal.slices fun _ _ aside => by
      simp [Event.isSlice_of_aside aside]]
    simp
  cases a with
  | tick now =>
    simp only [perform, Simulation.tick, legsOf]
    split
    · exact slices_run s.sim.robot now
    · simp
  | start => simp [perform, Simulation.start, legsOf, Event.isSlice]
  | poke => simp [perform, poke, legsOf]
  | _ => exact still rfl rfl

/-- The slices that a session notes are those of its legs. -/
theorem slices_after (s : Session α) (actions : List (Action α)) :
    (s.after actions).sim.robot.journal.slices =
      s.sim.robot.journal.slices ++ (s.legs actions).filterMap Leg.slice? := by
  induction actions generalizing s with
  | nil => simp [after, legs]
  | cons a rest ih =>
    have first := s.slices_perform a
    have others := ih (s.perform a).state
    rw [first] at others
    simpa [after, legs] using others

/-- No leg of a session is refused if no action is. -/
theorem legs_moved {s : Session α} {actions : List (Action α)}
    (fair : ∀ o ∈ s.outcomes actions, o.result.isOk = true) :
    ∀ l ∈ s.legs actions, (l.robot.advance l.limit).result = .ok () := by
  induction actions generalizing s with
  | nil => simp [legs]
  | cons a rest ih =>
    intro l hl
    obtain here | further := List.mem_append.1 hl
    · cases a with
      | tick now =>
        simp only [legsOf] at here
        split at here
        · next running => exact (ran_tick running (fair _ (by simp [outcomes]))).moves l here
        · simp at here
      | _ => simp [legsOf] at here
    · exact ih (fun o ho => fair o (by simp [outcomes, ho])) l further

/-- A leg of an action begins where the robot has come to by itself. -/
theorem works_legsOf {s : Session α} {a : Action α} {l : Leg α} (h : l ∈ s.legsOf a) :
    Works s.sim.robot l.robot := by
  cases a with
  | tick now =>
    simp only [legsOf] at h
    split at h
    · exact works_legs h
    · simp at h
  | _ => simp [legsOf] at h

/-- A leg of a session begins where a chain of steps has led. -/
theorem steps_legs {s : Session α} {actions : List (Action α)} {l : Leg α}
    (h : l ∈ s.legs actions) : Steps s.sim.robot l.robot := by
  induction actions generalizing s with
  | nil => simp [legs] at h
  | cons a rest ih =>
    obtain here | further := List.mem_append.1 h
    · exact (works_legsOf here).steps
    · exact (s.steps_perform a).trans (ih further)

theorem turns_legs {s : Session α} {actions : List (Action α)} {l : Leg α}
    (usual : ∀ a ∈ actions, a.pokes = false) (h : l ∈ s.legs actions) :
    Turns s.sim.robot l.robot := by
  induction actions generalizing s with
  | nil => simp [legs] at h
  | cons a rest ih =>
    obtain here | further := List.mem_append.1 h
    · exact (works_legsOf here).turns
    · exact (s.turns_perform a (usual a (by simp))).trans
        (ih (fun b hb => usual b (by simp [hb])) further)

end Session

end DifferentialDrive
