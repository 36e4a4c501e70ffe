import DifferentialDrive.Proofs.Moves
import Mathlib.Data.List.Chain

/-!
# The course of a session

What a session passes through is its robot before the first action, at both ends of every leg and
behind every action (`Session.course`). If nothing is refused, every robot on the course has come
from those before it in smooth steps, each of which moves the robot by a whole slice or not at all
(`Session.smooth_course`).
-/

namespace DifferentialDrive

open Wire Scalar

variable {α : Type} [Scalar α]

/-- The robot at both ends of a leg. -/
def Leg.ends (l : Leg α) : List (Robot α) := [l.robot, l.arrived]

namespace Session

/-- The robots that actions lead to: at both ends of every leg, and behind every action. -/
def passed (s : Session α) : List (Action α) → List (Robot α)
  | [] => []
  | a :: rest =>
    (s.legsOf a).flatMap Leg.ends ++
      (s.perform a).state.sim.robot :: (s.perform a).state.passed rest

/-- The robots that a session passes through. -/
def course (s : Session α) (actions : List (Action α)) : List (Robot α) :=
  s.sim.robot :: s.passed actions

theorem sublist_passed {s : Session α} {actions : List (Action α)} {l : Leg α}
    (h : l ∈ s.legs actions) : List.Sublist l.ends (s.passed actions) := by
  induction actions generalizing s with
  | nil => simp [legs] at h
  | cons a rest ih =>
    obtain here | further := List.mem_append.1 h
    · exact (List.sublist_flatten_of_mem (List.mem_map_of_mem here)).trans
        (List.sublist_append_left _ _)
    · exact ((ih further).trans (List.sublist_cons_self _ _)).trans
        (List.sublist_append_right _ _)

/-- A course ends where the session does. -/
theorem course_eq_append (s : Session α) (actions : List (Action α)) :
    ∃ before, s.course actions = before ++ [(s.after actions).sim.robot] := by
  induction actions generalizing s with
  | nil => exact ⟨[], rfl⟩
  | cons a rest ih =>
    obtain ⟨before, split⟩ := ih (s.perform a).state
    refine ⟨s.sim.robot :: (s.legsOf a).flatMap Leg.ends ++ before, ?_⟩
    rw [List.append_assoc]
    exact congrArg (s.sim.robot :: (s.legsOf a).flatMap Leg.ends ++ ·) split

end Session

/-! ## Smooth steps -/

namespace Robot

/-- A step of a robot of which nothing is refused. -/
inductive Smooth : Robot α → Robot α → Prop where
  | touch {r s} : Touch r s → Smooth r s
  | resume (r now) : Smooth r { r.note (.started now) with lastStep := later now r.lastStep }
  | poke (r : Robot α) (encoder1 encoder2 acceleration : Int) :
      Smooth r { r with registers := { r.registers with
        encoder1 := encoder1
        encoder2 := encoder2
        acceleration := acceleration } }
  | drop {r e rest} : e.drops = true → Smooth r { r.note e with queue := rest }
  | move {r a limit} : r.advance limit = ⟨a, .ok ()⟩ → Smooth r a
  | obey {r s c stamp rest} : ({ r with commandTime := stamp } : Robot α).execute c = ⟨s, .ok ()⟩ →
      Smooth r { s.note (.executed c stamp) with queue := rest }

/-- A chain of smooth steps. -/
abbrev Smoothly : Robot α → Robot α → Prop := Relation.ReflTransGen Smooth

theorem Touches.smoothly {r s : Robot α} (h : Touches r s) : Smoothly r s :=
  Relation.ReflTransGen.mono (fun _ _ => Smooth.touch) _ _ h

/-- A journal only grows. -/
theorem Smooth.journal {r s : Robot α} (h : Smooth r s) :
    r.journal.toList <+: s.journal.toList := by
  have pushed (j : Journal α) (e : Event α) : j.toList <+: (j.push e).toList := by simp
  have settled {w : Robot α} (watched : r.watch = .ok w) :
      r.journal.toList <+: w.journal.toList := by
    obtain ⟨-, rfl⟩ | ⟨-, rfl⟩ := watch_cases watched
    · exact List.prefix_refl _
    · exact pushed _ _
  cases h with
  | touch touch =>
    obtain ⟨-, -, -, -, same | ⟨e, -, same⟩⟩ := touch.same
    · rw [same]
    · exact same ▸ pushed _ _
  | resume | drop => exact pushed _ _
  | poke => exact List.prefix_refl _
  | move moved =>
    obtain ⟨w, t, counts, watched, -, -, rfl⟩ := advance_ok moved
    exact (settled watched).trans (pushed _ _)
  | @obey s c stamp rest executed =>
    have kept : r.journal.toList <+: s.journal.toList := by
      obtain same | ⟨e, -, same⟩ := (execute_effect executed).journal
      · exact same ▸ List.prefix_refl _
      · exact same ▸ pushed _ _
    exact kept.trans (pushed _ _)

theorem journal_prefix_of_smoothly {r s : Robot α} (h : Smoothly r s) :
    r.journal.toList <+: s.journal.toList :=
  kept_of_chain (P := fun s => r.journal.toList <+: s.journal.toList)
    (fun _ _ last before => before.trans last.journal) h (List.prefix_refl _)

/-- A run that is not refused goes smoothly from the beginning of its first leg to its end. -/
theorem Ran.smooth {now : α} {r s : Robot α} (h : Ran now r s) :
    (r :: (r.legs now).flatMap Leg.ends ++ [s]).IsChain Smoothly := by
  -- A byte that is dropped comes before the first leg.
  have dropped {r r' s : Robot α} (first : Smooth r r')
      (rest : (r' :: (r'.legs now).flatMap Leg.ends ++ [s]).IsChain Smoothly) :
      (r :: (r'.legs now).flatMap Leg.ends ++ [s]).IsChain Smoothly :=
    (List.isChain_cons_cons.2 ⟨.single first, rest⟩ :
      (r :: r' :: (r'.legs now).flatMap Leg.ends ++ [s]).IsChain Smoothly).sublist (by simp)
  induction h with
  | @idle r s waits moved =>
    have arrived : (r.advance now).state = s := by rw [moved]
    have there : Smoothly r s := .single (.move moved)
    simpa [legs_of_waiting waits, Leg.ends, Leg.arrived, arrived] using
      ⟨Relation.ReflTransGen.refl, there, Relation.ReflTransGen.refl⟩
  | stray found _ ih =>
    rw [legs_of_stray found]
    exact dropped (.drop rfl) ih
  | unknown found _ ih =>
    rw [legs_of_unknown found]
    exact dropped (.drop rfl) ih
  | @command r m s c t rest found performed _ ih =>
    obtain ⟨a, b, moved, executed, rfl⟩ := perform_ok performed
    have arrived : (r.advance t).state = a := by rw [moved]
    have there : Smoothly r a := .single (.move moved)
    have obeyed : Smoothly a { b.note (.executed c t) with queue := rest } :=
      .single (.obey executed)
    rw [legs_of_ready found performed]
    have others := (List.isChain_cons_cons.2 ⟨obeyed, ih⟩).sublist
      ((List.sublist_cons_self _ _).cons_cons a)
    have all := List.isChain_cons_cons.2 ⟨.refl, List.isChain_cons_cons.2 ⟨there, others⟩⟩
    simpa [Leg.ends, Leg.arrived, arrived] using all

/-- A run that is not refused ends with a move. -/
theorem Ran.last_move {now : α} {r s : Robot α} (h : Ran now r s) :
    ∃ m, Smoothly r m ∧ m.advance now = ⟨s, .ok ()⟩ := by
  induction h with
  | @idle r s waits moved => exact ⟨r, .refl, moved⟩
  | stray _ _ ih | unknown _ _ ih =>
    obtain ⟨m, before, last⟩ := ih
    exact ⟨m, .head (.drop rfl) before, last⟩
  | command _ performed _ ih =>
    obtain ⟨m, before, last⟩ := ih
    obtain ⟨a, b, moved, executed, rfl⟩ := perform_ok performed
    exact ⟨m, .head (.move moved) (.head (.obey executed) before), last⟩

end Robot

namespace Session

/-- An action that is not refused goes smoothly. -/
theorem smooth_perform {s : Session α} {a : Action α}
    (fair : (s.perform a).result.isOk = true) :
    (s.sim.robot :: (s.legsOf a).flatMap Leg.ends ++ [(s.perform a).state.sim.robot]).IsChain
      Robot.Smoothly := by
  have alone (moves : s.legsOf a = [])
      (goes : Robot.Smoothly s.sim.robot (s.perform a).state.sim.robot) :
      (s.sim.robot :: (s.legsOf a).flatMap Leg.ends ++
        [(s.perform a).state.sim.robot]).IsChain Robot.Smoothly := by
    rw [moves]
    exact List.isChain_pair.2 goes
  cases a with
  | start now => exact alone rfl (.single (.resume _ now))
  | tick now =>
    cases running : s.sim.running with
    | true => simpa [legsOf, running] using (ran_tick running fair).smooth
    | false =>
      refine alone (by simp [legsOf, running]) ?_
      simpa [perform, Simulation.tick, running] using .refl
  | poke => exact alone rfl (.single (.poke ..))
  | _ => exact alone rfl (s.touches_perform _ rfl).smoothly

/-- A session in which nothing is refused goes smoothly along its course. -/
theorem smooth_course {s : Session α} {actions : List (Action α)}
    (fair : ∀ o ∈ s.outcomes actions, o.result.isOk = true) :
    (s.course actions).IsChain Robot.Smoothly := by
  induction actions generalizing s with
  | nil => exact List.isChain_singleton _
  | cons a rest ih =>
    have first := smooth_perform (fair (s.perform a) (by simp [outcomes]))
    have others := ih (s := (s.perform a).state) fun o ho => fair o (by simp [outcomes, ho])
    simpa [course, passed] using List.isChain_split.2 ⟨first, others⟩

/-- What is on the course of such a session has come from its beginning and leads to its end. -/
theorem smoothly_of_mem_course {s : Session α} {actions : List (Action α)} {r : Robot α}
    (fair : ∀ o ∈ s.outcomes actions, o.result.isOk = true) (h : r ∈ s.course actions) :
    Robot.Smoothly s.sim.robot r ∧ Robot.Smoothly r (s.after actions).sim.robot := by
  have inOrder := (smooth_course fair).pairwise
  constructor
  · obtain rfl | later := List.mem_cons.1 h
    · exact .refl
    · exact (List.pairwise_cons.1 inOrder).1 r later
  · obtain ⟨before, split⟩ := s.course_eq_append actions
    rw [split] at h inOrder
    obtain earlier | last := List.mem_append.1 h
    · exact (List.pairwise_append.1 inOrder).2.2 r earlier _ (by simp)
    · obtain rfl := List.mem_singleton.1 last
      exact .refl

theorem smoothly_after {s : Session α} {actions : List (Action α)}
    (fair : ∀ o ∈ s.outcomes actions, o.result.isOk = true) :
    Robot.Smoothly s.sim.robot (s.after actions).sim.robot :=
  (smoothly_of_mem_course fair List.mem_cons_self).2

end Session

end DifferentialDrive
