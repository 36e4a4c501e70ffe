import DifferentialDrive.Proofs.Run
import DifferentialDrive.Proofs.Stations
import DifferentialDrive.Session

/-!
# What a session can do to its robot

Whatever acts on a robot in a session, the robot changes in steps: those it makes by itself and a
few that come from outside (`steps_after`). A fact about the robot of every session is proved step
by step with `kept_of_chain`.
-/

namespace DifferentialDrive

open Wire Scalar

variable {α : Type}

/-! ## What a client sends -/

/-- The commands a call sent, in order, each with the time it was sent. -/
def Reaction.commands (r : Reaction α) : List (Command × α) :=
  r.pushes.flatMap fun p => p.commands.map (·, p.stamp)

/-- What a client sends are whole commands. -/
theorem Reaction.stamped_eq_encode (r : Reaction α) : r.stamped = encode r.commands := by
  unfold stamped commands encode
  rw [List.flatMap_assoc]
  congr 1
  funext p
  exact stampAll_flatMap_bytes p.commands p.stamp

/-- What each event that a client notes keeps, all of them keep. -/
theorem Simulation.notes_kept {P : Robot α → Prop}
    (kept : ∀ r e, e.aside = true → P r → P (r.note e)) (events : List (Event α))
    (s : Simulation α) (aside : ∀ e ∈ events, e.aside = true) (h : P s.robot) :
    P (events.foldl Simulation.note s).robot := by
  induction events generalizing s with
  | nil => exact h
  | cons e rest ih =>
    exact ih (s.note e) (fun e he => aside e (by simp [he])) (kept _ e (aside e (by simp)) h)

/-! ## What is done with a link -/

/-- What holds of a session and of what is done with a link holds after it, be the link there or
not. -/
theorem Session.onLink_state {β : Type} {P : Session α → Prop} {s : Session α} {there : Bool}
    {o : Outcome (Station α) (Fault α) β} {answer : β → Answer α} (without : P s)
    (done : P { s with toStation := o.state }) : P (s.onLink there o answer).state := by
  unfold onLink
  split
  · exact done
  · exact without

variable [Scalar α]

namespace Timeline

theorem nonNegative_ok {argument : String} {value x : α} (h : nonNegative argument value = .ok x) :
    x = value ∧ ¬ value < zero := by
  unfold nonNegative at h
  split at h <;> simp_all

omit [Scalar α] in
theorem wheel_ok {argument : String} {value x : Int}
    (h : (wheel argument value : Except (Fault α) Int) = .ok x) :
    x = value ∧ -128 ≤ value ∧ value ≤ 127 := by
  unfold wheel at h
  split at h <;> simp_all

/-- A hold sends the mode at the cursor and then the speeds at each of its instants. -/
theorem hold_ok {tl : Timeline α} {seconds : α} {a b : Int} {r : Reaction α}
    (h : tl.hold seconds a b = .ok r) :
    ∃ mode speeds stamps, Request.mode 0 = (.ok mode : Except (Fault α) _) ∧
      Request.speeds (a + 128) (b + 128) = (.ok speeds : Except (Fault α) _) ∧
      holdStamps tl.keepalive (tl.t + seconds) holdLimit tl.t = some stamps ∧
      r = {
        timeline := { tl with t := tl.t + seconds }
        pushes := ⟨tl.t, mode⟩ :: stamps.map fun t => ⟨t, speeds⟩
        events := [.holding tl.t a b seconds] } := by
  obtain ⟨s, hs, h⟩ := ok_of_bind h
  obtain ⟨x, hx, h⟩ := ok_of_bind h
  obtain ⟨y, hy, h⟩ := ok_of_bind h
  obtain ⟨mode, hm, h⟩ := ok_of_bind h
  obtain ⟨speeds, hv, sent⟩ := ok_of_bind h
  obtain ⟨rfl, -⟩ := nonNegative_ok hs
  obtain ⟨rfl, -⟩ := wheel_ok hx
  obtain ⟨rfl, -⟩ := wheel_ok hy
  split at sent
  · cases sent
  · next stamps found =>
    cases sent
    exact ⟨mode, speeds, stamps, hm, hv, found, rfl⟩

theorem aside_of_hold {tl : Timeline α} {seconds : α} {a b : Int} {r : Reaction α}
    (h : tl.hold seconds a b = .ok r) : ∀ e ∈ r.events, e.aside = true := by
  obtain ⟨mode, speeds, stamps, -, -, -, rfl⟩ := hold_ok h
  simp [Event.aside]

theorem hold_of_holdDistance {tl : Timeline α} {distance : α} {a b : Int} {r : Reaction α}
    (h : tl.holdDistance distance a b = .ok r) : ∃ seconds, tl.hold seconds a b = .ok r := by
  obtain ⟨seconds, -, h⟩ := ok_of_bind h
  exact ⟨seconds, h⟩

theorem hold_of_holdAngle {tl : Timeline α} {degrees : α} {a b : Int} {r : Reaction α}
    (h : tl.holdAngle degrees a b = .ok r) : ∃ seconds, tl.hold seconds a b = .ok r := by
  obtain ⟨seconds, -, h⟩ := ok_of_bind h
  exact ⟨seconds, h⟩

/-- A client writes nothing to the journal that concerns the robot. -/
theorem aside_of_perform {tl : Timeline α} {c : Call α} {r : Reaction α}
    (h : tl.perform c = .ok r) : ∀ e ∈ r.events, e.aside = true := by
  have byDistance {d : α} {a b : Int} (h : tl.holdDistance d a b = .ok r) :
      ∀ e ∈ r.events, e.aside = true :=
    aside_of_hold (hold_of_holdDistance h).choose_spec
  have byAngle {d : α} {a b : Int} (h : tl.holdAngle d a b = .ok r) :
      ∀ e ∈ r.events, e.aside = true :=
    aside_of_hold (hold_of_holdAngle h).choose_spec
  cases c with
  | holdSeconds | forwardSeconds | backwardSeconds => exact aside_of_hold h
  | holdDistance | forward | backward => exact byDistance h
  | holdAngle | rotateLeft | rotateRight => exact byAngle h
  | wait s =>
    obtain ⟨s, -, h⟩ := ok_of_bind h
    cases h
    simp
  | stop =>
    cases h
    simp [send]
  | place x y d =>
    obtain ⟨x, -, h⟩ := ok_of_bind h
    obtain ⟨x, -, h⟩ := ok_of_bind h
    obtain ⟨y, -, h⟩ := ok_of_bind h
    obtain ⟨y, -, h⟩ := ok_of_bind h
    obtain ⟨heading, -, h⟩ := ok_of_bind h
    cases h
    simp [send]
  | query opcode =>
    simp only [perform, query] at h
    split at h
    · cases h
    · obtain ⟨replies, -, h⟩ := ok_of_bind h
      cases h
      simp [send]
  | read bytes =>
    obtain ⟨⟨read, replies⟩, -, h⟩ := ok_of_bind h
    cases h
    simp
  | reset =>
    cases h
    simp only [reset]
    split <;> simp [Event.aside]

end Timeline

/-- A session in which nothing is set but what is usual. -/
def Session.standard : Session α where
  sim := .initial .standard .standard (ofInt 1) zero true
  world := { machine := .looped }
  timeline := ⟨.standard, zero, ofInt 1, {}⟩

/-! ## Steps from outside -/

namespace Robot

/-- A step of a robot in a session, made by itself or from outside. -/
inductive Step : Robot α → Robot α → Prop where
  | work {r s} : Work r s → Step r s
  | receive (r bytes) : Step r (r.receive bytes)
  | clear (r) : Step r { r with queue := [] }
  | drain (r) : Step r { r with telemetry := [] }
  | remark (r e) : e.aside = true → Step r (r.note e)
  | resume (r now) :
      Step r { r.note (.started now) with lastStep := later now r.lastStep }
  | poke (r : Robot α) (encoder1 encoder2 acceleration : Int) :
      Step r { r with registers := { r.registers with
        encoder1 := encoder1
        encoder2 := encoder2
        acceleration := acceleration } }

/-- A chain of steps. -/
abbrev Steps : Robot α → Robot α → Prop := Relation.ReflTransGen Step

theorem Works.steps {r s : Robot α} (h : Works r s) : Steps r s :=
  Relation.ReflTransGen.mono (fun _ _ => Step.work) _ _ h

/-- A step that sets no register from outside. -/
inductive Turn : Robot α → Robot α → Prop where
  | work {r s} : Work r s → Turn r s
  | receive (r bytes) : Turn r (r.receive bytes)
  | clear (r) : Turn r { r with queue := [] }
  | drain (r) : Turn r { r with telemetry := [] }
  | remark (r e) : e.aside = true → Turn r (r.note e)
  | resume (r now) :
      Turn r { r.note (.started now) with lastStep := later now r.lastStep }

/-- A chain of such steps. -/
abbrev Turns : Robot α → Robot α → Prop := Relation.ReflTransGen Turn

theorem Turn.step {r s : Robot α} (h : Turn r s) : Step r s := by
  cases h with
  | work h => exact .work h
  | receive => exact .receive ..
  | clear => exact .clear _
  | drain => exact .drain _
  | remark _ aside => exact .remark _ _ aside
  | resume => exact .resume ..

theorem Turns.steps {r s : Robot α} (h : Turns r s) : Steps r s :=
  Relation.ReflTransGen.mono (fun _ _ => Turn.step) _ _ h

/-- What reaches a robot from outside and neither moves it nor sets a register. -/
inductive Touch : Robot α → Robot α → Prop where
  | receive (r bytes) : Touch r (r.receive bytes)
  | clear (r) : Touch r { r with queue := [] }
  | drain (r) : Touch r { r with telemetry := [] }
  | remark (r e) : e.aside = true → Touch r (r.note e)

/-- A chain of such touches. -/
abbrev Touches : Robot α → Robot α → Prop := Relation.ReflTransGen Touch

omit [Scalar α] in
/-- A touch changes the queue, the telemetry and the journal, to which it adds nothing but what is
aside. -/
theorem Touch.same {r s : Robot α} (h : Touch r s) :
    s.registers = r.registers ∧ s.track = r.track ∧ s.lastStep = r.lastStep ∧
      s.commandTime = r.commandTime ∧
      (s.journal = r.journal ∨ ∃ e : Event α, e.aside = true ∧ s.journal = r.journal.push e) := by
  cases h with
  | receive | clear | drain => exact ⟨rfl, rfl, rfl, rfl, .inl rfl⟩
  | remark e aside => exact ⟨rfl, rfl, rfl, rfl, .inr ⟨e, aside, rfl⟩⟩

omit [Scalar α] in
theorem Touches.same {r s : Robot α} (h : Touches r s) :
    s.registers = r.registers ∧ s.track = r.track ∧ s.lastStep = r.lastStep ∧
      s.commandTime = r.commandTime :=
  kept_of_chain (P := fun s => s.registers = r.registers ∧ s.track = r.track ∧
      s.lastStep = r.lastStep ∧ s.commandTime = r.commandTime)
    (fun _ _ touch before => by
      obtain ⟨registers, track, lastStep, commandTime, -⟩ := touch.same
      simpa [registers, track, lastStep, commandTime] using before)
    h ⟨rfl, rfl, rfl, rfl⟩

omit [Scalar α] in
/-- What is read off a journal and passes over what is aside, touches leave as it was. -/
theorem Touches.journal_eq {β : Type} (read : Journal α → β) {r s : Robot α} (h : Touches r s)
    (ignores : ∀ (j : Journal α) e, e.aside = true → read (j.push e) = read j) :
    read s.journal = read r.journal := by
  induction h with
  | refl => rfl
  | tail _ touch ih =>
    obtain ⟨-, -, -, -, same | ⟨e, aside, same⟩⟩ := touch.same
    · rw [same, ih]
    · rw [same, ignores _ e aside, ih]

theorem Touch.turn {r s : Robot α} (h : Touch r s) : Turn r s := by
  cases h with
  | receive => exact .receive ..
  | clear => exact .clear _
  | drain => exact .drain _
  | remark _ aside => exact .remark _ _ aside

theorem Touches.turns {r s : Robot α} (h : Touches r s) : Turns r s :=
  Relation.ReflTransGen.mono (fun _ _ => Touch.turn) _ _ h

theorem Works.turns {r s : Robot α} (h : Works r s) : Turns r s :=
  Relation.ReflTransGen.mono (fun _ _ => Turn.work) _ _ h

end Robot

open Robot

namespace Simulation

theorem turns_tick (s : Simulation α) (now : α) : Turns s.robot (s.tick now).state.robot := by
  unfold tick
  split
  · exact (works_run s.robot now).turns
  · exact .refl

/-- A tick of a running simulation that is not refused is such a run of its robot. -/
theorem tick_ran {s : Simulation α} {now : α} {answer : Bool}
    (running : s.running = true) (ok : (s.tick now).result = .ok answer) :
    Ran now s.robot (s.tick now).state.robot := by
  simp only [tick, running, if_true] at ok ⊢
  cases done : s.robot.run now with
  | mk r result =>
    rw [done] at ok
    cases result with
    | error f => cases ok
    | ok _ => exact run_ran done

end Simulation

theorem Session.ran_tick {s : Session α} {now : α} (running : s.sim.running = true)
    (ok : (s.perform (.tick now)).result.isOk = true) :
    Ran now s.sim.robot (s.perform (.tick now)).state.sim.robot := by
  cases done : (s.sim.tick now).result with
  | ok answer => exact Simulation.tick_ran running done
  | error f => simp [perform, done, Except.map, Except.isOk, Except.toBool] at ok

namespace Session

theorem touches_call (s : Session α) (c : Call α) :
    Touches s.sim.robot (s.call c).state.sim.robot := by
  unfold call
  split
  · exact .refl
  · next r performed =>
    have noted := Simulation.notes_kept (P := Touches s.sim.robot)
      (fun _ e aside chain => chain.tail (.remark _ e aside)) r.events s.sim
      (Timeline.aside_of_perform performed) .refl
    exact noted.tail (.receive _ _)

/-- Whether an action sets registers from outside. -/
def Action.pokes : Action α → Bool
  | poke .. => true
  | _ => false

/-- Whether an action neither moves the robot nor sets its clock or its registers. -/
def Action.touches : Action α → Bool
  | start _ | tick _ | poke .. => false
  | _ => true

/-- What such an action does to the robot is a chain of touches. -/
theorem touches_perform (s : Session α) (a : Action α) (touches : a.touches = true) :
    Touches s.sim.robot (s.perform a).state.sim.robot := by
  cases a with
  | start | tick | poke => cases touches
  | stop => exact .single (.remark _ _ rfl)
  | push bytes stamp => exact .single (.receive _ _)
  | drain => exact .single (.drain _)
  | collisions | peek | toggle | commandFor | datagram => exact .refl
  | clear => exact .single (.clear _)
  | call c => exact s.touches_call c
  | readTelemetry =>
    have drained : Touch s.sim.robot s.sim.drain.2.robot := .drain _
    exact .head drained (touches_call { s with sim := s.sim.drain.2 } (.read s.sim.drain.1))
  | key key now =>
    simp only [perform, press]
    split
    · exact .refl
    · next a _ =>
      have received : Touch s.sim.robot (s.sim.push a.bytes now).robot := .receive _ _
      exact .head received (.single (.remark _ _ rfl))
  | lineWrite | lineRead =>
    exact onLink_state (P := fun t => Touches s.sim.robot t.sim.robot) .refl .refl
  | lineIngress now =>
    refine onLink_state (P := fun t => Touches s.sim.robot t.sim.robot) .refl ?_
    simpa only [s.sim_lineIngress now] using .single (.receive _ _)
  | lineEgress =>
    refine onLink_state (P := fun t => Touches s.sim.robot t.sim.robot) .refl ?_
    simpa only [s.sim_lineEgress] using .single (.drain _)
  | lineClose =>
    refine onLink_state (P := fun t => Touches s.sim.robot t.sim.robot) .refl ?_
    simpa only [s.closeLine_kept.1] using .refl
  | socketIngress now =>
    refine onLink_state (P := fun t => Touches s.sim.robot t.sim.robot) .refl ?_
    simpa only [s.sim_socketIngress now] using .single (.receive _ _)
  | socketEgress =>
    refine onLink_state (P := fun t => Touches s.sim.robot t.sim.robot) .refl ?_
    obtain same | drained := s.sim_socketEgress
    · simpa only [same] using .refl
    · simpa only [drained] using .single (.drain _)

/-- What an action that pokes nothing does to the robot is a chain of steps that set no register
from outside. -/
theorem turns_perform (s : Session α) (a : Action α) (usual : a.pokes = false) :
    Turns s.sim.robot (s.perform a).state.sim.robot := by
  cases a with
  | start now => exact .single (.resume _ now)
  | tick now => exact Simulation.turns_tick s.sim now
  | poke => cases usual
  | _ => exact (s.touches_perform _ rfl).turns

/-- What an action does to the robot is a chain of steps. -/
theorem steps_perform (s : Session α) (a : Action α) :
    Steps s.sim.robot (s.perform a).state.sim.robot := by
  cases pokes : a.pokes with
  | false => exact (s.turns_perform a pokes).steps
  | true =>
    cases a with
    | poke => exact .single (.poke ..)
    | _ => cases pokes

/-- What a session does to the robot is a chain of steps. -/
theorem steps_after (s : Session α) (actions : List (Action α)) :
    Steps s.sim.robot (s.after actions).sim.robot := by
  induction actions generalizing s with
  | nil => exact .refl
  | cons a rest ih => exact (steps_perform s a).trans (ih (s.perform a).state)

theorem turns_after (s : Session α) {actions : List (Action α)}
    (usual : ∀ a ∈ actions, a.pokes = false) :
    Turns s.sim.robot (s.after actions).sim.robot := by
  induction actions generalizing s with
  | nil => exact .refl
  | cons a rest ih =>
    exact (s.turns_perform a (usual a (by simp))).trans
      (ih (s.perform a).state fun b hb => usual b (by simp [hb]))

end Session

end DifferentialDrive
