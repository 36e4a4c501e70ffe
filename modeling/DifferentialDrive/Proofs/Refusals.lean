import DifferentialDrive.Proofs.Intake

/-!
# Refused commands

A command whose execution is refused waits where it was, and what has changed is the motion up to
its arrival (`takeFrame_refused`). So whatever is refused in a session, each command that leaves the
queue has taken effect once, and each that has taken effect has left the queue (`dealt_after`).
-/

namespace DifferentialDrive

open Wire Scalar

variable {α : Type} [Scalar α]

namespace Robot

/-! ## Effects -/

/-- What changes a robot and is the effect of no command. -/
inductive Idle : Robot α → Robot α → Prop where
  /-- A slice of motion, refused or not. -/
  | advance (r limit) : Idle r (r.advance limit).state
  /-- A command's turn has come. -/
  | arrive (r : Robot α) (stamp : α) : Idle r { r with commandTime := stamp }
  | drop (r : Robot α) (rest : List (Stamped α)) {e : Event α} : e.drops = true →
      Idle r { r.note e with queue := rest }
  | touch {r s} : Touch r s → Idle r s
  | resume (r : Robot α) (now : α) :
      Idle r { r.note (.started now) with lastStep := later now r.lastStep }
  | poke (r : Robot α) (encoder1 encoder2 acceleration : Int) :
      Idle r { r with registers := { r.registers with
        encoder1 := encoder1
        encoder2 := encoder2
        acceleration := acceleration } }

omit [Scalar α] in
theorem Event.command?_of_drops {e : Event α} (h : e.drops = true) : e.command? = none := by
  cases e <;> simp_all [Event.drops, Event.command?]

theorem Idle.executed_eq {r s : Robot α} (h : Idle r s) :
    s.journal.executed = r.journal.executed := by
  cases h with
  | advance limit => exact advance_executed r limit
  | arrive | poke => rfl
  | drop rest drops => simp [Event.command?_of_drops drops]
  | touch touch =>
    exact Touches.journal_eq Journal.executed (.single touch) fun _ _ aside => by
      simp [Event.command?_of_aside aside]
  | resume now => simp [Event.command?]

/-- Which commands have taken effect from one state of a robot to another, in order and each with
the time of its arrival. -/
inductive Handled : List (Command × α) → Robot α → Robot α → Prop where
  | refl (r) : Handled [] r r
  | idle {r m s commands} : Idle r m → Handled commands m s → Handled commands r s
  | command {r m s c rest commands} : r.execute c = ⟨m, .ok ()⟩ →
      Handled commands { m.note (.executed c r.commandTime) with queue := rest } s →
      Handled ((c, r.commandTime) :: commands) r s

variable {r m s : Robot α} {entered more : List (Stamped α)}
  {commands others : List (Command × α)}

theorem Handled.trans (first : Handled commands r m) (second : Handled others m s) :
    Handled (commands ++ others) r s := by
  induction first with
  | refl => exact second
  | idle step _ ih => exact .idle step (ih second)
  | command executed _ ih => exact .command executed (ih second)

theorem Idle.handled (h : Idle r s) : Handled [] r s := .idle h (.refl s)

theorem Touches.handled (h : Touches r s) : Handled [] r s := by
  induction h with
  | refl => exact .refl r
  | tail _ touch ih => exact ih.trans (Idle.touch touch).handled

/-- The commands that have taken effect are those that have been noted. -/
theorem Handled.executed (h : Handled commands r s) :
    s.journal.executed = r.journal.executed ++ commands := by
  induction h with
  | refl => simp
  | idle step _ ih => rw [ih, step.executed_eq]
  | command executed _ ih => simp [ih, (execute_effect executed).executed_eq, Event.command?]

/-- Behind a queue some bytes have entered, and the commands that have left it are those that have
taken effect. -/
structure Dealt (entered : List (Stamped α)) (commands : List (Command × α)) (r s : Robot α) :
    Prop where
  consumed : Consumed (r.queue ++ entered) commands s.queue
  handled : Handled commands r s

theorem Dealt.trans (first : Dealt entered commands r m) (second : Dealt more others m s) :
    Dealt (entered ++ more) (commands ++ others) r s where
  consumed := by
    rw [← List.append_assoc]
    exact (first.consumed.append more).trans second.consumed
  handled := first.handled.trans second.handled

/-- Nothing takes effect as bytes enter. -/
theorem Handled.dealt (h : Handled [] r s) (queue : s.queue = r.queue ++ entered) :
    Dealt entered [] r s :=
  ⟨queue ▸ .nil _, h⟩

/-! ## Frames and runs -/

/-- A slice leaves alone what only commands and the outside write. -/
theorem advance_unwritten (r : Robot α) (limit : α) :
    let a := (r.advance limit).state
    a.telemetry = r.telemetry ∧ a.simSpeed = r.simSpeed ∧ a.commandTime = r.commandTime :=
  advance_preserves (P := fun a => a.telemetry = r.telemetry ∧ a.simSpeed = r.simSpeed ∧
    a.commandTime = r.commandTime) (fun _ h => h) (fun _ _ h => h) (fun _ _ _ h => h) r limit
    ⟨rfl, rfl, rfl⟩

/-- A frame that is refused is a command, and it waits where it was. All that has changed is what
the motion up to its arrival changes, and the arrival may have been taken over. -/
theorem takeFrame_refused {now : α} {f : Fault α} (refused : r.takeFrame now = ⟨m, .error f⟩) :
    m.queue = r.queue ∧ ∃ c stamp rest time, Frame.next now r.queue = .ready c stamp rest ∧
      (time = r.commandTime ∨ time = stamp) ∧
      m = { (r.advance stamp).state with commandTime := time } := by
  unfold takeFrame at refused
  split at refused
  · simp at refused
  · simp at refused
  · simp at refused
  · next c stamp rest found =>
    have queue := advance_queue r stamp
    obtain ⟨-, -, commandTime⟩ := advance_unwritten r stamp
    unfold perform at refused
    cases moved : r.advance stamp with
    | mk a answer =>
      rw [moved] at queue commandTime refused
      cases answer with
      | error g =>
        obtain rfl : a = m := by simpa using congrArg Outcome.state refused
        refine ⟨queue, c, stamp, rest, a.commandTime, found, .inl commandTime, ?_⟩
        rw [moved]
      | ok _ =>
        -- The motion was not refused, so the execution was.
        rcases executed : ({ a with commandTime := stamp } : Robot α).execute c with ⟨s, g | _⟩
        · obtain rfl : s = m := by simpa [executed] using congrArg Outcome.state refused
          obtain rfl := execute_refused executed
          refine ⟨queue, c, stamp, rest, stamp, found, .inr rfl, ?_⟩
          rw [moved]
        · simp [executed] at refused

theorem dealt_takeFrame (r : Robot α) (now : α) :
    ∃ commands, Dealt [] commands r (r.takeFrame now).state := by
  cases result : (r.takeFrame now).result with
  | error f =>
    have refused : r.takeFrame now = ⟨(r.takeFrame now).state, .error f⟩ := by rw [← result]
    obtain ⟨queue, c, stamp, rest, time, -, -, left⟩ := takeFrame_refused refused
    refine ⟨[], Handled.dealt ?_ (by simpa using queue)⟩
    rw [left]
    exact .idle (.advance r stamp) (Idle.arrive _ time).handled
  | ok more =>
    have consumed {rest} (taken : (Frame.next now r.queue).rest? = some rest) :
        Consumed (r.queue ++ []) (Frame.next now r.queue).command?.toList rest := by
      simpa using Frame.consumed_of_next taken
    unfold takeFrame at result ⊢
    split at result
    · exact ⟨[], (Handled.refl r).dealt (by simp)⟩
    · next code rest found =>
      rw [found] at consumed
      exact ⟨[], consumed rfl, (Idle.drop r rest rfl).handled⟩
    · next code rest found =>
      rw [found] at consumed
      exact ⟨[], consumed rfl, (Idle.drop r rest rfl).handled⟩
    · next c stamp rest found =>
      split at result
      · cases result
      · next m performed =>
        rw [found] at consumed
        obtain ⟨a, s, moved, executed, rfl⟩ := perform_ok performed
        have ahead := Idle.advance r stamp
        rw [moved] at ahead
        refine ⟨[(c, stamp)], consumed rfl, ?_⟩
        exact .idle ahead (.idle (.arrive a stamp) (.command executed (.refl _)))

/-- A run, refused or not, takes commands from the queue as they take effect. -/
theorem dealt_run (r : Robot α) (now : α) : ∃ commands, Dealt [] commands r (r.run now).state := by
  fun_induction run r now with
  | case1 r m taken ih =>
    obtain ⟨commands, first⟩ := dealt_takeFrame r now
    obtain ⟨others, rest⟩ := ih
    rw [taken] at first
    exact ⟨commands ++ others, first.trans rest⟩
  | case2 r m taken =>
    obtain ⟨commands, first⟩ := dealt_takeFrame r now
    rw [taken] at first
    have moved : Dealt [] [] m (m.advance now).state :=
      (Idle.advance m now).handled.dealt (by simp)
    exact ⟨commands ++ [], first.trans moved⟩
  | case3 r m f taken =>
    obtain ⟨commands, first⟩ := dealt_takeFrame r now
    rw [taken] at first
    exact ⟨commands, first⟩

end Robot

open Robot

namespace Session

theorem dealt_perform (s : Session α) {a : Action α} (kept : a.clears = false) :
    ∃ commands, Dealt (s.arrivals a) commands s.sim.robot (s.perform a).state.sim.robot := by
  cases a with
  | start now =>
    exact ⟨[], (Idle.resume s.sim.robot now).handled.dealt (by simp [arrivals, Session.sent])⟩
  | tick now =>
    simp only [perform, Simulation.tick]
    split
    · exact dealt_run s.sim.robot now
    · exact ⟨[], (Handled.refl _).dealt (by simp [arrivals, Session.sent])⟩
  | poke a b c =>
    exact ⟨[], (Idle.poke s.sim.robot _ _ _).handled.dealt (by simp [arrivals, Session.sent])⟩
  | _ => exact ⟨[], (touches_perform s _ rfl).handled.dealt (queue_perform s kept (by simp))⟩

theorem dealt_after (s : Session α) (actions : List (Action α))
    (kept : ∀ a ∈ actions, a.clears = false) :
    ∃ commands,
      Dealt (s.gather arrivals actions) commands s.sim.robot (s.after actions).sim.robot := by
  induction actions generalizing s with
  | nil => exact ⟨[], (Handled.refl _).dealt (by simp [gather])⟩
  | cons a rest ih =>
    obtain ⟨commands, first⟩ := s.dealt_perform (kept a (by simp))
    obtain ⟨others, last⟩ := ih (s.perform a).state fun b hb => kept b (by simp [hb])
    exact ⟨commands ++ others, first.trans last⟩

/-- A command that is refused leaves the queue and the telemetry as they were and has had no effect:
what has changed is what the motion up to its arrival changes, and the time of the last command. So
over any actions that do not forget the queue, refused or not, each command takes effect at most
once: those that have taken effect are those that have left the queue, and apart from them only
single bytes have left it where no command begins. -/
theorem refused_commands_wait (s : Session α) (actions : List (Action α))
    (kept : ∀ a ∈ actions, a.clears = false) :
    (∀ (r m : Robot α) (now : α) (f : Fault α), r.takeFrame now = ⟨m, .error f⟩ →
      m.queue = r.queue ∧ m.telemetry = r.telemetry ∧ m.simSpeed = r.simSpeed ∧
      ∃ c stamp rest time, Frame.next now r.queue = .ready c stamp rest ∧
        (time = r.commandTime ∨ time = stamp) ∧
        m = { (r.advance stamp).state with commandTime := time }) ∧
    let t := s.after actions
    ∃ commands,
      Consumed (s.sim.robot.queue ++ s.gather arrivals actions) commands t.sim.robot.queue ∧
      Handled commands s.sim.robot t.sim.robot ∧
      t.sim.robot.journal.executed = s.sim.robot.journal.executed ++ commands := by
  constructor
  · intro r m now f refused
    obtain ⟨queue, c, stamp, rest, time, found, when, rfl⟩ := takeFrame_refused refused
    obtain ⟨telemetry, simSpeed, -⟩ := advance_unwritten r stamp
    exact ⟨queue, telemetry, simSpeed, c, stamp, rest, time, found, when, rfl⟩
  · obtain ⟨commands, consumed, handled⟩ := s.dealt_after actions kept
    exact ⟨commands, consumed, handled, handled.executed⟩

/-- An answer that is no byte is refused twice, with the next command waiting behind it, until the
register is set to one that is. -/
theorem refused_commands_wait_poked :
    let asked : Command := .query .acceleration
    let actions : List (Action Float) :=
      [.start zero, .poke none none (some 300),
        .push (asked.bytes ++ (Command.acceleration 7).bytes) zero, .tick zero, .tick zero,
        .poke none none (some 9), .tick zero]
    let t := standard.after actions
    (∀ a ∈ actions, a.clears = false) ∧
      (standard.outcomes actions).map (·.result.isOk) =
        [true, true, true, false, false, true, true] ∧
      t.sim.robot.queue = [] ∧ t.sim.robot.telemetry = [9] ∧
      t.sim.robot.registers.acceleration = 7 ∧
      ∃ commands, commands.map Prod.fst = [asked, .acceleration 7] ∧
        Consumed (standard.sim.robot.queue ++ standard.gather arrivals actions) commands
          t.sim.robot.queue ∧
        Handled commands standard.sim.robot t.sim.robot := by
  intro asked actions t
  have kept : ∀ a ∈ actions, a.clears = false := by decide
  obtain ⟨commands, consumed, handled, executed⟩ := (refused_commands_wait standard actions kept).2
  refine ⟨kept, by decide +kernel, by decide +kernel, by decide +kernel, by decide +kernel,
    commands, ?_, consumed, handled⟩
  have names : t.sim.robot.journal.executed.map Prod.fst = [asked, .acceleration 7] := by
    decide +kernel
  rw [executed] at names
  exact names

end Session

end DifferentialDrive
