import DifferentialDrive.Proofs.Framing
import DifferentialDrive.Proofs.Resynchronisation

/-!
# What enters the queue and what leaves it

Bytes enter the queue at its end, each with its time, and leave it at the front. `Session.arrivals`
says what an action brings, and `Consumed` in which ways bytes can leave: as the bytes of a command,
or one at a time where no command begins. Every frame that is taken leaves in one of these ways
(`Frame.consumed_of_next`).
-/

namespace DifferentialDrive

open Wire Scalar

variable {α β : Type}

/-! ## Leaving the queue -/

namespace Wire

/-- How bytes leave the front of a queue, the commands they are, in order and each with the time of
its last byte, and what is left. -/
inductive Consumed : List (Stamped α) → List (Command × α) → List (Stamped α) → Prop where
  | nil (q) : Consumed q [] q
  /-- A byte other than zero where a command should begin. -/
  | stray {b q commands rest} : b.code ≠ 0 → Consumed q commands rest →
      Consumed (b :: q) commands rest
  /-- A zero byte before a byte that is no opcode; that byte remains. -/
  | unknown {z op q commands rest} : z.code = 0 → Form.ofOpcode? op.code = none →
      Consumed (op :: q) commands rest → Consumed (z :: op :: q) commands rest
  | command {bytes c t q commands rest} : bytes.map Stamped.code = c.bytes →
      bytes.getLast?.map Stamped.stamp = some t → Consumed q commands rest →
      Consumed (bytes ++ q) ((c, t) :: commands) rest

namespace Consumed

variable {q r s : List (Stamped α)} {commands others : List (Command × α)}

theorem trans (first : Consumed q commands r) (second : Consumed r others s) :
    Consumed q (commands ++ others) s := by
  induction first with
  | nil => exact second
  | stray other _ ih => exact .stray other (ih second)
  | unknown zero no _ ih => exact .unknown zero no (ih second)
  | command written ends _ ih => exact .command written ends (ih second)

/-- Bytes leave in the same way with more behind them. -/
theorem append (h : Consumed q commands r) (more : List (Stamped α)) :
    Consumed (q ++ more) commands (r ++ more) := by
  induction h with
  | nil => exact .nil _
  | stray other _ ih => exact .stray other ih
  | unknown zero no _ ih => exact .unknown zero no ih
  | @command bytes c t q _ _ written ends _ ih =>
    rw [List.append_assoc]
    exact .command written ends ih

end Consumed

/-- A frame that is taken leaves the queue as its command or as a byte that is dropped. -/
theorem Frame.consumed_of_next [Scalar α] {now : α} {q rest : List (Stamped α)}
    (taken : (next now q).rest? = some rest) :
    Consumed q (next now q).command?.toList rest := by
  cases found : next now q with
  | waiting => simp [found, rest?] at taken
  | stray code left =>
    obtain rfl : left = rest := by simpa [found, rest?] using taken
    obtain ⟨other, t, rfl⟩ := of_next_stray found
    exact .stray other (.nil _)
  | unknown code left =>
    obtain rfl : left = rest := by simpa [found, rest?] using taken
    obtain ⟨no, z, t, operands, zero, rfl, rfl⟩ := of_next_unknown found
    exact .unknown zero no (.nil _)
  | ready c t left =>
    obtain ⟨p, due, rfl, command⟩ := next_portion taken
    obtain ⟨written, ends⟩ := due.written c t (by rw [command, found]; rfl)
    exact .command written ends (.nil _)

end Wire

/-! ## Entering the queue -/

namespace Session

variable [Scalar α]

/-- What is gathered of what passes between the program and its machine in an action. -/
def gained (f : Passed → List β) (s : Session α) (a : Action α) : List β :=
  (s.perform a).state.world.since s.world f

/-- The bytes that an action reads from the port. -/
def read (s : Session α) (a : Action α) : List UInt8 := s.gained Passed.read? a

/-- The datagrams that an action receives. -/
def received (s : Session α) (a : Action α) : List Datagram := s.gained Passed.received a

/-- The bytes that an action brings, each with its time. -/
def arrivals (s : Session α) : Action α → List (Stamped α)
  | .push bytes stamp => stampAll bytes stamp
  | .lineIngress now => stampAll (s.read (.lineIngress now)) now
  | .socketIngress now => Station.stamped (s.received (.socketIngress now)) now
  | a => encode (s.sent a)

/-- What actions contribute in turn, each according to the session that it is performed in. -/
def gather (f : Session α → Action α → List β) (s : Session α) : List (Action α) → List β
  | [] => []
  | a :: rest => f s a ++ gather f (s.perform a).state rest

/-- Whether an action forgets the queue. -/
def Action.clears : Action α → Bool
  | clear => true
  | _ => false

/-- A call puts the bytes of its commands into the queue. -/
theorem queue_call (s : Session α) (c : Call α) :
    (s.call c).state.sim.robot.queue = s.sim.robot.queue ++ encode (s.sent (.call c)) := by
  unfold call
  split
  · next f performed => simp [Session.sent, performed]
  · next r performed =>
    have noted := Simulation.notes_kept (P := fun t => t.queue = s.sim.robot.queue)
      (fun _ _ _ h => h) r.events s.sim (Timeline.aside_of_perform performed) rfl
    simp [sent_call_of_ok performed, react, Simulation.receive, Robot.receive, noted,
      r.stamped_eq_encode]

/-- All that an action does to the queue, unless it is a tick, is to put there what it brings. -/
theorem queue_perform (s : Session α) {a : Action α} (kept : a.clears = false)
    (still : ∀ now, a ≠ .tick now) :
    (s.perform a).state.sim.robot.queue = s.sim.robot.queue ++ s.arrivals a := by
  have same : s.sim.robot.queue = s.sim.robot.queue ++ [] := (List.append_nil _).symm
  cases a with
  | clear => cases kept
  | tick now => exact absurd rfl (still now)
  | push bytes stamp => rfl
  | start | stop | drain | collisions | poke | peek | toggle | commandFor | datagram => exact same
  | call c => exact s.queue_call c
  | readTelemetry =>
    have read := queue_call { s with sim := s.sim.drain.2 } (.read s.sim.drain.1)
    rwa [sent_read] at read
  | key key now =>
    cases pressed : s.keyboard.press key with
    | none => simp [perform, press, arrivals, Session.sent, pressed]
    | some a =>
      simp only [perform, press, arrivals, Session.sent, pressed, ← stampAll_flatMap_bytes]
      rfl
  | lineWrite | lineRead =>
    exact onLink_state (P := fun t => t.sim.robot.queue = _) same same
  | lineIngress now =>
    cases linked : s.line with
    | false => simp [perform, onLink, arrivals, read, gained, linked, stampAll]
    | true =>
      simp [perform, onLink, arrivals, read, gained, linked, Station.sim_lineIngress,
        Simulation.push, Robot.push, Robot.receive]
  | lineEgress =>
    refine onLink_state (P := fun t => t.sim.robot.queue = _) same ?_
    simp only [s.sim_lineEgress]
    exact same
  | lineClose =>
    refine onLink_state (P := fun t => t.sim.robot.queue = _) same ?_
    simp only [s.closeLine_kept.1]
    exact same
  | socketIngress now =>
    cases linked : s.socket with
    | none => simp [perform, onLink, arrivals, received, gained, linked, Station.stamped]
    | some k =>
      simp [perform, onLink, arrivals, received, gained, linked, Station.sim_socketIngress,
        Simulation.receive, Robot.receive]
  | socketEgress =>
    refine onLink_state (P := fun t => t.sim.robot.queue = _) same ?_
    obtain left | drained := s.sim_socketEgress
    · simp only [left]
      exact same
    · simp only [drained]
      exact same

end Session

end DifferentialDrive
