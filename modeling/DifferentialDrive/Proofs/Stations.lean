import DifferentialDrive.Link.Datagram
import DifferentialDrive.Link.Serial
import DifferentialDrive.Machine.Fed
import Mathlib.Data.List.Infix
import Mathlib.Logic.Relation

/-!
# What the links do

Each thing that a link does to its station, by what passes between it and the machine
(`Station.lineIngress_cases` and the others). Everything passes behind what has passed before, so
what is read off the past only grows.
-/

namespace DifferentialDrive

variable {α β : Type}

/-! ## What passes -/

namespace Past

variable (f : Passed → List β)

theorem gather_append (new past : Past) :
    gather f (new ++ past) = gather f past ++ gather f new := by
  induction new with
  | nil => simp [gather]
  | cons p new ih => simp [gather, ih]

theorem gather_stays (p : Passed) (past : Past) : gather f past <+: gather f (p :: past) :=
  List.prefix_append _ _

end Past

/-- Whether something that passes opens or closes a link. -/
def Passed.turnsLink : Passed → Bool
  | .openLine .. | .closeLine _ | .openSocket _ | .closeSocket _ => true
  | _ => false

namespace World

/-- A world in which more has passed. -/
def after (w : World) (new : Past) : World := { w with past := new ++ w.past }

/-- One thing more has passed, which `P` allows behind what had passed before. -/
def Step (P : Past → Passed → Prop) (w w' : World) : Prop := ∃ p, P w.past p ∧ w' = w.note p

/-- A chain of such steps. -/
abbrev Steps (P : Past → Passed → Prop) : World → World → Prop := Relation.ReflTransGen (Step P)

variable {P : Past → Passed → Prop} {w w' : World}

theorem Steps.exists_after (h : Steps P w w') : ∃ new, w' = w.after new := by
  induction h with
  | refl => exact ⟨[], rfl⟩
  | tail _ step ih =>
    obtain ⟨p, -, rfl⟩ := step
    obtain ⟨new, rfl⟩ := ih
    exact ⟨p :: new, rfl⟩

theorem Steps.machine (h : Steps P w w') : w'.machine = w.machine := by
  obtain ⟨new, rfl⟩ := h.exists_after
  rfl

@[simp] theorem since_after (w : World) (new : Past) (f : Passed → List β) :
    (w.after new).since w f = new.gather f := by
  simp [since, after, Past.gather_append]

@[simp] theorem since_self (w : World) (f : Passed → List β) : w.since w f = [] := by
  simp [since]

/-- What is gathered in the end is what was gathered before and what has been since. -/
theorem Steps.gather (h : Steps P w w') (f : Passed → List β) :
    w'.past.gather f = w.past.gather f ++ w'.since w f := by
  obtain ⟨new, rfl⟩ := h.exists_after
  rw [since_after, after, Past.gather_append]

/-- Steps of which nothing is gathered. -/
theorem Steps.gather_eq (h : Steps P w w') {f : Passed → List β}
    (nothing : ∀ past p, P past p → f p = []) : w'.past.gather f = w.past.gather f := by
  induction h with
  | refl => rfl
  | tail _ step ih =>
    obtain ⟨p, allowed, rfl⟩ := step
    simpa [note, Past.gather, nothing _ p allowed] using ih

/-- Steps that turn no link leave the links open or closed. -/
theorem Steps.open_eq (h : Steps P w w') (others : ∀ past p, P past p → p.turnsLink = false) :
    w'.past.lineOpen = w.past.lineOpen ∧ w'.past.socketOpen = w.past.socketOpen := by
  induction h with
  | refl => exact ⟨rfl, rfl⟩
  | tail _ step ih =>
    obtain ⟨p, allowed, rfl⟩ := step
    have other := others _ p allowed
    cases p with
    | openLine | closeLine | openSocket | closeSocket => cases other
    | _ => exact ih

end World

/-! ## Fed machines -/

theorem Port.fed_inOrder {source : Past → List UInt8}
    (stays : ∀ p past, source past <+: source (p :: past)) : (fed source).InOrder source where
  stays := stays
  read past count bytes given := by
    unfold fed ifOpen at given
    dsimp only at given
    split at given
    · obtain rfl := by simpa using given
      exact (List.take_prefix _ _).trans ((stays _ past).drop _)
    · cases given

theorem Net.fed_inOrder {address : Address} {source : Past → List Datagram}
    (stays : ∀ p past, source past <+: source (p :: past)) :
    (fed address source).InOrder source where
  stays := stays
  receive past limit ds stop given := by
    obtain ⟨rfl, -⟩ := Prod.mk.inj given
    rw [← List.map_drop]
    exact ((stays _ past).drop _).map _

namespace Simulation

@[simp] theorem push_nil (s : Simulation α) (now : α) : s.push [] now = s := by
  simp [push, Robot.push, Robot.receive, Wire.stampAll]

@[simp] theorem receive_nil (s : Simulation α) : s.receive [] = s := by
  simp [receive, Robot.receive]

end Simulation

/-! ## The line -/

namespace Station

/-- All that a reader of the port does: it is refused, or there is nothing, or what it is given is
pushed. -/
theorem lineIngress_cases (s : Station α) (now : α) :
    (∃ k, s.lineIngress now =
      ⟨{ s with world := s.world.after [.waiting (.error k)] }, .error (.struck k)⟩) ∨
    s.lineIngress now = ⟨{ s with world := s.world.after [.waiting (.ok 0)] }, .ok 0⟩ ∨
    (∃ n k, s.world.machine.port.read (.waiting (.ok n) :: s.world.past) n = .error k ∧
      s.lineIngress now =
        ⟨{ s with world := s.world.after [.read n (.error k), .waiting (.ok n)] },
          .error (.struck k)⟩) ∨
    ∃ n bytes, s.world.machine.port.read (.waiting (.ok n) :: s.world.past) n = .ok bytes ∧
      s.lineIngress now =
        ⟨{ s with
            world := s.world.after [.read n (.ok bytes), .waiting (.ok n)]
            sim := s.sim.push bytes now }, .ok bytes.length⟩ := by
  cases waits : s.world.machine.port.waiting s.world.past with
  | error k =>
    refine .inl ⟨k, ?_⟩
    simp [lineIngress, ask, World.waiting, World.ask, World.note, World.after, waits,
      Except.mapError]
  | ok n =>
    by_cases none : n = 0
    · subst none
      refine .inr (.inl ?_)
      simp [lineIngress, ask, World.waiting, World.ask, World.note, World.after, waits,
        Except.mapError]
    · cases given : s.world.machine.port.read (.waiting (.ok n) :: s.world.past) n with
      | error k =>
        refine .inr (.inr (.inl ⟨n, k, given, ?_⟩))
        simp [lineIngress, ask, World.waiting, World.read, World.ask, World.note, World.after,
          waits, none, given, Except.mapError]
      | ok bytes =>
        refine .inr (.inr (.inr ⟨n, bytes, given, ?_⟩))
        simp [lineIngress, ask, World.waiting, World.read, World.ask, World.note, World.after,
          waits, none, given, Except.mapError]

/-- All that a writer to the port does: there is no telemetry, or it is written as a whole, or it is
refused. -/
theorem lineEgress_cases (s : Station α) :
    (s.sim.robot.telemetry = [] ∧ s.lineEgress = ⟨{ s with sim := s.sim.drain.2 }, .ok 0⟩) ∨
    (s.sim.robot.telemetry ≠ [] ∧ s.lineEgress =
      ⟨{ s with
          sim := s.sim.drain.2
          world := s.world.after [.write s.sim.robot.telemetry (.ok ())] },
        .ok s.sim.robot.telemetry.length⟩) ∨
    ∃ k, s.sim.robot.telemetry ≠ [] ∧ s.lineEgress =
      ⟨{ s with
          sim := s.sim.drain.2
          world := s.world.after [.write s.sim.robot.telemetry (.error k)] },
        .error (.struck k)⟩ := by
  cases telemetry : s.sim.robot.telemetry with
  | nil =>
    refine .inl ⟨rfl, ?_⟩
    simp [lineEgress, Simulation.drain, Robot.drain, telemetry]
  | cons b rest =>
    cases taken : s.world.machine.port.write s.world.past (b :: rest) with
    | ok _ =>
      refine .inr (.inl ⟨by simp, ?_⟩)
      simp [lineEgress, Simulation.drain, Robot.drain, telemetry, ask, World.write, World.ask,
        World.note, World.after, taken, Except.mapError]
    | error k =>
      refine .inr (.inr ⟨k, by simp, ?_⟩)
      simp [lineEgress, Simulation.drain, Robot.drain, telemetry, ask, World.write, World.ask,
        World.note, World.after, taken, Except.mapError]

/-! ## The socket -/

/-- The bytes of datagrams, each with the time. -/
def stamped (ds : List Datagram) (now : α) : List (Wire.Stamped α) :=
  ds.flatMap fun d => Wire.stampAll d.bytes now

/-- Datagrams that are taken one by one all become bytes of the simulation, in order, and the last
sender becomes the peer. -/
theorem foldl_take (s : Station α) (ds : List Datagram) (now : α) :
    ds.foldl (take now) s = { s with
      sim := s.sim.receive (stamped ds now)
      socket := (ds.getLast?.map fun d => { peer := some d.peer }).or s.socket } := by
  induction ds generalizing s with
  | nil => simp [stamped, Simulation.receive, Robot.receive]
  | cons d rest ih =>
    rw [List.foldl_cons, ih]
    cases last : rest.getLast? <;>
      simp_all [take, stamped, Simulation.receive, Simulation.push, Robot.push, Robot.receive,
        List.getLast?_cons]

/-- All that a reader of the socket does: what it is handed over becomes bytes of the simulation,
whether or not something ends that early. -/
theorem socketIngress_cases (s : Station α) (now : α) :
    ∃ ds stop, s.world.machine.net.receive s.world.past Socket.limit = (ds, stop) ∧
      s.socketIngress now =
        ⟨{ s with
            world := s.world.after [.receive Socket.limit ds stop]
            sim := s.sim.receive (stamped ds now)
            socket := (ds.getLast?.map fun d => { peer := some d.peer }).or s.socket },
          match stop with
          | none => .ok (stamped ds now).length
          | some k => .error (.struck k)⟩ := by
  rcases given : s.world.machine.net.receive s.world.past Socket.limit with ⟨ds, stop⟩
  refine ⟨ds, stop, rfl, ?_⟩
  simp only [socketIngress, World.receive, given, foldl_take]
  cases stop <;> simp [World.note, World.after, stamped, List.length_flatMap]

/-- All that a sender does: there is nobody to send to, or no telemetry, or it is sent to the last
peer as a whole, or it is refused. -/
theorem socketEgress_cases (s : Station α) :
    (s.socket.bind (·.peer) = none ∧ s.socketEgress = ⟨s, .ok 0⟩) ∨
    ∃ peer, s.socket.bind (·.peer) = some peer ∧
      ((s.sim.robot.telemetry = [] ∧ s.socketEgress = ⟨{ s with sim := s.sim.drain.2 }, .ok 0⟩) ∨
      (s.sim.robot.telemetry ≠ [] ∧ s.socketEgress =
        ⟨{ s with
            sim := s.sim.drain.2
            world := s.world.after [.send ⟨peer, s.sim.robot.telemetry⟩ (.ok ())] },
          .ok s.sim.robot.telemetry.length⟩) ∨
      ∃ k, s.sim.robot.telemetry ≠ [] ∧ s.socketEgress =
        ⟨{ s with
            sim := s.sim.drain.2
            world := s.world.after [.send ⟨peer, s.sim.robot.telemetry⟩ (.error k)] },
          .error (.struck k)⟩) := by
  cases known : s.socket.bind (·.peer) with
  | none => exact .inl ⟨rfl, by simp [socketEgress, known]⟩
  | some peer =>
    refine .inr ⟨peer, rfl, ?_⟩
    cases telemetry : s.sim.robot.telemetry with
    | nil =>
      refine .inl ⟨rfl, ?_⟩
      simp [socketEgress, known, Simulation.drain, Robot.drain, telemetry]
    | cons b rest =>
      cases taken : s.world.machine.net.send s.world.past ⟨peer, b :: rest⟩ with
      | ok _ =>
        refine .inr (.inl ⟨by simp, ?_⟩)
        simp [socketEgress, known, Simulation.drain, Robot.drain, telemetry, ask, World.send,
          World.ask, World.note, World.after, taken, Except.mapError]
      | error k =>
        refine .inr (.inr ⟨k, by simp, ?_⟩)
        simp [socketEgress, known, Simulation.drain, Robot.drain, telemetry, ask, World.send,
          World.ask, World.note, World.after, taken, Except.mapError]

/-! ## Telemetry that goes out -/

/-- What passes when bytes are written: nothing if there are none. -/
def writes (bytes : List UInt8) : Past := if bytes.isEmpty then [] else [.write bytes (.ok ())]

/-- The datagrams that bytes are sent in: one, or none if there are no bytes. -/
def packets (peer : Address) (bytes : List UInt8) : List Datagram :=
  if bytes.isEmpty then [] else [⟨peer, bytes⟩]

/-- What passes when bytes are sent. -/
def sends (peer : Address) (bytes : List UInt8) : Past :=
  (packets peer bytes).map fun d => .send d (.ok ())

@[simp] theorem written_writes (bytes : List UInt8) :
    (writes bytes).gather Passed.written = bytes := by
  cases bytes <;> simp [writes, Past.gather, Passed.written]

@[simp] theorem sent_sends (peer : Address) (bytes : List UInt8) :
    (sends peer bytes).gather Passed.sent = packets peer bytes := by
  cases bytes <;> simp [sends, packets, Past.gather, Passed.sent]

@[simp] theorem sent_writes (bytes : List UInt8) : (writes bytes).gather Passed.sent = [] := by
  cases bytes <;> simp [writes, Past.gather, Passed.sent]

@[simp] theorem written_sends (peer : Address) (bytes : List UInt8) :
    (sends peer bytes).gather Passed.written = [] := by
  cases bytes <;> simp [sends, packets, Past.gather, Passed.written]

@[simp] theorem flatMap_packets (peer : Address) (bytes : List UInt8) :
    (packets peer bytes).flatMap Datagram.bytes = bytes := by
  cases bytes <;> simp [packets]

/-- Telemetry that is not refused is written to the port as a whole. -/
theorem lineEgress_of_ok {s : Station α} {n : Nat} (ok : s.lineEgress.result = .ok n) :
    s.lineEgress =
      ⟨{ s with
          sim := s.sim.drain.2
          world := s.world.after (writes s.sim.robot.telemetry) },
        .ok s.sim.robot.telemetry.length⟩ := by
  obtain ⟨none, same⟩ | ⟨some, same⟩ | ⟨k, -, same⟩ := s.lineEgress_cases
  · simp [same, none, writes, World.after]
  · simp [same, some, writes]
  · simp [same] at ok

/-- What is sent goes to the last peer as a whole. -/
theorem socketEgress_of_ok {s : Station α} {p : Address} (known : s.socket.bind (·.peer) = some p)
    {n : Nat} (ok : s.socketEgress.result = .ok n) :
    s.socketEgress =
      ⟨{ s with
          sim := s.sim.drain.2
          world := s.world.after (sends p s.sim.robot.telemetry) },
        .ok s.sim.robot.telemetry.length⟩ := by
  obtain ⟨alone, -⟩ | ⟨q, peer, sent⟩ := s.socketEgress_cases
  · cases known.symm.trans alone
  · obtain rfl : p = q := Option.some.inj (known.symm.trans peer)
    obtain ⟨none, same⟩ | ⟨some, same⟩ | ⟨k, -, same⟩ := sent
    · simp [same, none, sends, packets, World.after]
    · simp [same, some, sends, packets]
    · simp [same] at ok

/-! ## What passes on the links -/

section

variable {P : Past → Passed → Prop} (s : Station α)

theorem steps_lineIngress (now : α) (waiting : ∀ past a, P past (.waiting a))
    (read : ∀ past n, P past (.read n (s.world.machine.port.read past n))) :
    World.Steps P s.world (s.lineIngress now).state.world := by
  have first {a} : World.Steps P s.world (s.world.note (.waiting a)) :=
    .single ⟨_, waiting _ a, rfl⟩
  obtain ⟨k, same⟩ | same | ⟨n, k, given, same⟩ | ⟨n, bytes, given, same⟩ :=
    s.lineIngress_cases now
  · exact same ▸ first
  · exact same ▸ first
  · exact same ▸ first.tail ⟨_, given ▸ read _ n, rfl⟩
  · exact same ▸ first.tail ⟨_, given ▸ read _ n, rfl⟩

theorem steps_lineEgress (write : ∀ past bytes a, P past (.write bytes a)) :
    World.Steps P s.world s.lineEgress.state.world := by
  obtain ⟨-, same⟩ | ⟨-, same⟩ | ⟨k, -, same⟩ := s.lineEgress_cases
  · exact same ▸ .refl
  · exact same ▸ .single ⟨_, write _ _ _, rfl⟩
  · exact same ▸ .single ⟨_, write _ _ _, rfl⟩

theorem steps_closeLine (close : ∀ past a, P past (.closeLine a)) :
    World.Steps P s.world s.closeLine.state.world := by
  unfold closeLine
  split
  · exact .single ⟨_, close _ _, rfl⟩
  · exact .refl

theorem steps_socketIngress (now : α)
    (receive : ∀ past ds stop, s.world.machine.net.receive past Socket.limit = (ds, stop) →
      P past (.receive Socket.limit ds stop)) :
    World.Steps P s.world (s.socketIngress now).state.world := by
  obtain ⟨ds, stop, given, same⟩ := s.socketIngress_cases now
  exact same ▸ .single ⟨_, receive _ ds stop given, rfl⟩

theorem steps_socketEgress (send : ∀ past d a, P past (.send d a)) :
    World.Steps P s.world s.socketEgress.state.world := by
  obtain ⟨-, same⟩ | ⟨peer, -, ⟨-, same⟩ | ⟨-, same⟩ | ⟨k, -, same⟩⟩ := s.socketEgress_cases
  · exact same ▸ .refl
  · exact same ▸ .refl
  · exact same ▸ .single ⟨_, send _ _ _, rfl⟩
  · exact same ▸ .single ⟨_, send _ _ _, rfl⟩

/-- Where there is no telemetry nothing is sent. -/
theorem world_socketEgress_of_empty {s : Station α} (nothing : s.sim.robot.telemetry = []) :
    s.socketEgress.state.world = s.world := by
  obtain ⟨-, same⟩ | ⟨peer, -, ⟨-, same⟩ | ⟨some, -⟩ | ⟨k, some, -⟩⟩ := s.socketEgress_cases
  · rw [same]
  · rw [same]
  · exact absurd nothing some
  · exact absurd nothing some

end

/-! ## What the links do to the rest of the station -/

theorem links_lineIngress (s : Station α) (now : α) :
    (s.lineIngress now).state.line = s.line ∧ (s.lineIngress now).state.socket = s.socket := by
  obtain ⟨k, same⟩ | same | ⟨n, k, -, same⟩ | ⟨n, bytes, -, same⟩ := s.lineIngress_cases now <;>
    simp [same]

theorem links_lineEgress (s : Station α) :
    s.lineEgress.state.line = s.line ∧ s.lineEgress.state.socket = s.socket := by
  obtain ⟨-, same⟩ | ⟨-, same⟩ | ⟨k, -, same⟩ := s.lineEgress_cases <;> simp [same]

theorem links_socketEgress (s : Station α) :
    s.socketEgress.state.line = s.line ∧ s.socketEgress.state.socket = s.socket := by
  obtain ⟨-, same⟩ | ⟨peer, -, ⟨-, same⟩ | ⟨-, same⟩ | ⟨k, -, same⟩⟩ := s.socketEgress_cases <;>
    simp [same]

/-- What has been read from the port is pushed, and nothing else happens to the simulation. -/
theorem sim_lineIngress (s : Station α) (now : α) :
    let t := (s.lineIngress now).state
    t.sim = s.sim.push (t.world.since s.world Passed.read?) now := by
  obtain ⟨k, same⟩ | same | ⟨n, k, -, same⟩ | ⟨n, bytes, -, same⟩ := s.lineIngress_cases now <;>
    simp [same, Past.gather, Passed.read?]

/-- Writing to the port takes the telemetry from the robot and nothing else. -/
theorem sim_lineEgress (s : Station α) : s.lineEgress.state.sim = s.sim.drain.2 := by
  obtain ⟨-, same⟩ | ⟨-, same⟩ | ⟨k, -, same⟩ := s.lineEgress_cases <;> rw [same]

/-- Closing the line leaves the rest of the station as it is. -/
theorem closeLine_kept (s : Station α) :
    s.closeLine.state.sim = s.sim ∧ s.closeLine.state.socket = s.socket ∧
      s.closeLine.state.line = s.line := by
  unfold closeLine
  split <;> exact ⟨rfl, rfl, rfl⟩

/-- What has been received becomes bytes of the simulation, and nothing else happens to it. -/
theorem sim_socketIngress (s : Station α) (now : α) :
    let t := (s.socketIngress now).state
    t.sim = s.sim.receive (stamped (t.world.since s.world Passed.received) now) := by
  obtain ⟨ds, stop, -, same⟩ := s.socketIngress_cases now
  simp [same, Past.gather, Passed.received]

theorem sim_socketEgress (s : Station α) :
    s.socketEgress.state.sim = s.sim ∨ s.socketEgress.state.sim = s.sim.drain.2 := by
  obtain ⟨-, same⟩ | ⟨peer, -, ⟨-, same⟩ | ⟨-, same⟩ | ⟨k, -, same⟩⟩ := s.socketEgress_cases
  · exact .inl (by rw [same])
  · exact .inr (by rw [same])
  · exact .inr (by rw [same])
  · exact .inr (by rw [same])

end Station

end DifferentialDrive
