import DifferentialDrive.Binary64.Scalar
import DifferentialDrive.Proofs.Refusals
import DifferentialDrive.Proofs.Replies

/-!
# The transports

Command bytes come in and telemetry goes out by calls, by a serial line and by a datagram socket,
in any order and on any machine. The telemetry changes by what an action emits and what it hands
out, first in and first out, so over all actions nothing is lost and nothing comes twice
(`gather_balance`). What is read from the port and received at the socket is the front of what has
come to them, as far as the machine hands it over in order (`World.Steps.inOrder`).
-/

namespace DifferentialDrive

open Wire Scalar Robot Station

variable {α β : Type} [Scalar α]

/-! ## What a run emits -/

/-- The bytes that a leg adds to the telemetry, unless it is refused. -/
def Leg.emitted (l : Leg α) : List UInt8 := (l.command.map l.arrived.emits).getD []

/-- A run that is not refused adds to the telemetry what its commands add, in order. -/
theorem Robot.Ran.telemetry {now : α} {r s : Robot α} (h : Ran now r s) :
    s.telemetry = r.telemetry ++ (r.legs now).flatMap Leg.emitted := by
  induction h with
  | @idle r s waits moved =>
    obtain rfl : (r.advance now).state = s := by rw [moved]
    simp [legs_of_waiting waits, Leg.emitted]
  | stray found _ ih =>
    rw [legs_of_stray found]
    exact ih
  | unknown found _ ih =>
    rw [legs_of_unknown found]
    exact ih
  | @command r m s c t rest found performed _ ih =>
    obtain ⟨a, m, moved, executed, rfl⟩ := perform_ok performed
    obtain rfl : (r.advance t).state = a := by rw [moved]
    have emitted : (Leg.mk r t (some c)).emitted = (r.advance t).state.emits c := rfl
    have added := execute_telemetry executed
    simp only [telemetry_advance] at added
    rw [legs_of_ready found performed, List.flatMap_cons, emitted, ← List.append_assoc]
    refine ih.trans (congrArg (· ++ _) (added.trans ?_))
    cases c <;> rfl

/-- The telemetry that a simulation emits in a tick, unless that is refused. -/
def Simulation.emitted (s : Simulation α) (now : α) : List UInt8 :=
  if s.running then (s.robot.legs now).flatMap Leg.emitted else []

/-- A tick that is not refused adds what it emits to the telemetry. -/
theorem Simulation.telemetry_tick {s : Simulation α} {now : α} {b : Bool}
    (done : (s.tick now).result = .ok b) :
    (s.tick now).state.robot.telemetry = s.robot.telemetry ++ s.emitted now := by
  cases running : s.running with
  | false => simp [tick, emitted, running]
  | true => simpa [emitted, running] using (tick_ran running done).telemetry

/-! ## What passes in order -/

/-- Whether something that passes behind a past is what the machine answers, as far as it brings
bytes. -/
def Machine.Answers (m : Machine) (past : Past) : Passed → Prop
  | .read n answer => answer = m.port.read past n
  | .receive limit ds stop => limit = Socket.limit ∧ m.net.receive past limit = (ds, stop)
  | _ => True

theorem append_prefix_of_drop {a b c : List β} (front : a <+: c) (next : b <+: c.drop a.length) :
    a ++ b <+: c := by
  obtain ⟨rest, rfl⟩ := front
  rw [List.drop_left] at next
  exact (List.prefix_append_right_inj a).2 next

/-- What has been read from the port and received at the socket is the front of what has come. -/
structure World.InOrder (w : World) (came : Past → List UInt8) (brought : Past → List Datagram) :
    Prop where
  read : w.past.bytesRead <+: came w.past
  received : w.past.received <+: (brought w.past).map (Datagram.cut Socket.limit)

/-- If the machine hands over in order what has come, all that is read and received is in order. -/
theorem World.Steps.inOrder {w w' : World} {came : Past → List UInt8}
    {brought : Past → List Datagram} (port : w.machine.port.InOrder came)
    (net : w.machine.net.InOrder brought) (h : World.Steps w.machine.Answers w w')
    (start : w.InOrder came brought) : w'.InOrder came brought := by
  induction h with
  | refl => exact start
  | @tail u _ _ step ih =>
    obtain ⟨p, answers, rfl⟩ := step
    have read : u.past.bytesRead <+: came (p :: u.past) := ih.read.trans (port.stays p _)
    have received : u.past.received <+: (brought (p :: u.past)).map (Datagram.cut Socket.limit) :=
      ih.received.trans ((net.stays p _).map _)
    cases p with
    | read n answer =>
      refine ⟨?_, by simpa [note, Past.received, Past.gather, Passed.received] using received⟩
      cases answer with
      | error k => simpa [note, Past.bytesRead, Past.gather, Passed.read?] using read
      | ok bytes => exact append_prefix_of_drop read (port.read _ n bytes answers.symm)
    | receive limit ds stop =>
      refine ⟨by simpa [note, Past.bytesRead, Past.gather, Passed.read?] using read, ?_⟩
      obtain ⟨rfl, given⟩ := answers
      exact append_prefix_of_drop received (net.receive _ _ ds stop given)
    | _ =>
      exact ⟨by simpa [note, Past.bytesRead, Past.gather, Passed.read?] using read,
        by simpa [note, Past.received, Past.gather, Passed.received] using received⟩

/-! ## What passes in an action -/

namespace Session

/-- Whether something may pass in an action. -/
def Action.passes : Action α → Passed → Bool
  | .lineWrite _, .write .. | .lineRead _, .read .. => true
  | .lineIngress _, .waiting _ | .lineIngress _, .read .. => true
  | .lineEgress, .write .. | .lineClose, .closeLine _ => true
  | .datagram _, .arrival _ | .socketIngress _, .receive .. | .socketEgress, .send .. => true
  | _, _ => false

theorem links_call (s : Session α) (c : Call α) :
    (s.call c).state.world = s.world ∧ (s.call c).state.line = s.line ∧
      (s.call c).state.socket = s.socket := by
  unfold call
  split <;> exact ⟨rfl, rfl, rfl⟩

omit [Scalar α] in
theorem links_press (s : Session α) (key : String) (now : α) :
    (s.press key now).1.world = s.world ∧ (s.press key now).1.line = s.line ∧
      (s.press key now).1.socket = s.socket := by
  unfold press
  split <;> exact ⟨rfl, rfl, rfl⟩

/-- All that passes in an action. -/
theorem world_perform (s : Session α) (a : Action α) :
    World.Steps (fun past p => a.passes p = true ∧ s.world.machine.Answers past p) s.world
      (s.perform a).state.world := by
  have linked {β : Type} {P : Past → Passed → Prop} {there : Bool}
      {o : Outcome (Station α) (Fault α) β} {answer : β → Answer α}
      (steps : World.Steps P s.world o.state.world) :
      World.Steps P s.world (s.onLink there o answer).state.world :=
    onLink_state (P := fun t => World.Steps P s.world t.world) .refl steps
  cases a with
  | call c => exact (s.links_call c).1 ▸ .refl
  | readTelemetry =>
    exact (links_call { s with sim := s.sim.drain.2 } (.read s.sim.drain.1)).1 ▸ .refl
  | key key now => exact (s.links_press key now).1 ▸ .refl
  | lineWrite | lineRead => exact linked (.single ⟨_, ⟨rfl, by trivial⟩, rfl⟩)
  | lineIngress now =>
    exact linked (s.steps_lineIngress now (fun _ _ => ⟨rfl, trivial⟩) fun _ _ => ⟨rfl, rfl⟩)
  | lineEgress => exact linked (s.steps_lineEgress fun _ _ _ => ⟨rfl, trivial⟩)
  | lineClose => exact linked (s.steps_closeLine fun _ _ => ⟨rfl, trivial⟩)
  | datagram d => exact .single ⟨.arrival d, ⟨rfl, trivial⟩, rfl⟩
  | socketIngress now =>
    exact linked (s.steps_socketIngress now fun _ _ _ given => ⟨rfl, rfl, given⟩)
  | socketEgress => exact linked (s.steps_socketEgress fun _ _ _ => ⟨rfl, trivial⟩)
  | _ => exact .refl

theorem machine_perform (s : Session α) (a : Action α) :
    (s.perform a).state.world.machine = s.world.machine :=
  (s.world_perform a).machine

/-- All that passes in actions is what the machine answers. -/
theorem world_after (s : Session α) (actions : List (Action α)) :
    World.Steps s.world.machine.Answers s.world (s.after actions).world := by
  induction actions generalizing s with
  | nil => exact .refl
  | cons a rest ih =>
    have others := ih (s.perform a).state
    rw [s.machine_perform a] at others
    exact (Relation.ReflTransGen.mono
      (fun _ _ ⟨p, allowed, same⟩ => ⟨p, allowed.2, same⟩) _ _ (s.world_perform a)).trans others

/-- Nothing is gathered in an action in which nothing of the kind passes. -/
theorem gained_eq_nil {f : Passed → List β} (s : Session α) {a : Action α}
    (nothing : ∀ p, a.passes p = true → f p = []) : s.gained f a = [] := by
  have same := (s.world_perform a).gather_eq fun _ p allowed => nothing p allowed.1
  simp [gained, World.since, same]

/-- What has been gathered in the end is what had been and what is gathered in each action. -/
theorem gather_gained (f : Passed → List β) (s : Session α) (actions : List (Action α)) :
    (s.after actions).world.past.gather f =
      s.world.past.gather f ++ s.gather (gained f) actions := by
  induction actions generalizing s with
  | nil => simp [after, gather]
  | cons a rest ih =>
    have first := (s.world_perform a).gather f
    have others := ih (s.perform a).state
    rw [first] at others
    simpa [after, gather, gained] using others

/-! ## Links and peers -/

omit [Scalar α] in
/-- There is the link if an action on it is not refused. -/
theorem ok_of_onLink {β : Type} {s : Session α} {there : Bool}
    {o : Outcome (Station α) (Fault α) β} {answer : β → Answer α}
    (ok : (s.onLink there o answer).result.isOk = true) :
    there = true ∧ ∃ b, o.result = .ok b := by
  unfold onLink at ok
  cases there with
  | false => cases ok
  | true =>
    cases result : o.result with
    | error f => simp [result, Except.map, Except.isOk, Except.toBool] at ok
    | ok b => exact ⟨rfl, b, rfl⟩

/-- Who sent the last datagram. -/
def peer (s : Session α) : Option Address := s.socket.bind (·.peer)

/-- Only receiving changes the socket. -/
theorem socket_perform (s : Session α) {a : Action α} (other : ∀ now, a ≠ .socketIngress now) :
    (s.perform a).state.socket = s.socket := by
  cases a with
  | socketIngress now => exact absurd rfl (other now)
  | call c => exact (s.links_call c).2.2
  | readTelemetry => exact (links_call { s with sim := s.sim.drain.2 } _).2.2
  | key key now => exact (s.links_press key now).2.2
  | lineWrite | lineRead => exact onLink_state (P := fun t => t.socket = s.socket) rfl rfl
  | lineIngress now =>
    exact onLink_state (P := fun t => t.socket = s.socket) rfl (s.links_lineIngress now).2
  | lineEgress =>
    exact onLink_state (P := fun t => t.socket = s.socket) rfl s.links_lineEgress.2
  | lineClose =>
    exact onLink_state (P := fun t => t.socket = s.socket) rfl s.closeLine_kept.2.1
  | socketEgress =>
    exact onLink_state (P := fun t => t.socket = s.socket) rfl s.links_socketEgress.2
  | _ => rfl

/-- The peer is who sent the last datagram that was received. -/
theorem peer_perform (s : Session α) (a : Action α) :
    (s.perform a).state.peer = ((s.received a).getLast?.map Datagram.peer).or s.peer := by
  by_cases receives : ∃ now, a = .socketIngress now
  · obtain ⟨now, rfl⟩ := receives
    obtain ⟨ds, stop, -, same⟩ := s.socketIngress_cases now
    cases linked : s.socket with
    | none => simp [perform, onLink, received, gained, peer, linked]
    | some k =>
      cases last : ds.getLast? <;>
        simp [perform, onLink, received, gained, peer, linked, same, Past.gather, Passed.received,
          last]
  · have nothing : s.received a = [] := by
      refine s.gained_eq_nil fun p passes => ?_
      cases p with
      | receive => cases a <;> simp_all [Action.passes]
      | _ => rfl
    simp [peer, nothing, s.socket_perform fun now same => receives ⟨now, same⟩]

theorem peer_after (s : Session α) (actions : List (Action α)) :
    (s.after actions).peer =
      ((s.gather received actions).getLast?.map Datagram.peer).or s.peer := by
  induction actions generalizing s with
  | nil => simp [after, gather]
  | cons a rest ih =>
    have first := s.peer_perform a
    have others := ih (s.perform a).state
    rw [first] at others
    simpa [after, gather, List.getLast?_append, Option.map_or, Option.or_assoc] using others

/-! ## The telemetry -/

/-- Telemetry that is not refused is written to the port as a whole. -/
theorem perform_lineEgress {s : Session α} (ok : (s.perform .lineEgress).result.isOk = true) :
    s.perform .lineEgress =
      ⟨{ s with
          sim := s.sim.drain.2
          world := s.world.after (writes s.sim.robot.telemetry) },
        .ok (.count s.sim.robot.telemetry.length)⟩ := by
  obtain ⟨line, n, done⟩ := ok_of_onLink ok
  simp [perform, onLink, line, lineEgress_of_ok done, Except.map]

/-- What is sent goes to the last peer as a whole. -/
theorem perform_socketEgress_of_peer {s : Session α} {p : Address} (known : s.peer = some p)
    (ok : (s.perform .socketEgress).result.isOk = true) :
    s.perform .socketEgress =
      ⟨{ s with
          sim := s.sim.drain.2
          world := s.world.after (sends p s.sim.robot.telemetry) },
        .ok (.sent s.sim.robot.telemetry.length (packets p s.sim.robot.telemetry))⟩ := by
  obtain ⟨there, n, done⟩ := ok_of_onLink ok
  simp [perform, onLink, there, socketEgress_of_ok known done, Except.map]

/-- As long as there is no peer nothing is sent and nothing changes. -/
theorem perform_socketEgress_of_no_peer {s : Session α} (linked : s.socket.isSome = true)
    (alone : s.peer = none) : s.perform .socketEgress = ⟨s, .ok (.sent 0 [])⟩ := by
  obtain ⟨-, same⟩ | ⟨q, peer, -⟩ := s.socketEgress_cases
  · simp [perform, onLink, linked, same, Except.map]
  · cases alone.symm.trans peer

/-- The telemetry that an action hands out. -/
def handedOut (s : Session α) (a : Action α) : List UInt8 :=
  match a, (s.perform a).result with
  | .drain, .ok (.bytes bytes) => bytes
  | .readTelemetry, _ => s.sim.drain.1
  | .lineEgress, _ => s.gained Passed.written .lineEgress
  | .socketEgress, _ => (s.gained Passed.sent .socketEgress).flatMap Datagram.bytes
  | _, _ => []

/-- The telemetry that an action emits, unless it is refused. -/
def emitted (s : Session α) : Action α → List UInt8
  | .tick now => s.sim.emitted now
  | _ => []

/-- Whether an action may take telemetry from the robot. -/
def Action.takes : Action α → Bool
  | .drain | .readTelemetry | .lineEgress | .socketEgress => true
  | _ => false

/-- Apart from what takes telemetry only a tick changes it. -/
theorem telemetry_perform (s : Session α) {a : Action α} (other : a.takes = false)
    (still : ∀ now, a ≠ .tick now) :
    (s.perform a).state.sim.robot.telemetry = s.sim.robot.telemetry := by
  cases a with
  | drain | readTelemetry | lineEgress | socketEgress => cases other
  | tick now => exact absurd rfl (still now)
  | call c => exact (s.untouched_call c).telemetry
  | key key now =>
    simp only [perform, press]
    split <;> rfl
  | lineWrite | lineRead =>
    exact onLink_state (P := fun t => t.sim.robot.telemetry = _) rfl rfl
  | lineIngress now =>
    exact onLink_state (P := fun t => t.sim.robot.telemetry = _) rfl
      (congrArg (·.robot.telemetry) (s.sim_lineIngress now))
  | lineClose =>
    exact onLink_state (P := fun t => t.sim.robot.telemetry = _) rfl
      (congrArg (·.robot.telemetry) s.closeLine_kept.1)
  | socketIngress now =>
    exact onLink_state (P := fun t => t.sim.robot.telemetry = _) rfl
      (congrArg (·.robot.telemetry) (s.sim_socketIngress now))
  | _ => rfl

/-- What has been handed out and what is still buffered are what was buffered and what is emitted,
in order. -/
theorem handedOut_append_telemetry (s : Session α) (a : Action α)
    (ok : (s.perform a).result.isOk = true) :
    s.handedOut a ++ (s.perform a).state.sim.robot.telemetry =
      s.sim.robot.telemetry ++ s.emitted a := by
  cases takes : a.takes with
  | false =>
    by_cases isTick : ∃ now, a = .tick now
    · obtain ⟨now, rfl⟩ := isTick
      cases done : (s.sim.tick now).result with
      | ok b => simpa [handedOut, emitted, perform] using Simulation.telemetry_tick done
      | error f => simp [perform, done, Except.map, Except.isOk, Except.toBool] at ok
    · have kept := s.telemetry_perform takes fun now same => isTick ⟨now, same⟩
      cases a with
      | tick now => exact absurd ⟨now, rfl⟩ isTick
      | drain | readTelemetry | lineEgress | socketEgress => cases takes
      | _ => simpa [handedOut, emitted] using kept
  | true =>
    cases a with
    | drain => simp [handedOut, emitted, perform, Simulation.drain, Robot.drain]
    | readTelemetry =>
      have kept := (untouched_call { s with sim := s.sim.drain.2 } (.read s.sim.drain.1)).telemetry
      simpa [handedOut, emitted, perform, Simulation.drain, Robot.drain] using kept
    | lineEgress =>
      simp [handedOut, gained, emitted, perform_lineEgress ok, Simulation.drain,
        Robot.drain]
    | socketEgress =>
      cases known : s.peer with
      | none =>
        have same := perform_socketEgress_of_no_peer (ok_of_onLink ok).1 known
        simp [handedOut, gained, emitted, same]
      | some p =>
        simp [handedOut, gained, emitted, perform_socketEgress_of_peer known ok,
          Simulation.drain, Robot.drain]
    | _ => simp [Action.takes] at takes

/-- If each action that is not refused takes from the front of what there is and puts behind it, so
do all of them. -/
theorem gather_balance (view : Session α → List β) {gain loss : Session α → Action α → List β}
    (step : ∀ s a, (s.perform a).result.isOk = true →
      loss s a ++ view (s.perform a).state = view s ++ gain s a)
    {s : Session α} {actions : List (Action α)}
    (fair : ∀ o ∈ s.outcomes actions, o.result.isOk = true) :
    s.gather loss actions ++ view (s.after actions) = view s ++ s.gather gain actions := by
  induction actions generalizing s with
  | nil => simp [gather, after]
  | cons a rest ih =>
    have first := step s a (fair _ (by simp [outcomes]))
    have others := ih (s := (s.perform a).state) fun o ho => fair o (by simp [outcomes, ho])
    calc s.gather loss (a :: rest) ++ view (s.after (a :: rest))
        = loss s a ++ (gather loss (s.perform a).state rest ++
            view ((s.perform a).state.after rest)) := by simp [gather, after]
      _ = view s ++ gain s a ++ gather gain (s.perform a).state rest := by
          rw [others, ← List.append_assoc, first]
      _ = view s ++ s.gather gain (a :: rest) := by simp [gather]

/-! ## What an action answers -/

/-- Whether an action makes command bytes of what has come over a link. -/
def Action.isIngress : Action α → Bool
  | .lineIngress _ | .socketIngress _ => true
  | _ => false

/-- What has come is answered with its length. -/
theorem perform_ingress {s : Session α} {a : Action α} (ingress : a.isIngress = true)
    (ok : (s.perform a).result.isOk = true) :
    (s.perform a).result = .ok (.count (s.arrivals a).length) := by
  cases a with
  | lineIngress now =>
    obtain ⟨line, n, done⟩ := ok_of_onLink ok
    obtain ⟨k, same⟩ | same | ⟨n, k, -, same⟩ | ⟨n, bytes, -, same⟩ := s.lineIngress_cases now
    · simp [same] at done
    · simp [perform, onLink, line, same, arrivals, read, gained, Past.gather, Passed.read?,
        stampAll, Except.map]
    · simp [same] at done
    · simp [perform, onLink, line, same, arrivals, read, gained, Past.gather, Passed.read?,
        stampAll, Except.map]
  | socketIngress now =>
    obtain ⟨there, n, done⟩ := ok_of_onLink ok
    obtain ⟨ds, stop, -, same⟩ := s.socketIngress_cases now
    cases stop with
    | none =>
      simp [perform, onLink, there, same, arrivals, received, gained, Past.gather,
        Passed.received, Except.map]
    | some k => simp [same] at done
  | _ => cases ingress

/-- What an action sends is the telemetry that it hands out, and it is sent to the last peer. -/
theorem perform_socketEgress {s : Session α}
    (ok : (s.perform .socketEgress).result.isOk = true) :
    ∃ ds, (s.perform .socketEgress).result = .ok (.sent (s.handedOut .socketEgress).length ds) ∧
      ds.flatMap Datagram.bytes = s.handedOut .socketEgress ∧ ∀ d ∈ ds, s.peer = some d.peer := by
  cases known : s.peer with
  | none =>
    have same := perform_socketEgress_of_no_peer (ok_of_onLink ok).1 known
    exact ⟨[], by simp [handedOut, gained, same]⟩
  | some p =>
    have same := perform_socketEgress_of_peer known ok
    refine ⟨packets p s.sim.robot.telemetry, by simp [handedOut, gained, same],
      by simp [handedOut, gained, same], fun d hd => ?_⟩
    unfold packets at hd
    split at hd <;> simp_all

/-! ## Sessions -/

/-- On a machine that hands over in order what comes to its port and its socket, over all actions
that are not refused and do not forget the queue, in any order: behind what was in the queue have
entered the bytes that each action brings, with its time, and they have left it as commands that
were executed or as bytes that were dropped; the bytes read from the port and the datagrams received
are what each action has read and received, and the front of what has come; the telemetry handed out
and what is still buffered is what was emitted. The peer is who sent the last datagram. What comes
in and what goes out is answered with its length, a datagram that is not too long comes in whole,
and without a peer nothing is sent and nothing changes. -/
theorem transports_lose_nothing (s : Session α) (actions : List (Action α))
    {came : Past → List UInt8} {brought : Past → List Datagram}
    (port : s.world.machine.port.InOrder came) (net : s.world.machine.net.InOrder brought)
    (start : s.world.InOrder came brought)
    (kept : ∀ a ∈ actions, a.clears = false)
    (fair : ∀ o ∈ s.outcomes actions, o.result.isOk = true) :
    let t := s.after actions
    (∃ commands,
      Consumed (s.sim.robot.queue ++ s.gather arrivals actions) commands t.sim.robot.queue ∧
      t.sim.robot.journal.executed = s.sim.robot.journal.executed ++ commands) ∧
    t.world.past.bytesRead = s.world.past.bytesRead ++ s.gather read actions ∧
    t.world.past.received = s.world.past.received ++ s.gather received actions ∧
    t.world.past.bytesRead <+: came t.world.past ∧
    t.world.past.received <+: (brought t.world.past).map (Datagram.cut Socket.limit) ∧
    s.gather handedOut actions ++ t.sim.robot.telemetry =
      s.sim.robot.telemetry ++ s.gather emitted actions ∧
    t.peer = ((s.gather received actions).getLast?.map Datagram.peer).or s.peer ∧
    (∀ before a later, actions = before ++ a :: later →
      let b := s.after before
      (a.isIngress = true → (b.perform a).result = .ok (.count (b.arrivals a).length)) ∧
      (a = .drain → (b.perform a).result = .ok (.bytes (b.handedOut a))) ∧
      (a = .lineEgress → (b.perform a).result = .ok (.count (b.handedOut a).length)) ∧
      (a = .socketEgress →
        (∃ ds, (b.perform a).result = .ok (.sent (b.handedOut a).length ds) ∧
          ds.flatMap Datagram.bytes = b.handedOut a ∧ ∀ d ∈ ds, b.peer = some d.peer) ∧
        (b.peer = none → b.perform a = ⟨b, .ok (.sent 0 [])⟩))) ∧
    ∀ d : Datagram, d.bytes.length ≤ Socket.limit → d.cut Socket.limit = d := by
  intro t
  obtain ⟨commands, consumed, handled⟩ := s.dealt_after actions kept
  have inOrder : t.world.InOrder came brought := (s.world_after actions).inOrder port net start
  refine ⟨⟨commands, consumed, handled.executed⟩,
    s.gather_gained Passed.read? actions, s.gather_gained Passed.received actions,
    inOrder.read, inOrder.received,
    gather_balance (·.sim.robot.telemetry)
      (fun s a ok => s.handedOut_append_telemetry a ok) fair,
    s.peer_after actions, ?_, fun d short => Datagram.cut_of_short short⟩
  rintro before a later rfl b
  have ok : (b.perform a).result.isOk = true := fair _ (by simp [outcomes_append, outcomes, b])
  refine ⟨fun ingress => perform_ingress ingress ok, ?_, ?_, ?_⟩
  · rintro rfl
    rfl
  · rintro rfl
    simp [handedOut, gained, perform_lineEgress ok]
  · rintro rfl
    exact ⟨perform_socketEgress ok, perform_socketEgress_of_no_peer (ok_of_onLink ok).1⟩

/-- A session with both links on a machine, with the line just opened. -/
def linkedTo (m : Machine) : Session Float :=
  { standard with
    line := true
    socket := some {}
    world :=
      { machine := m
        past :=
          [.openLine ⟨.ofText "loop://", .ofDatum (.int 9600), .ofDatum (.int 0)⟩ (.ok ())] } }

/-- A speed comes over a line from outside and two queries come in datagrams, one of them in two
pieces; their answers go out over the line, to the sender of the last datagram and to whoever asks
for them. -/
theorem transports_lose_nothing_wired :
    let speed : Command := .speed1 9
    let machine := Machine.wired speed.bytes
    let s := linkedTo machine
    let first : Datagram := ⟨⟨"10.0.0.2", 4000⟩, [0]⟩
    let second : Datagram := ⟨⟨"10.0.0.3", 4000⟩, [0x21]⟩
    let actions : List (Action Float) :=
      [.start zero, .push (Command.query .mode).bytes zero, .tick zero, .socketEgress,
        .datagram first, .lineIngress zero, .socketIngress zero, .tick zero, .lineEgress,
        .datagram second, .socketIngress zero, .tick zero, .socketEgress,
        .push (Command.query .volts).bytes zero, .tick zero, .drain]
    let t := s.after actions
    machine.port.InOrder (fun _ => speed.bytes) ∧ machine.net.InOrder Past.arrived ∧
      (∀ a ∈ actions, a.clears = false) ∧
      (∀ o ∈ s.outcomes actions, o.result.isOk = true) ∧
      s.gather emitted actions = [0, 9, 24] ∧ s.gather handedOut actions = [0, 9, 24] ∧
      t.world.past.written = [0] ∧ t.world.past.sent = [⟨second.peer, [9]⟩] ∧
      t.sim.robot.telemetry = [] ∧
      s.gather read actions = speed.bytes ∧ s.gather received actions = [first, second] ∧
      t.peer = some second.peer ∧
      (∃ commands, Consumed (s.gather arrivals actions) commands t.sim.robot.queue ∧
        commands.map Prod.fst = [.query .mode, speed, .query .speed1, .query .volts]) := by
  intro speed machine s first second actions t
  have port : machine.port.InOrder (fun _ => speed.bytes) :=
    Port.fed_inOrder fun _ _ => List.prefix_refl _
  have net : machine.net.InOrder Past.arrived := Net.fed_inOrder (Past.gather_stays Passed.arrived)
  have kept : ∀ a ∈ actions, a.clears = false := by decide
  have fair : ∀ o ∈ s.outcomes actions, o.result.isOk = true := by decide +kernel
  obtain ⟨⟨commands, consumed, executed⟩, bytes, datagrams, -, -, telemetry, peer, -⟩ :=
    transports_lose_nothing s actions port net ⟨List.nil_prefix, List.nil_prefix⟩ kept fair
  have emitted : s.gather emitted actions = [0, 9, 24] := by decide +kernel
  have empty : t.sim.robot.telemetry = [] := by decide +kernel
  have out : s.gather handedOut actions = [0, 9, 24] := by
    rw [empty, emitted, List.append_nil] at telemetry
    exact telemetry
  have read : s.gather read actions = speed.bytes := by
    have all : t.world.past.bytesRead = speed.bytes := by decide +kernel
    have none : s.world.past.bytesRead = [] := rfl
    rw [all, none, List.nil_append] at bytes
    exact bytes.symm
  have received : s.gather received actions = [first, second] := by
    have all : t.world.past.received = [first, second] := by decide +kernel
    have none : s.world.past.received = [] := rfl
    rw [all, none, List.nil_append] at datagrams
    exact datagrams.symm
  rw [received] at peer
  refine ⟨port, net, kept, fair, emitted, out, by decide +kernel, by decide +kernel, empty, read,
    received, peer, commands, consumed, ?_⟩
  have names : t.sim.robot.journal.executed.map Prod.fst =
      [.query .mode, speed, .query .speed1, .query .volts] := by decide +kernel
  rw [executed] at names
  exact names

end Session

end DifferentialDrive
