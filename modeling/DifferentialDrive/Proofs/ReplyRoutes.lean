import DifferentialDrive.Proofs.Services
import DifferentialDrive.Proofs.Transports

/-!
# The way replies take

All telemetry is in one buffer, which does not know over which link a query came in. The first that
takes from it takes all of it, be it the line, the socket once it has a peer, or a call
(`handedOut_of_takes`). A service writes to its line before it sends, so where there is a line
nothing is ever sent (`sent_run`).
-/

namespace DifferentialDrive

open Wire Scalar Robot Station

variable {α : Type} [Scalar α]

namespace Session

/-! ## Who takes the telemetry -/

/-- Whether an action takes the telemetry: what is sent to nobody is not taken. -/
def takes (s : Session α) : Action α → Bool
  | .socketEgress => s.peer.isSome
  | a => a.takes

/-- An action that takes telemetry takes all of it. -/
theorem handedOut_of_takes {s : Session α} {a : Action α} (takes : s.takes a = true)
    (ok : (s.perform a).result.isOk = true) :
    s.handedOut a = s.sim.robot.telemetry ∧ (s.perform a).state.sim.robot.telemetry = [] := by
  cases a with
  | drain => exact ⟨rfl, rfl⟩
  | readTelemetry =>
    exact ⟨rfl, (untouched_call { s with sim := s.sim.drain.2 } (.read s.sim.drain.1)).telemetry⟩
  | lineEgress =>
    simp [handedOut, gained, perform_lineEgress ok, Simulation.drain, Robot.drain]
  | socketEgress =>
    obtain ⟨p, known⟩ := Option.isSome_iff_exists.1 takes
    simp [handedOut, gained, perform_socketEgress_of_peer known ok, Simulation.drain, Robot.drain]
  | _ => cases takes

/-- Any other action hands out nothing. -/
theorem handedOut_of_not_takes {s : Session α} {a : Action α} (other : s.takes a = false) :
    s.handedOut a = [] := by
  cases a with
  | drain | readTelemetry | lineEgress => cases other
  | socketEgress =>
    have alone : s.peer = none := by simpa [takes] using other
    cases linked : s.socket.isSome with
    | false => simp [handedOut, gained, perform, onLink, linked]
    | true => simp [handedOut, gained, perform_socketEgress_of_no_peer linked alone]
  | _ => rfl

theorem gather_handedOut_of_not_takes {s : Session α} {actions : List (Action α)}
    (others : ∀ x a y, actions = x ++ a :: y → (s.after x).takes a = false) :
    s.gather handedOut actions = [] := by
  induction actions generalizing s with
  | nil => rfl
  | cons a rest ih =>
    have first : s.takes a = false := others [] a rest rfl
    have later : gather handedOut (s.perform a).state rest = [] :=
      ih fun x b y split => others (a :: x) b y (by rw [split]; rfl)
    simp [gather, handedOut_of_not_takes first, later]

/-- The first action behind a tick that takes telemetry hands out what was buffered and what has
been emitted. -/
theorem handedOut_first {s : Session α} (actions : List (Action α)) {a : Action α}
    (fair : ∀ o ∈ s.outcomes (actions ++ [a]), o.result.isOk = true)
    (others : ∀ x b y, actions = x ++ b :: y → (s.after x).takes b = false)
    (first : (s.after actions).takes a = true) :
    (s.after actions).handedOut a = s.sim.robot.telemetry ++ s.gather emitted actions ∧
      ((s.after actions).perform a).state.sim.robot.telemetry = [] := by
  have before : ∀ o ∈ s.outcomes actions, o.result.isOk = true := fun o ho =>
    fair o (by simp [outcomes_append, ho])
  have balance := gather_balance (·.sim.robot.telemetry)
    (fun s a ok => s.handedOut_append_telemetry a ok) before
  rw [gather_handedOut_of_not_takes others] at balance
  obtain ⟨all, nothing⟩ := handedOut_of_takes first (fair _ (by simp [outcomes_append, outcomes]))
  exact ⟨all.trans balance, nothing⟩

/-- What goes to the line goes there whole, and nothing is sent. -/
theorem lineEgress_route {s : Session α} (ok : (s.perform .lineEgress).result.isOk = true) :
    let past := (s.perform .lineEgress).state.world.past
    past.written = s.world.past.written ++ s.handedOut .lineEgress ∧
      past.sent = s.world.past.sent := by
  have all : s.handedOut .lineEgress = s.sim.robot.telemetry := (handedOut_of_takes rfl ok).1
  simp [all, perform_lineEgress ok, World.after, Past.written, Past.sent, Past.gather_append]

/-- What goes to the socket goes in one datagram to the last peer, and nothing is written. -/
theorem socketEgress_route {s : Session α} (takes : s.takes .socketEgress = true)
    (ok : (s.perform .socketEgress).result.isOk = true) :
    ∃ p, s.peer = some p ∧
      let ds := packets p (s.handedOut .socketEgress)
      let t := (s.perform .socketEgress).state
      (s.perform .socketEgress).result = .ok (.sent (s.handedOut .socketEgress).length ds) ∧
      t.world.past.sent = s.world.past.sent ++ ds ∧
      t.world.past.written = s.world.past.written := by
  obtain ⟨p, known⟩ := Option.isSome_iff_exists.1 takes
  have all : s.handedOut .socketEgress = s.sim.robot.telemetry := (handedOut_of_takes takes ok).1
  refine ⟨p, known, ?_⟩
  simp [all, perform_socketEgress_of_peer known ok, World.after, Past.written, Past.sent,
    Past.gather_append]

end Session

open Session

namespace Service

/-! ## Services with a line -/

/-- Where there is a line, nothing is sent in the turns and behind them. -/
theorem sent_wrapUp {s : Service} {limit : Limit} {start : Float} {o : Step}
    (ends : Ends limit start s o) (line : (wrapUp o).state.line = true) :
    (wrapUp o).state.world.past.sent = s.world.past.sent := by
  have turned := ends.pumped
  have closed : Goes (fun _ p => p.sent = []) o.state (wrapUp o).state :=
    goes_wrapUp (fun _ _ => rfl) (fun _ _ => rfl) fun _ _ => rfl
  have there : s.line = true := by rw [← turned.line, ← closed.line, line]
  calc (wrapUp o).state.world.past.sent
      = o.state.world.past.sent := closed.steps.gather_eq fun _ _ => id
    _ = s.world.past.sent := turned.steps.gather_eq fun _ _ allowed => allowed.2 there

/-- A run that leaves a service with a line has sent nothing, however it ends. -/
theorem sent_run {m : Machine} {cfg : Document.Value} {limit : Limit} {r : Run} {v : Service}
    (ran : run m cfg limit = some r) (left : r.service = some v) (line : v.line = true) :
    r.world.past.sent = [] := by
  have early {s t : Service} (built : Built m cfg s) (steps : World.Steps Opening s.world t.world) :
      t.world.past.sent = [] := by
    have same : t.world.past.sent = s.world.past.sent := steps.gather_eq fun _ p allowed => by
      cases p <;> first | rfl | cases allowed
    rw [same, built.world]
    rfl
  cases run_eq_some_iff.1 ran with
  | unbuilt refused _ => cases left
  | unopened built refused => exact early built (opens_of_openLinks refused).steps
  | unstarted built opened struck => exact early built (steps_begun opened struck)
  | ended built opened started ends =>
    obtain rfl := Option.some.inj left
    exact (sent_wrapUp ends line).trans (early built (steps_begun opened started))

/-! ## A cycle -/

/-- What is written on the way from a service to another one, and what the telemetry holds behind
it, are what the telemetry had held and what has been emitted. -/
structure Carries (out emitted : List UInt8) (s t : Service) : Prop where
  written : t.world.past.written = s.world.past.written ++ out
  telemetry : out ++ t.sim.robot.telemetry = s.sim.robot.telemetry ++ emitted

variable {s t u : Service}

theorem Carries.refl (s : Service) : Carries [] [] s s := ⟨by simp, by simp⟩

theorem Carries.trans {out out' emitted emitted' : List UInt8} (first : Carries out emitted s t)
    (second : Carries out' emitted' t u) : Carries (out ++ out') (emitted ++ emitted') s u where
  written := by rw [second.written, first.written, List.append_assoc]
  telemetry := by
    rw [List.append_assoc, second.telemetry, ← List.append_assoc, first.telemetry,
      List.append_assoc]

/-- On the way nothing is written, and the telemetry stays as it is. -/
abbrev Keeps (s t : Service) : Prop := Carries [] [] s t

theorem keeps_statement (s : Service) : Keeps s (s.passed [.statement (.ok ())]) :=
  ⟨by simp [Past.written, Past.gather, Passed.written], by simp⟩

/-- What has been read from the port is pushed, and nothing else happens to the simulation. -/
theorem sim_lineIngress (s : Service) (now : Float) :
    let t := (s.lineIngress now).state
    t.sim = s.sim.push (t.world.since s.world Passed.read?) now := by
  have same := s.toStation_onLink s.line (s.toStation.lineIngress now)
  split at same
  · simpa [lineIngress, same] using s.toStation.sim_lineIngress now
  · simp [lineIngress, same]

/-- What has been received becomes bytes of the simulation, and nothing else happens to it. -/
theorem sim_socketIngress (s : Service) (now : Float) :
    let t := (s.socketIngress now).state
    t.sim = s.sim.receive (stamped (t.world.since s.world Passed.received) now) := by
  have same := s.toStation_onLink s.socket.isSome (s.toStation.socketIngress now)
  split at same
  · simpa [socketIngress, same] using s.toStation.sim_socketIngress now
  · simp [socketIngress, same, stamped]

theorem keeps_lineIngress (now : Float) : Keeps s (s.lineIngress now).state where
  written := by
    have goes := goes_lineIngress (P := fun _ p => p.written = []) (s := s) now (fun _ _ => rfl)
      fun _ _ _ => rfl
    simpa [Past.written] using goes.steps.gather_eq fun _ _ => id
  telemetry := by simp [sim_lineIngress, Simulation.push, Robot.push, Robot.receive]

theorem keeps_socketIngress (now : Float) : Keeps s (s.socketIngress now).state where
  written := by
    have goes := goes_socketIngress (P := fun _ p => p.written = []) (s := s) now
      fun _ _ _ _ => rfl
    simpa [Past.written] using goes.steps.gather_eq fun _ _ => id
  telemetry := by simp [sim_socketIngress, Simulation.receive, Robot.receive]

/-- What comes over the links in a cycle becomes command bytes, first what is read from the port,
and what goes out is left alone. -/
theorem intake_ok {now : Float} (done : (s.intake now).result = .ok ()) :
    let t := (s.intake now).state
    t.sim = (s.sim.push (t.world.since s.world Passed.read?) now).receive
      (stamped (t.world.since s.world Passed.received) now) ∧ Keeps s t := by
  unfold intake at done ⊢
  obtain ⟨-, first⟩ := inTurn_ok done
  rw [first] at done ⊢
  obtain ⟨-, second⟩ := inTurn_ok done
  rw [second]
  have kept := (keeps_statement s).trans (keeps_lineIngress now) |>.trans (keeps_statement _)
    |>.trans (keeps_socketIngress now)
  refine ⟨?_, kept⟩
  have pushed := sim_lineIngress (s.passed [.statement (.ok ())]) now
  have others := (goes_lineIngress (P := fun _ p => p.received = [])
    (s := s.passed [.statement (.ok ())]) now (fun _ _ => rfl) fun _ _ _ => rfl).steps.gather_eq
    fun _ _ => id
  generalize ((s.passed _).lineIngress now).state = t at *
  have taken := sim_socketIngress (t.passed [.statement (.ok ())]) now
  have bytes := (goes_socketIngress (P := fun _ p => p.read? = [])
    (s := t.passed [.statement (.ok ())]) now fun _ _ _ _ => rfl).steps.gather_eq fun _ _ => id
  generalize ((t.passed _).socketIngress now).state = u at *
  -- The line brings no datagrams and the socket no bytes, so each is gathered as by itself.
  simp only [passed_sim, World.since, gather_passed, Past.gather, Passed.read?, Passed.received,
    List.append_nil] at pushed others taken bytes
  simp only [inTurn, World.since, taken, pushed, bytes, others]

theorem carries_tick {now : Float} (done : (s.tick now).result = .ok ()) :
    Carries [] (s.sim.emitted now) s (s.tick now).state := by
  cases ticked : (s.sim.tick now).result with
  | ok b => exact ⟨by simp [tick], by simpa [tick] using Simulation.telemetry_tick ticked⟩
  | error f => simp [tick, ticked, Except.map] at done

/-- On the line goes all that the telemetry holds. -/
theorem carries_lineEgress (line : s.line = true) (done : s.lineEgress.result = .ok ()) :
    Carries s.sim.robot.telemetry [] s s.lineEgress.state := by
  have wrote : ∃ n, s.toStation.lineEgress.result = .ok n := by
    unfold lineEgress onLink at done
    rw [if_pos line] at done
    obtain ⟨n, wrote, -⟩ := Outcome.ok_of_andThen done
    exact ⟨n, wrote⟩
  obtain ⟨n, wrote⟩ := wrote
  have same : s.lineEgress.state.toStation = s.toStation.lineEgress.state :=
    (s.toStation_onLink s.line _).trans (if_pos line)
  rw [lineEgress_of_ok wrote] at same
  constructor
  · simp [same, World.after, Past.written, Past.gather_append]
  · simp [same, Simulation.drain, Robot.drain]

theorem keeps_socketEgress (empty : s.sim.robot.telemetry = []) : Keeps s s.socketEgress.state where
  written := by
    have goes := goes_socketEgress (P := fun _ p => p.written = []) (s := s) fun _ _ _ => .inl rfl
    simpa [Past.written] using goes.steps.gather_eq fun _ _ => id
  telemetry := by
    have same := s.toStation_onLink s.socket.isSome s.toStation.socketEgress
    split at same
    · obtain kept | drained := s.toStation.sim_socketEgress
      · simp [socketEgress, same, kept]
      · simp [socketEgress, same, drained, empty, Simulation.drain, Robot.drain]
    · simp [socketEgress, same]

theorem keeps_report (now : Float) : Keeps s (s.report now).state := by
  unfold report
  split
  · dsimp only
    split
    · exact ⟨by simp [note], by simp [note, Simulation.note, Robot.note]⟩
    · split <;> exact ⟨by simp [note], by simp [note, Simulation.note, Robot.note]⟩
  · exact .refl s

/-- What goes out in a cycle of a service with a line goes to the line, and nothing is left. -/
theorem carries_egress {now : Float} (line : s.line = true)
    (done : (s.inTurn [lineEgress, socketEgress, (·.report now)]).result = .ok ()) :
    let t := (s.inTurn [lineEgress, socketEgress, (·.report now)]).state
    Carries s.sim.robot.telemetry [] s t ∧ t.sim.robot.telemetry = [] := by
  obtain ⟨wrote, first⟩ := inTurn_ok done
  rw [first] at done ⊢
  obtain ⟨-, second⟩ := inTurn_ok done
  rw [second] at done ⊢
  obtain ⟨-, third⟩ := inTurn_ok done
  rw [third]
  have there : (s.passed [.statement (.ok ())]).line = true := line
  have whole := (keeps_statement s).trans (carries_lineEgress there wrote)
    |>.trans (keeps_statement _) |>.trans (keeps_socketEgress (telemetry_lineEgress there))
    |>.trans (keeps_statement _) |>.trans (keeps_report now)
  simp only [List.nil_append, List.append_nil] at whole
  exact ⟨whole, by simpa [inTurn, passed] using whole.telemetry⟩

/-- In a cycle of a service with a line, if it is not refused, all that the telemetry had held and
all that the tick emits is written to the line, and nothing is sent. -/
theorem line_cycle {now : Float} (line : s.line = true) (done : (s.cycle now).result = .ok ()) :
    let taken := (s.intake now).state
    let t := (s.cycle now).state
    taken.sim = (s.sim.push (taken.world.since s.world Passed.read?) now).receive
      (stamped (taken.world.since s.world Passed.received) now) ∧
    t.world.past.written =
      s.world.past.written ++ (s.sim.robot.telemetry ++ taken.sim.emitted now) ∧
    t.sim.robot.telemetry = [] ∧ t.world.past.sent = s.world.past.sent := by
  intro taken t
  have unsent : t.world.past.sent = s.world.past.sent :=
    (pumped_cycle s now).steps.gather_eq fun _ _ allowed => allowed.2 line
  obtain ⟨_, took, first⟩ := Outcome.ok_of_andThen done
  have fed : Keeps s taken := (intake_ok took).2
  have rest : s.cycle now = taken.inTurn [(·.tick now), lineEgress, socketEgress, (·.report now)] :=
    first
  rw [rest] at done
  obtain ⟨ticked, out⟩ := inTurn_ok done
  rw [out] at done
  have came : Goes (Pumped true) s taken := pumped_intake now
  have there : taken.line = true := came.line.trans line
  obtain ⟨wrote, empty⟩ := carries_egress (s := ((taken.passed _).tick now).state) there done
  have before := fed.trans (keeps_statement taken) |>.trans (carries_tick ticked)
  have whole := (before.trans wrote).written
  have holds := before.telemetry
  simp only [List.nil_append] at whole holds
  have last : t = _ := congrArg Outcome.state (rest.trans out)
  exact ⟨(intake_ok took).1, by rw [last, whole, holds, passed_sim], by rw [last, empty],
    unsent⟩

end Service

/-- Behind a tick, the first action that takes telemetry takes all that was buffered and all that
has been emitted, whichever link the queries came in on: on the line it is written, to the last peer
it is sent in one datagram, and over the other link goes nothing. A service writes to its line
before it sends: in a cycle that is not refused, what has come over both links becomes command
bytes, and all that was buffered and all that the tick emits is written to the line, and a run with
a line never sends anything. -/
theorem Session.first_taker_has_all_replies (s : Session Float) (now : Float)
    (since : List (Action Float)) (a : Action Float)
    (fair : ∀ o ∈ s.outcomes (.tick now :: since ++ [a]), o.result.isOk = true)
    (others : ∀ x b y, since = x ++ b :: y → (s.after (.tick now :: x)).takes b = false)
    (first : (s.after (.tick now :: since)).takes a = true) :
    (let b := s.after (.tick now :: since)
      let t := (b.perform a).state
      b.handedOut a = s.sim.robot.telemetry ++ s.gather emitted (.tick now :: since) ∧
      t.sim.robot.telemetry = [] ∧
      (a = .lineEgress → t.world.past.written = b.world.past.written ++ b.handedOut a ∧
        t.world.past.sent = b.world.past.sent) ∧
      (a = .socketEgress → ∃ p, b.peer = some p ∧
        let ds := packets p (b.handedOut a)
        (b.perform a).result = .ok (.sent (b.handedOut a).length ds) ∧
        t.world.past.sent = b.world.past.sent ++ ds ∧
        t.world.past.written = b.world.past.written)) ∧
    (∀ (v : Service) (time : Float), v.line = true → (v.cycle time).result = .ok () →
      let taken := (v.intake time).state
      let w := (v.cycle time).state
      taken.sim = (v.sim.push (taken.world.since v.world Passed.read?) time).receive
        (stamped (taken.world.since v.world Passed.received) time) ∧
      w.world.past.written =
        v.world.past.written ++ (v.sim.robot.telemetry ++ taken.sim.emitted time) ∧
      w.sim.robot.telemetry = [] ∧ w.world.past.sent = v.world.past.sent) ∧
    ∀ (m : Machine) (cfg : Document.Value) (limit : Service.Limit) (r : Service.Run) (v : Service),
      Service.run m cfg limit = some r → r.service = some v → v.line = true →
      r.world.past.sent = [] := by
  refine ⟨?_, fun v time => Service.line_cycle, fun m cfg limit r v => Service.sent_run⟩
  intro b t
  have last : (b.perform a).result.isOk = true :=
    fair _ (by simp [outcomes, outcomes_append, after, b])
  obtain ⟨all, nothing⟩ := handedOut_first (.tick now :: since) fair (by
    intro x c y split
    cases x with
    | nil =>
      obtain ⟨rfl, -⟩ := List.cons_eq_cons.1 split
      rfl
    | cons d x =>
      obtain ⟨rfl, rest⟩ := List.cons_eq_cons.1 split
      exact others x c y rest) first
  refine ⟨all, nothing, ?_, ?_⟩
  · rintro rfl
    exact lineEgress_route last
  · rintro rfl
    exact socketEgress_route first last

/-- A query comes in a datagram and another is pushed behind the tick; the sender of the datagram is
sent the answers to both. -/
theorem Session.first_taker_has_all_replies_sent :
    let asked : Datagram := ⟨⟨"10.0.0.2", 4000⟩, (Command.query .volts).bytes⟩
    let s := (linkedTo .looped).after [.start zero, .datagram asked, .socketIngress zero]
    let since : List (Action Float) := [.push (Command.query .mode).bytes zero, .tick zero]
    let b := s.after (.tick zero :: since)
    let t := (b.perform .socketEgress).state
    (∀ o ∈ s.outcomes (.tick zero :: since ++ [.socketEgress]), o.result.isOk = true) ∧
      (∀ x c y, since = x ++ c :: y → (s.after (.tick zero :: x)).takes c = false) ∧
      b.takes .socketEgress = true ∧ b.handedOut .socketEgress = [24, 0] ∧
      t.sim.robot.telemetry = [] ∧ t.world.past.sent = [⟨asked.peer, [24, 0]⟩] ∧
      t.world.past.written = [] := by
  intro asked s since b t
  have fair : ∀ o ∈ s.outcomes (.tick zero :: since ++ [.socketEgress]), o.result.isOk = true := by
    decide +kernel
  have others : ∀ x c y, since = x ++ c :: y → (s.after (.tick zero :: x)).takes c = false := by
    intro x c y split
    have among : c ∈ since := by rw [split]; simp
    obtain rfl | rfl : c = .push (Command.query .mode).bytes zero ∨ c = .tick zero := by
      simpa [since] using among
    all_goals rfl
  have first : b.takes .socketEgress = true := by decide +kernel
  obtain ⟨⟨all, nothing, -, sent⟩, -⟩ :=
    first_taker_has_all_replies s zero since .socketEgress fair others first
  have out : b.handedOut .socketEgress = [24, 0] := by
    have emitted : s.sim.robot.telemetry ++ s.gather Session.emitted (.tick zero :: since) =
      [24, 0] := by decide +kernel
    exact all.trans emitted
  obtain ⟨p, known, -, datagrams, still⟩ := sent rfl
  obtain rfl : asked.peer = p := Option.some.inj ((by decide +kernel :
    some asked.peer = b.peer).trans known)
  have before : b.world.past.sent = [] ∧ b.world.past.written = [] := by decide +kernel
  refine ⟨fair, others, first, out, nothing, ?_, still.trans before.2⟩
  have all : t.world.past.sent =
      b.world.past.sent ++ packets asked.peer (b.handedOut .socketEgress) := datagrams
  rw [all, before.1, out]
  rfl

/-- What came in a datagram is answered on the line, and what came over the line in a datagram, if
the other link is the first to take telemetry. In the cycle of a service the line always is. -/
theorem Session.replies_cross_links :
    let peer : Address := ⟨"10.0.0.2", 4000⟩
    let ask := (Command.query .volts).bytes
    let s := linkedTo .looped
    let asked := linkedTo (.wired ask)
    let byDatagram : List (Action Float) :=
      [.start zero, .datagram ⟨peer, ask⟩, .socketIngress zero, .tick zero, .lineEgress,
        .socketEgress]
    let byLine : List (Action Float) :=
      [.start zero, .datagram ⟨peer, []⟩, .socketIngress zero, .lineIngress zero, .tick zero,
        .socketEgress, .lineEgress]
    let v : Service :=
      { sim := s.sim.start zero, line := true, socket := some {},
        world := s.world.note (.arrival ⟨peer, ask⟩), statusAt := ofInt 1,
        intervals := ⟨zero, ofInt 1⟩ }
    ((∀ o ∈ s.outcomes byDatagram, o.result.isOk = true) ∧
      s.gather received byDatagram = [⟨peer, ask⟩] ∧ s.gather read byDatagram = [] ∧
      s.gather emitted byDatagram = [24] ∧ (s.after byDatagram).world.past.written = [24] ∧
      (s.after byDatagram).world.past.sent = []) ∧
    ((∀ o ∈ asked.outcomes byLine, o.result.isOk = true) ∧
      asked.gather read byLine = ask ∧ asked.gather received byLine = [⟨peer, []⟩] ∧
      asked.gather emitted byLine = [24] ∧ (asked.after byLine).world.past.written = [] ∧
      (asked.after byLine).world.past.sent = [⟨peer, [24]⟩]) ∧
    (v.cycle zero).result = .ok () ∧ (v.cycle zero).state.world.past.written = [24] ∧
      (v.cycle zero).state.world.past.sent = [] := by
  decide +kernel

end DifferentialDrive
