import DifferentialDrive.Proofs.Sessions
import DifferentialDrive.Service

/-!
# Services step by step

What passes in each statement of a service and which of its links it keeps (`Service.Goes`), how
its turns come to an end (`Service.Ends`), and how a run does (`Service.Ran`).
-/

namespace DifferentialDrive

namespace Outcome

variable {σ ε β γ : Type} {o : Outcome σ ε β} {f : σ → β → Outcome σ ε γ}

theorem andThen_state {P : σ → Prop} (first : P o.state)
    (next : ∀ b, o.result = .ok b → P (f o.state b).state) : P (o.andThen f).state := by
  unfold andThen
  split
  · next b done => exact next b done
  · exact first

theorem ok_of_andThen {c : γ} (h : (o.andThen f).result = .ok c) :
    ∃ b, o.result = .ok b ∧ o.andThen f = f o.state b := by
  unfold andThen at h ⊢
  split at h
  · next b done => exact ⟨b, done, rfl⟩
  · cases h

end Outcome

namespace Service

variable {β : Type} {P : Past → Passed → Prop} {s t u : Service}

/-! ## What a service keeps -/

/-- A service comes to another one with the same links, and all that passes on the way is allowed by
`P`. -/
structure Goes (P : Past → Passed → Prop) (s t : Service) : Prop where
  steps : World.Steps P s.world t.world
  line : t.line = s.line
  socket : t.socket.isSome = s.socket.isSome

theorem Goes.refl (s : Service) : Goes P s s := ⟨.refl, rfl, rfl⟩

theorem Goes.trans (first : Goes P s t) (second : Goes P t u) : Goes P s u :=
  ⟨first.steps.trans second.steps, second.line.trans first.line,
    second.socket.trans first.socket⟩

/-- A service comes to what an outcome leaves if it comes there by the first part and, behind that,
by the second. -/
theorem Goes.andThen {γ : Type} {o : Outcome Service (Fault Float) β}
    {f : Service → β → Outcome Service (Fault Float) γ} (first : Goes P s o.state)
    (next : ∀ b, o.result = .ok b → Goes P o.state (f o.state b).state) :
    Goes P s (o.andThen f).state :=
  Outcome.andThen_state (P := Goes P s) first fun b done => first.trans (next b done)

theorem goes_request {f : World → Outcome World Strike β}
    (steps : World.Steps P s.world (f s.world).state) : Goes P s (s.request f).state :=
  ⟨steps, rfl, rfl⟩

theorem goes_proceed (statement : ∀ past a, P past (.statement a)) : Goes P s s.proceed.state := by
  unfold proceed
  dsimp only
  split
  · exact goes_request (.single ⟨_, statement _ _, rfl⟩)
  · exact ⟨.single ⟨_, statement _ _, rfl⟩, rfl, rfl⟩

/-- A service behind which more has passed. -/
def passed (s : Service) (new : Past) : Service := { s with world := s.world.after new }

@[simp] theorem passed_sim (s : Service) (new : Past) : (s.passed new).sim = s.sim := rfl

@[simp] theorem gather_passed (s : Service) (new : Past) (f : Passed → List β) :
    (s.passed new).world.past.gather f = s.world.past.gather f ++ new.gather f :=
  Past.gather_append f new s.world.past

/-- A request that the machine answers. -/
theorem request_ok {b : β} {answer : Except Strike β} {f : World → Outcome World Strike β}
    {p : Except Strike β → Passed} (asks : f s.world = s.world.ask answer p)
    (done : (s.request f).result = .ok b) : (s.request f).state = s.passed [p (.ok b)] := by
  simp only [request, onStation, Station.ask, asks, World.ask] at done ⊢
  cases answer with
  | error k => simp [Except.mapError] at done
  | ok c =>
    obtain rfl : c = b := by simpa [Except.mapError] using done
    rfl

theorem proceed_ok (done : s.proceed.result = .ok ()) :
    s.proceed.state = s.passed [.statement (.ok ())] := by
  unfold proceed at done ⊢
  dsimp only at done ⊢
  split
  · next came => exact request_ok rfl came
  · next f refused => simp [refused] at done

/-- On a link a service does what its station does, if there is the link. -/
theorem toStation_onLink (there : Bool) (o : Outcome (Station Float) (Fault Float) β) :
    (s.onLink there o).state.toStation = if there then o.state else s.toStation := by
  unfold onLink
  split
  · exact Outcome.andThen_state (P := fun t : Service => t.toStation = o.state) rfl fun _ _ => rfl
  · rfl

theorem goes_onLink {there : Bool} {o : Outcome (Station Float) (Fault Float) β}
    (line : o.state.line = s.line) (socket : o.state.socket.isSome = s.socket.isSome)
    (steps : World.Steps P s.world o.state.world) : Goes P s (s.onLink there o).state := by
  have same := s.toStation_onLink there o
  split at same
  · exact ⟨same ▸ steps, same ▸ line, same ▸ socket⟩
  · exact ⟨same ▸ .refl, same ▸ rfl, same ▸ rfl⟩

theorem goes_lineIngress (now : Float) (waiting : ∀ past a, P past (.waiting a))
    (read : ∀ past n a, P past (.read n a)) : Goes P s (s.lineIngress now).state := by
  obtain ⟨line, socket⟩ := s.toStation.links_lineIngress now
  exact goes_onLink line (by rw [socket])
    (s.steps_lineIngress now waiting fun past n => read past n _)

theorem goes_socketIngress (now : Float) (receive : ∀ past n ds stop, P past (.receive n ds stop)) :
    Goes P s (s.socketIngress now).state := by
  obtain ⟨ds, stop, -, same⟩ := s.toStation.socketIngress_cases now
  cases linked : s.socket with
  | none =>
    unfold socketIngress onLink
    simpa [linked] using Goes.refl s
  | some k =>
    refine goes_onLink (by rw [same]) ?_
      (s.steps_socketIngress now fun past ds stop _ => receive past _ ds stop)
    cases last : ds.getLast? <;> simp [same, linked, last]

theorem goes_tick (now : Float) : Goes P s (s.tick now).state := ⟨.refl, rfl, rfl⟩

theorem goes_lineEgress (write : ∀ past bytes a, P past (.write bytes a)) :
    Goes P s s.lineEgress.state := by
  obtain ⟨line, socket⟩ := s.toStation.links_lineEgress
  exact goes_onLink line (by rw [socket]) (s.steps_lineEgress write)

theorem goes_socketEgress (send : ∀ past d a, P past (.send d a) ∨ s.sim.robot.telemetry = []) :
    Goes P s s.socketEgress.state := by
  obtain ⟨line, socket⟩ := s.toStation.links_socketEgress
  refine goes_onLink line (by rw [socket]) ?_
  by_cases nothing : s.sim.robot.telemetry = []
  · exact Station.world_socketEgress_of_empty nothing ▸ .refl
  · exact s.steps_socketEgress fun past d a => (send past d a).resolve_right nothing

theorem goes_report (now : Float) : Goes P s (s.report now).state := by
  unfold report
  split
  · dsimp only
    split
    · exact ⟨.refl, rfl, rfl⟩
    · split <;> exact ⟨.refl, rfl, rfl⟩
  · exact .refl s

/-- Statements in turn come to what each of them, done or struck, comes to. -/
theorem inTurn_related {R : Service → Service → Prop} (refl : ∀ s, R s s)
    (trans : ∀ {s t u}, R s t → R t u → R s u) (proceed : ∀ s : Service, R s s.proceed.state)
    (steps : List (Service → Step)) (each : ∀ step ∈ steps, ∀ s, R s (step s).state)
    (s : Service) : R s (s.inTurn steps).state := by
  induction steps generalizing s with
  | nil => exact refl s
  | cons step rest ih =>
    have came := proceed s
    have ran := trans came (each step (by simp) s.proceed.state)
    refine Outcome.andThen_state (P := R s) came fun _ _ => ?_
    refine Outcome.andThen_state (P := R s) ran fun _ _ => ?_
    exact trans ran (ih (fun f among => each f (by simp [among])) _)

theorem goes_inTurn (statement : ∀ past a, P past (.statement a)) (steps : List (Service → Step))
    (each : ∀ step ∈ steps, ∀ s, Goes P s (step s).state) : Goes P s (s.inTurn steps).state :=
  inTurn_related .refl .trans (fun _ => goes_proceed statement) steps each s

/-- Of statements that are all done the first is done, and the others behind it. -/
theorem inTurn_ok {step : Service → Step} {rest : List (Service → Step)}
    (done : (s.inTurn (step :: rest)).result = .ok ()) :
    let t := s.passed [.statement (.ok ())]
    (step t).result = .ok () ∧ s.inTurn (step :: rest) = (step t).state.inTurn rest := by
  obtain ⟨_, came, first⟩ := Outcome.ok_of_andThen done
  rw [proceed_ok came] at first
  have whole : s.inTurn (step :: rest) =
      (step (s.passed [.statement (.ok ())])).andThen fun s _ => s.inTurn rest := first
  rw [whole] at done ⊢
  obtain ⟨_, ran, same⟩ := Outcome.ok_of_andThen done
  exact ⟨ran, same⟩

/-! ## Turns -/

/-- What may pass in the turns of a service: no link is turned, and where there is a line nothing is
sent. -/
def Pumped (line : Bool) (_ : Past) (p : Passed) : Prop :=
  p.turnsLink = false ∧ (line = true → p.sent = [])

/-- Where there is a line, nothing is left when it has been written to. -/
theorem telemetry_lineEgress (line : s.line = true) :
    s.lineEgress.state.sim.robot.telemetry = [] := by
  have same := s.toStation_onLink s.line s.toStation.lineEgress
  rw [if_pos line] at same
  rw [lineEgress, same, s.toStation.sim_lineEgress]
  rfl

variable {line : Bool}

theorem pumped_proceed : Goes (Pumped line) s s.proceed.state :=
  goes_proceed fun _ _ => ⟨rfl, fun _ => rfl⟩

theorem pumped_intake (now : Float) : Goes (Pumped line) s (s.intake now).state := by
  refine goes_inTurn (fun _ _ => ⟨rfl, fun _ => rfl⟩) _ fun step among s => ?_
  obtain rfl | rfl := by simpa using among
  · exact goes_lineIngress now (fun _ _ => ⟨rfl, fun _ => rfl⟩) fun _ _ _ => ⟨rfl, fun _ => rfl⟩
  · exact goes_socketIngress now fun _ _ _ _ => ⟨rfl, fun _ => rfl⟩

/-- The line is written to before anything is sent, so with a line nothing is left to send. -/
theorem pumped_egress (same : s.line = line) (now : Float) :
    Goes (Pumped line) s (s.inTurn [lineEgress, socketEgress, (·.report now)]).state := by
  refine pumped_proceed.andThen fun _ _ => ?_
  have came : Goes (Pumped line) s s.proceed.state := pumped_proceed
  have kept := came.line.trans same
  generalize s.proceed.state = s at kept
  refine (goes_lineEgress fun _ _ _ => ⟨rfl, fun _ => rfl⟩).andThen fun _ _ => ?_
  have empty := telemetry_lineEgress (s := s)
  rw [kept] at empty
  generalize s.lineEgress.state = s at empty
  refine pumped_proceed.andThen fun _ came => ?_
  have left : s.proceed.state.sim = s.sim := by
    rw [proceed_ok came]
    rfl
  rw [← left] at empty
  refine (goes_socketEgress fun _ _ _ => ?_).andThen fun _ _ => ?_
  · cases line with
    | false => exact .inl ⟨rfl, nofun⟩
    | true => exact .inr (empty rfl)
  · exact pumped_proceed.andThen fun _ _ => (goes_report now).andThen fun _ _ => .refl _

/-- A cycle, refused or not, turns no link, and with a line it sends nothing. -/
theorem pumped_cycle (s : Service) (now : Float) :
    Goes (Pumped s.line) s (s.cycle now).state := by
  have fed : Goes (Pumped s.line) s (s.intake now).state := pumped_intake now
  have kept : Goes (Pumped s.line) (s.intake now).state (s.intake now).state.proceed.state :=
    pumped_proceed
  refine fed.andThen fun _ _ => kept.andThen fun _ _ =>
    (goes_tick now).andThen fun _ _ => pumped_egress ?_ now
  exact kept.line.trans fed.line

theorem pumped_clock : Goes (Pumped line) s (s.request World.clock).state :=
  goes_request (.single ⟨_, ⟨rfl, fun _ => rfl⟩, rfl⟩)

theorem pumped_sleep (time : Float) : Goes (Pumped line) s (s.request (·.sleep time)).state :=
  goes_request (.single ⟨_, ⟨rfl, fun _ => rfl⟩, rfl⟩)

theorem pumped_turn (s : Service) (limit : Limit) (start : Float) :
    Goes (Pumped s.line) s (s.turn limit start).state := by
  unfold turn
  split
  · refine pumped_clock.andThen fun now _ => ?_
    split
    · exact .refl _
    · exact .refl _
    · have cycled : Goes (Pumped s.line) _ _ := pumped_cycle (s.request World.clock).state now
      refine cycled.andThen fun _ _ => pumped_clock.andThen fun done _ => ?_
      dsimp only
      split
      · exact (pumped_sleep _).andThen fun _ _ => .refl _
      · exact .refl _
  · exact .refl s

/-! ## The loop -/

/-- How the turns of a service come to an end. -/
inductive Ends (limit : Limit) (start : Float) : Service → Step → Prop where
  /-- A turn is the last: the time is over, or the simulation does not run. -/
  | last {s t : Service} : s.turn limit start = ⟨t, .ok false⟩ → Ends limit start s ⟨t, .ok ()⟩
  | refused {s t : Service} {f : Fault Float} :
    s.turn limit start = ⟨t, .error f⟩ → Ends limit start s ⟨t, .error f⟩
  | next {s t : Service} {o : Step} :
    s.turn limit start = ⟨t, .ok true⟩ → Ends limit start t o → Ends limit start s o

/-- What the turns of a service come to is how they end; without an end they come to nothing. -/
theorem loop_eq_some_iff {limit : Limit} {start : Float} {s : Service} {o : Step} :
    s.loop limit start = some o ↔ Ends limit start s o := by
  constructor
  · refine loop.partial_correctness Ends ?_ limit start s o
    intro loop ih limit start s o result
    split at result
    · next turned =>
      cases result
      exact .refused turned
    · next turned =>
      cases result
      exact .last turned
    · next turned => exact .next turned (ih _ _ _ _ result)
  · intro ends
    induction ends with
    | last turned => rw [loop, turned]
    | refused turned => rw [loop, turned]
    | next turned _ ih =>
      rw [loop, turned]
      exact ih

theorem Ends.pumped {limit : Limit} {start : Float} {s : Service} {o : Step}
    (ends : Ends limit start s o) : Goes (Pumped s.line) s o.state := by
  have one {s t : Service} {r} (turned : s.turn limit start = ⟨t, r⟩) :
      Goes (Pumped s.line) s t := by
    simpa [turned] using pumped_turn s limit start
  induction ends with
  | last turned => exact one turned
  | refused turned => exact one turned
  | next turned _ ih => exact (one turned).trans ((one turned).line ▸ ih)

/-! ## The end of a run -/

theorem goes_closeLine (close : ∀ past a, P past (.closeLine a)) : Goes P s s.closeLine.state :=
  goes_onLink s.toStation.closeLine_kept.2.2
    (congrArg Option.isSome s.toStation.closeLine_kept.2.1) (s.toStation.steps_closeLine close)

theorem goes_closeSocket (close : ∀ past a, P past (.closeSocket a)) :
    Goes P s s.closeSocket.state :=
  goes_onLink rfl rfl (.single ⟨_, close _ _, rfl⟩)

theorem goes_settle {o : Step} (statement : ∀ past a, P past (.statement a)) :
    Goes P o.state (settle o).state := by
  unfold settle
  split
  · refine goes_inTurn statement _ fun step among s => ?_
    obtain rfl := by simpa using among
    exact ⟨.refl, rfl, rfl⟩
  · exact .refl _

theorem goes_finish (statement : ∀ past a, P past (.statement a))
    (line : ∀ past a, P past (.closeLine a)) (socket : ∀ past a, P past (.closeSocket a)) :
    Goes P s s.finish.state := by
  refine goes_inTurn statement _ fun step among s => ?_
  obtain rfl | rfl | rfl := by simpa using among
  · exact ⟨.refl, rfl, rfl⟩
  · exact goes_closeLine line
  · exact goes_closeSocket socket

theorem goes_wrapUp {o : Step} (statement : ∀ past a, P past (.statement a))
    (line : ∀ past a, P past (.closeLine a)) (socket : ∀ past a, P past (.closeSocket a)) :
    Goes P o.state (wrapUp o).state :=
  ((goes_settle statement).trans (goes_finish statement line socket)).andThen fun _ _ => .refl _

/-! ## Opening the links -/

/-- What may pass while the links are opened. -/
def Opening (_ : Past) : Passed → Prop
  | .statement _ | .openLine .. | .openSocket _ | .bind .. | .address _ => True
  | _ => False

/-- A service comes to another one by what passes while the links are opened. -/
structure Opens (s t : Service) : Prop where
  steps : World.Steps Opening s.world t.world
  running : t.sim.running = s.sim.running

theorem Opens.refl (s : Service) : Opens s s := ⟨.refl, rfl⟩

theorem Opens.trans (first : Opens s t) (second : Opens t u) : Opens s u :=
  ⟨first.steps.trans second.steps, second.running.trans first.running⟩

theorem opens_request {f : World → Outcome World Strike β}
    (steps : World.Steps Opening s.world (f s.world).state) : Opens s (s.request f).state :=
  ⟨steps, rfl⟩

theorem opens_proceed : Opens s s.proceed.state := by
  unfold proceed
  dsimp only
  split
  · exact opens_request (.single ⟨.statement _, trivial, rfl⟩)
  · exact ⟨.single ⟨.statement _, trivial, rfl⟩, rfl⟩

theorem opens_asSet {setting : Except Failure (Option β)} {steps : β → List (Service → Step)}
    (each : ∀ b, ∀ step ∈ steps b, ∀ s, Opens s (step s).state) :
    Opens s (s.asSet setting steps).state := by
  unfold asSet
  split
  · exact .refl s
  · exact .refl s
  · next b => exact inTurn_related .refl .trans (fun _ => opens_proceed) _ (each b) s

/-- An announcement changes nothing but the journal. -/
theorem announceLine_kept (l : LineSettings) :
    let t := (s.announceLine l).state
    t.world = s.world ∧ t.line = s.line ∧ t.socket = s.socket ∧
      t.sim.running = s.sim.running := by
  unfold announceLine
  split <;> exact ⟨rfl, rfl, rfl, rfl⟩

theorem opens_openLine (cfg : Document.Value) : Opens s (s.openLine cfg).state := by
  refine opens_asSet fun l step among s => ?_
  obtain rfl | rfl := by simpa using among
  · have asked : Opens s (s.request (·.openLine l)).state :=
      opens_request (.single ⟨.openLine l _, trivial, rfl⟩)
    exact Outcome.andThen_state (P := Opens s) asked fun _ _ => asked.trans ⟨.refl, rfl⟩
  · obtain ⟨world, -, -, running⟩ := s.announceLine_kept l
    exact ⟨world ▸ .refl, running⟩

theorem opens_openSocket (cfg : Document.Value) : Opens s (s.openSocket cfg).state := by
  refine opens_asSet fun a step among s => ?_
  obtain rfl | rfl | rfl := by simpa using among
  · exact opens_request (.single ⟨.openSocket _, trivial, rfl⟩)
  · have asked : Opens s (s.request (·.bind a)).state :=
      opens_request (.single ⟨.bind a _, trivial, rfl⟩)
    exact Outcome.andThen_state (P := Opens s) asked fun _ _ => asked.trans ⟨.refl, rfl⟩
  · have asked : Opens s (s.request World.address).state :=
      opens_request (.single ⟨.address _, trivial, rfl⟩)
    exact Outcome.andThen_state (P := Opens s) asked fun _ _ => asked.trans ⟨.refl, rfl⟩

theorem opens_openLinks (cfg : Document.Value) : Opens s (s.openLinks cfg).state :=
  Outcome.andThen_state (P := Opens s) (opens_openLine cfg) fun _ _ =>
    (opens_openLine cfg).trans (opens_openSocket cfg)

theorem goes_start (statement : ∀ past a, P past (.statement a)) (now : Float) :
    Goes P s (s.start now).state := by
  refine Goes.andThen ?_ fun _ _ => goes_proceed statement
  refine goes_inTurn statement _ fun step among s => ?_
  obtain rfl := by simpa using among
  exact ⟨.refl, rfl, rfl⟩

theorem opens_of_openLinks {cfg : Document.Value} {x : Except Failure Unit}
    (opened : s.openLinks cfg = ⟨t, x⟩) : Opens s t := by
  have opens := opens_openLinks (s := s) cfg
  rwa [opened] at opens

/-- What passes until the turns begin. -/
theorem steps_begun {cfg : Document.Value} {now : Float} {x : Except (Fault Float) Unit}
    (opened : s.openLinks cfg = ⟨t, .ok ()⟩) (started : t.start now = ⟨u, x⟩) :
    World.Steps Opening s.world u.world := by
  have goes := goes_start (P := Opening) (s := t) (fun _ _ => trivial) now
  rw [started] at goes
  exact (opens_of_openLinks opened).steps.trans goes.steps

/-! ## Runs -/

/-- A service as it is built: at rest and without links, when the clock has been read and nothing
else has passed. -/
structure Built (m : Machine) (cfg : Document.Value) (s : Service) : Prop where
  built : build { machine := m } cfg = ⟨s.world, .ok s⟩
  world : s.world = { machine := m, past := [.clock (.ok s.statusAt)] }
  line : s.line = false
  socket : s.socket = none
  running : s.sim.running = false

theorem running_simulation {cfg : Document.Value} {now : Float} {sim : Simulation Float}
    (described : Config.simulation cfg now = .ok sim) : sim.running = false := by
  unfold Config.simulation at described
  iterate 6 obtain ⟨_, -, described⟩ := ok_of_bind described
  cases described
  rfl

/-- A service is built, or it is refused when at most the clock has been read. -/
theorem build_cases (m : Machine) (cfg : Document.Value) :
    (∃ w f, build { machine := m } cfg = ⟨w, .error f⟩ ∧ ∀ p ∈ w.past, ∃ a, p = .clock a) ∨
    ∃ s, Built m cfg s := by
  let read : World := { machine := m, past := [.clock (m.clock [])] }
  cases rates : Config.intervals cfg with
  | error f => exact .inl ⟨{ machine := m }, f, by simp [build, rates], by simp⟩
  | ok intervals =>
    cases clock : m.clock [] with
    | error k =>
      refine .inl ⟨read, .fault (.struck k), ?_, by simp [read]⟩
      simp [build, rates, World.clock, World.ask, World.note, read, clock]
    | ok start =>
      cases described : Config.simulation cfg start with
      | error f =>
        refine .inl ⟨read, f, ?_, by simp [read]⟩
        simp [build, rates, World.clock, World.ask, World.note, read, clock, described]
      | ok sim =>
        let s : Service := { sim, world := read, statusAt := start, intervals }
        refine .inr ⟨s, ?_, by simp [s, read, clock], rfl, rfl, running_simulation described⟩
        simp [build, rates, World.clock, World.ask, World.note, s, read, clock, described]

/-- How a run ends: nothing is built, or a link does not open, or the program is struck behind that,
or the turns come to an end. -/
inductive Ran (m : Machine) (cfg : Document.Value) (limit : Limit) : Run → Prop where
  | unbuilt {w : World} {f : Failure} :
    build { machine := m } cfg = ⟨w, .error f⟩ → (∀ p ∈ w.past, ∃ a, p = .clock a) →
    Ran m cfg limit { world := w, failure := some f }
  | unopened {s t : Service} {f : Failure} :
    Built m cfg s → s.openLinks cfg = ⟨t, .error f⟩ →
    Ran m cfg limit { world := t.world, service := some t, failure := some f }
  | unstarted {s t u : Service} {f : Fault Float} :
    Built m cfg s → s.openLinks cfg = ⟨t, .ok ()⟩ → t.start s.statusAt = ⟨u, .error f⟩ →
    Ran m cfg limit (.ofStep ⟨u, .error f⟩)
  | ended {s t u : Service} {o : Step} :
    Built m cfg s → s.openLinks cfg = ⟨t, .ok ()⟩ → t.start s.statusAt = ⟨u, .ok ()⟩ →
    Ends limit s.statusAt u o → Ran m cfg limit (.ofStep (wrapUp o))

/-- What a run leaves is what it leaves in one of these ways; a run without end leaves nothing. -/
theorem run_eq_some_iff {m : Machine} {cfg : Document.Value} {limit : Limit} {r : Run} :
    run m cfg limit = some r ↔ Ran m cfg limit r := by
  constructor
  · intro ran
    unfold run at ran
    obtain ⟨w, f, refused, early⟩ | ⟨s, built⟩ := build_cases m cfg
    · rw [refused] at ran
      cases ran
      exact .unbuilt refused early
    · rw [built.built] at ran
      dsimp only at ran
      split at ran
      · next refused =>
        cases ran
        exact .unopened built refused
      · next opened =>
        split at ran
        · next struck =>
          cases ran
          exact .unstarted built opened struck
        · next started =>
          obtain ⟨o, ends, rfl⟩ := Option.map_eq_some_iff.1 ran
          exact .ended built opened started (loop_eq_some_iff.1 ends)
  · rintro (⟨refused, -⟩ | ⟨built, refused⟩ | ⟨built, opened, struck⟩ |
      ⟨built, opened, started, ends⟩)
    · simp [run, refused]
    · simp [run, built.built, refused]
    · simp [run, built.built, opened, struck]
    · simp [run, built.built, opened, started, loop_eq_some_iff.2 ends]

end Service

end DifferentialDrive
