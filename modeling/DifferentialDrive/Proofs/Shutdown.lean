import DifferentialDrive.Machine.Fed
import DifferentialDrive.Proofs.Services

/-!
# The end of a run

A run whose turns have begun ends with its simulation stopped and its links closed, in whichever
way the turns come to their end (`Service.Ends`), and fails as they do. Nothing of the kind is done
where a link is refused: what had been opened by then stays open (`Service.run_closes`).
-/

namespace DifferentialDrive

/-- Closing a link is never refused. -/
structure Machine.Closes (m : Machine) : Prop where
  line : ∀ past, m.port.closes past = .ok ()
  socket : ∀ past, m.net.closes past = .ok ()

/-- A fault that the machine strikes the program with on its way to a statement. -/
def Machine.Strikes (m : Machine) (f : Fault Float) : Prop :=
  ∃ past k, m.statement past = .error k ∧ f = .struck k

namespace Past

/-- Whatever has been opened is still open. -/
structure LeftOpen (past : Past) : Prop where
  line : ∀ l, .openLine l (.ok ()) ∈ past → past.lineOpen = true
  socket : .openSocket (.ok ()) ∈ past → past.socketOpen = true

/-- No link is open. -/
structure Closed (past : Past) : Prop where
  line : past.lineOpen = false
  socket : past.socketOpen = false

/-- The links that a configuration asks for have been opened. -/
structure Opened (cfg : Document.Value) (past : Past) : Prop where
  line : ∀ l, Config.line cfg = .ok (some l) → .openLine l (.ok ()) ∈ past
  socket : ∀ a, Config.address cfg = .ok (some a) →
    .openSocket (.ok ()) ∈ past ∧ .bind a (.ok ()) ∈ past

theorem Opened.after {cfg : Document.Value} {past : Past} (opened : past.Opened cfg) (new : Past) :
    Past.Opened cfg (new ++ past) where
  line l set := List.mem_append_right _ (opened.line l set)
  socket a set := (opened.socket a set).imp (List.mem_append_right _) (List.mem_append_right _)

end Past

namespace Service

variable {m : Machine} {cfg : Document.Value} {s t u : Service} {f : Fault Float}

/-! ## Opening the links -/

theorem open_of_opening {p : Passed} {past : Past} (opening : Opening past p) :
    (past.lineOpen = true → Past.lineOpen (p :: past) = true) ∧
      (past.socketOpen = true → Past.socketOpen (p :: past) = true) := by
  cases p with
  | openLine l answer => cases answer <;> simp [Past.lineOpen, Past.socketOpen]
  | openSocket answer => cases answer <;> simp [Past.lineOpen, Past.socketOpen]
  | statement | bind | address => exact ⟨id, id⟩
  | _ => cases opening

/-- While the links are opened, whatever has been opened stays open. -/
theorem leftOpen_of_opening {w w' : World} (h : World.Steps Opening w w')
    (before : w.past.LeftOpen) : w'.past.LeftOpen := by
  induction h with
  | refl => exact before
  | tail _ step ih =>
    obtain ⟨p, opening, rfl⟩ := step
    obtain ⟨line, socket⟩ := open_of_opening opening
    constructor
    · intro l among
      obtain rfl | among := List.mem_cons.1 among
      · rfl
      · exact line (ih.line l among)
    · intro among
      obtain rfl | among := List.mem_cons.1 among
      · rfl
      · exact socket (ih.socket among)

theorem Built.leftOpen (built : Built m cfg s) (h : World.Steps Opening s.world t.world) :
    t.world.past.LeftOpen := by
  refine leftOpen_of_opening h ?_
  rw [built.world]
  exact ⟨by simp, by simp⟩

/-- A service has the links that are open. -/
structure Held (s : Service) : Prop where
  line : s.world.past.lineOpen = true → s.line = true
  socket : s.world.past.socketOpen = true → s.socket.isSome = true

theorem Held.goes {P : Past → Passed → Prop} (held : Held s) (goes : Goes P s t)
    (others : ∀ past p, P past p → p.turnsLink = false) : Held t := by
  obtain ⟨line, socket⟩ := goes.steps.open_eq others
  exact ⟨by simpa [line, goes.line] using held.line,
    by simpa [socket, goes.socket] using held.socket⟩

/-- A setting that is not refused is none, or what it asks for is done. -/
theorem asSet_ok {β : Type} {setting : Except Failure (Option β)}
    {steps : β → List (Service → Step)} (done : (s.asSet setting steps).result = .ok ()) :
    (setting = .ok none ∧ (s.asSet setting steps).state = s) ∨
    ∃ b, setting = .ok (some b) ∧ (s.inTurn (steps b)).result = .ok () ∧
      (s.asSet setting steps).state = (s.inTurn (steps b)).state := by
  unfold asSet at done ⊢
  split at done
  · cases done
  · exact .inl ⟨rfl, rfl⟩
  · next b =>
    refine .inr ⟨b, rfl, ?_, rfl⟩
    cases result : (s.inTurn (steps b)).result with
    | ok _ => rfl
    | error f => simp [result, Except.mapError] at done

theorem openPort_ok {l : LineSettings} (done : (s.openPort l).result = .ok ()) :
    (s.openPort l).state =
      { s.passed [.openLine l (.ok ())] with line := true } := by
  obtain ⟨_, asked, same⟩ := Outcome.ok_of_andThen done
  rw [openPort, same, request_ok rfl asked]

theorem bindSocket_ok {a : AddressSettings} (done : (s.bindSocket a).result = .ok ()) :
    (s.bindSocket a).state =
      { s.passed [.bind a (.ok ())] with socket := some {} } := by
  obtain ⟨_, asked, same⟩ := Outcome.ok_of_andThen done
  rw [bindSocket, same, request_ok rfl asked]

theorem announceSocket_ok (done : s.announceSocket.result = .ok ()) :
    ∃ a, s.announceSocket.state =
      (s.passed [.address (.ok a)]).note (.socketOpened a.host a.number) := by
  obtain ⟨a, asked, same⟩ := Outcome.ok_of_andThen done
  exact ⟨a, by rw [announceSocket, same, request_ok rfl asked]⟩

/-- No line is asked for, or it has been opened and the service has it. -/
theorem openLine_ok (done : (s.openLine cfg).result = .ok ()) :
    let t := (s.openLine cfg).state
    (Config.line cfg = .ok none ∧ t = s) ∨
    ∃ l, Config.line cfg = .ok (some l) ∧ t.line = true ∧ t.socket = s.socket ∧
      t.world.past =
        [.statement (.ok ()), .openLine l (.ok ()), .statement (.ok ())] ++ s.world.past := by
  obtain ⟨off, same⟩ | ⟨l, on, done, same⟩ := asSet_ok done
  · exact .inl ⟨off, same⟩
  · refine .inr ⟨l, on, ?_⟩
    obtain ⟨opened, first⟩ := inTurn_ok done
    rw [first, openPort_ok opened] at done
    obtain ⟨-, second⟩ := inTurn_ok done
    rw [openLine, same, first, openPort_ok opened, second]
    obtain ⟨world, line, socket, -⟩ := announceLine_kept (s := passed _ _) l
    exact ⟨line, socket, congrArg World.past world⟩

/-- No socket is asked for, or it has been opened and bound and the service has it. -/
theorem openSocket_ok (done : (s.openSocket cfg).result = .ok ()) :
    let t := (s.openSocket cfg).state
    (Config.address cfg = .ok none ∧ t = s) ∨
    ∃ a b, Config.address cfg = .ok (some a) ∧ t.line = s.line ∧ t.socket.isSome = true ∧
      t.world.past =
        [.address (.ok b), .statement (.ok ()), .bind a (.ok ()), .statement (.ok ()),
          .openSocket (.ok ()), .statement (.ok ())] ++ s.world.past := by
  obtain ⟨off, same⟩ | ⟨a, on, done, same⟩ := asSet_ok done
  · exact .inl ⟨off, same⟩
  · obtain ⟨opened, first⟩ := inTurn_ok done
    rw [first, createSocket, request_ok rfl opened] at done
    obtain ⟨bound, second⟩ := inTurn_ok done
    rw [second, bindSocket_ok bound] at done
    obtain ⟨announced, third⟩ := inTurn_ok done
    obtain ⟨b, said⟩ := announceSocket_ok announced
    refine .inr ⟨a, b, on, ?_⟩
    rw [openSocket, same, first, createSocket, request_ok rfl opened, second, bindSocket_ok bound,
      third, said]
    exact ⟨rfl, rfl, rfl⟩

/-- When all links have opened, the service has those that are open, and they are what is asked
for. -/
theorem Built.openLinks_ok (built : Built m cfg s) (opened : s.openLinks cfg = ⟨t, .ok ()⟩) :
    Held t ∧ t.world.past.Opened cfg := by
  have done : (s.openLinks cfg).result = .ok () := by rw [opened]
  obtain ⟨_, lineDone, next⟩ := Outcome.ok_of_andThen done
  have whole : s.openLinks cfg = (s.openLine cfg).state.openSocket cfg := next
  rw [whole] at done opened
  have before : s.world.past = [.clock (.ok s.statusAt)] := by rw [built.world]
  obtain ⟨has, noSocket, line⟩ : ((s.openLine cfg).state.world.past.lineOpen = true →
        (s.openLine cfg).state.line = true) ∧
      (s.openLine cfg).state.world.past.socketOpen = false ∧
      ∀ l, Config.line cfg = .ok (some l) →
        .openLine l (.ok ()) ∈ (s.openLine cfg).state.world.past := by
    obtain ⟨off, same⟩ | ⟨l, on, there, -, past⟩ := openLine_ok lineDone
    · simp [same, before, off, Past.lineOpen, Past.socketOpen]
    · simp [there, past, before, on, Past.socketOpen]
  generalize (s.openLine cfg).state = l at *
  obtain rfl : t = (l.openSocket cfg).state := by rw [opened]
  obtain ⟨off, same⟩ | ⟨a, b, on, sameLine, there, past⟩ := openSocket_ok done
  · rw [same]
    exact ⟨⟨has, by simp [noSocket]⟩, line, by simp [off]⟩
  · refine ⟨⟨?_, fun _ => there⟩, fun l set => ?_, ?_⟩
    · simpa [sameLine, past, Past.lineOpen] using has
    · simp [past, line l set]
    · simp [on, past]

/-! ## Closing the links -/

@[simp] theorem passed_nil (s : Service) : s.passed [] = s := rfl

/-- Behind it the line is not open. -/
theorem closeLine_closes (closes : s.world.machine.Closes) :
    ∃ new, s.closeLine = ⟨s.passed new, .ok ()⟩ ∧ (Held s →
      (s.passed new).world.past.lineOpen = false ∧
      (s.passed new).world.past.socketOpen = s.world.past.socketOpen) := by
  cases line : s.line with
  | false =>
    refine ⟨[], by simp [closeLine, onLink, line], fun held => ⟨?_, rfl⟩⟩
    simpa [line] using held.line
  | true =>
    cases isOpen : s.world.past.lineOpen with
    | false =>
      refine ⟨[], ?_, fun _ => ⟨isOpen, rfl⟩⟩
      simp [closeLine, onLink, line, Station.closeLine, isOpen, onStation]
    | true =>
      refine ⟨[.closeLine (.ok ())], ?_, fun _ => ⟨rfl, rfl⟩⟩
      simp [closeLine, onLink, line, Station.closeLine, isOpen, onStation, Station.ask,
        World.closeLine, World.ask, closes.line, Except.mapError, passed, World.after, World.note]

/-- Behind it the socket is not open. -/
theorem closeSocket_closes (closes : s.world.machine.Closes) :
    ∃ new, s.closeSocket = ⟨s.passed new, .ok ()⟩ ∧ (Held s →
      (s.passed new).world.past.socketOpen = false ∧
      (s.passed new).world.past.lineOpen = s.world.past.lineOpen) := by
  cases linked : s.socket.isSome with
  | false =>
    refine ⟨[], by simp [closeSocket, onLink, linked], fun held => ⟨?_, rfl⟩⟩
    simpa [linked] using held.socket
  | true =>
    refine ⟨[.closeSocket (.ok ())], ?_, fun _ => ⟨rfl, rfl⟩⟩
    simp [closeSocket, onLink, linked, onStation, Station.ask, World.closeSocket, World.ask,
      closes.socket, Except.mapError, passed, World.after, World.note]

/-- A service that comes to its end has its simulation stopped and its links closed. -/
theorem finish_closes (closes : s.world.machine.Closes) (held : Held s)
    (done : s.finish.result = .ok ()) :
    s.finish.state.sim.running = false ∧ s.finish.state.world.past.Closed := by
  unfold finish at done ⊢
  obtain ⟨-, first⟩ := inTurn_ok done
  rw [first] at done ⊢
  obtain ⟨-, second⟩ := inTurn_ok done
  rw [second] at done ⊢
  obtain ⟨-, third⟩ := inTurn_ok done
  rw [third]
  let stopped : Service := (stop (s.passed [.statement (.ok ())])).state
  obtain ⟨new, closed, line⟩ := closeLine_closes (s := stopped.passed [.statement (.ok ())]) closes
  obtain ⟨lineClosed, still⟩ := line ⟨held.line, held.socket⟩
  let left : Service := (stopped.passed [.statement (.ok ())]).passed new
  have holds : Held (left.passed [.statement (.ok ())]) := by
    refine ⟨fun isOpen => absurd (lineClosed.symm.trans isOpen) (by simp), fun isOpen => ?_⟩
    exact held.socket (still.symm.trans isOpen)
  obtain ⟨new', closed', socket⟩ :=
    closeSocket_closes (s := left.passed [.statement (.ok ())]) closes
  obtain ⟨socketClosed, still'⟩ := socket holds
  have behind : (stop (s.passed [.statement (.ok ())])).state = stopped := rfl
  have last : (⟨left, .ok ()⟩ : Step).state = left := rfl
  rw [behind, closed, last, closed']
  exact ⟨rfl, still'.trans lineClosed, socketClosed⟩

/-! ## Strikes -/

theorem proceed_strikes (failed : s.proceed.result = .error f) : s.world.machine.Strikes f := by
  cases answer : s.world.machine.statement s.world.past with
  | ok _ =>
    simp [proceed, request, onStation, Station.ask, World.statement, World.ask, answer,
      Except.mapError] at failed
  | error k =>
    refine ⟨_, k, answer, ?_⟩
    simpa [proceed, request, onStation, Station.ask, World.statement, World.ask, answer,
      Except.mapError] using failed.symm

/-- Statements of which none is refused are ended only by a strike. -/
theorem inTurn_strikes {steps : List (Service → Step)}
    (sure : ∀ step ∈ steps, ∀ s : Service, s.world.machine = m →
      (step s).result = .ok () ∧ (step s).state.world.machine = m)
    (on : s.world.machine = m) (failed : (s.inTurn steps).result = .error f) : m.Strikes f := by
  induction steps generalizing s with
  | nil => cases failed
  | cons step rest ih =>
    cases came : s.proceed.result with
    | error g =>
      obtain rfl : g = f := by simpa [inTurn, Outcome.andThen, came] using failed
      exact on ▸ proceed_strikes came
    | ok _ =>
      obtain ⟨done, kept⟩ := sure step (by simp) (s.passed [.statement (.ok ())]) on
      refine ih (fun step among => sure step (by simp [among])) kept ?_
      simpa [inTurn, Outcome.andThen, came, proceed_ok came, done] using failed

theorem finish_strikes (closes : m.Closes) (on : s.world.machine = m)
    (failed : s.finish.result = .error f) : m.Strikes f := by
  refine inTurn_strikes (fun step among s on => ?_) on failed
  subst on
  obtain rfl | rfl | rfl := by simpa using among
  · exact ⟨rfl, rfl⟩
  · obtain ⟨new, same, -⟩ := s.closeLine_closes closes
    rw [same]
    exact ⟨rfl, rfl⟩
  · obtain ⟨new, same, -⟩ := s.closeSocket_closes closes
    rw [same]
    exact ⟨rfl, rfl⟩

/-- Why a run fails whose turns have come to an end: an interruption is no failure. -/
def failureOf (o : Step) : Option Failure :=
  match o.result with
  | .ok () | .error (.struck .interrupted) => none
  | .error f => some (.fault f)

/-- An interruption is noted unless the program is struck again. -/
theorem settle_failure {o : Step} (on : o.state.world.machine = m) :
    (Run.ofStep (settle o)).failure = failureOf o ∨
      ∃ f, m.Strikes f ∧ (settle o).result = .error f := by
  unfold settle failureOf
  split
  · next interrupted =>
    generalize noted : o.state.inTurn _ = n
    cases result : n.result with
    | ok _ => exact .inl (by simp [Run.ofStep, result, interrupted])
    | error f =>
      refine .inr ⟨f, inTurn_strikes (fun step among s on => ?_) on (noted ▸ result), rfl⟩
      obtain rfl := by simpa using among
      exact ⟨rfl, on⟩
  · next other =>
    left
    cases result : o.result with
    | ok _ => simp [Run.ofStep, result]
    | error f =>
      simp only [Run.ofStep, result]
      split <;> simp_all

/-- However its turns come to their end, a run stops its simulation and closes its links, and fails
as they do, unless the program is struck in that. -/
theorem wrapUp_closes {o : Step} (closes : m.Closes) (on : o.state.world.machine = m)
    (held : Held o.state) :
    let r := Run.ofStep (wrapUp o)
    (r.failure = failureOf o ∨ ∃ f, m.Strikes f ∧ r.failure = some (.fault f)) ∧
    ((wrapUp o).state.sim.running = false ∧ r.world.past.Closed ∨
      ∃ f, m.Strikes f ∧ (settle o).state.finish.result = .error f) := by
  have settled : Goes (fun _ p => p.turnsLink = false) o.state (settle o).state :=
    goes_settle fun _ _ => rfl
  have machine : (settle o).state.world.machine = m := settled.steps.machine.trans on
  have has : Held (settle o).state := held.goes settled fun _ _ => id
  cases done : (settle o).state.finish.result with
  | error f =>
    have strikes := finish_strikes closes machine done
    have same : wrapUp o = ⟨(settle o).state.finish.state, .error f⟩ := by
      simp [wrapUp, Outcome.andThen, done]
    rw [same]
    exact ⟨.inr ⟨f, strikes, rfl⟩, .inr ⟨f, strikes, rfl⟩⟩
  | ok _ =>
    obtain ⟨stopped, closed⟩ := finish_closes (machine ▸ closes) has done
    have same : wrapUp o = ⟨(settle o).state.finish.state, (settle o).result⟩ := by
      simp [wrapUp, Outcome.andThen, done]
    rw [same]
    refine ⟨?_, .inl ⟨stopped, closed⟩⟩
    obtain failure | ⟨f, strikes, noted⟩ := settle_failure on
    · exact .inl failure
    · exact .inr ⟨f, strikes, by simp [Run.ofStep, noted]⟩

/-! ## Runs -/

/-- Starting is not refused but by a strike. -/
theorem start_strikes {now : Float} (on : s.world.machine = m)
    (struck : s.start now = ⟨t, .error f⟩) : m.Strikes f := by
  have failed : (s.start now).result = .error f := by rw [struck]
  let begin : Service → Step := fun s => ⟨{ s with sim := s.sim.start now }, .ok ()⟩
  have sure : ∀ step ∈ [begin], ∀ s : Service, s.world.machine = m →
      (step s).result = .ok () ∧ (step s).state.world.machine = m := fun step among s on => by
    obtain rfl := by simpa using among
    exact ⟨rfl, on⟩
  cases begun : (s.inTurn [begin]).result with
  | error g =>
    obtain rfl : g = f := by simpa [start, Outcome.andThen, begin, begun] using failed
    exact inTurn_strikes sure on begun
  | ok _ =>
    obtain ⟨-, same⟩ := inTurn_ok begun
    have came : (s.inTurn [begin]).state.proceed.result = .error f := by
      simpa [start, Outcome.andThen, begin, begun] using failed
    rw [same] at came
    have strikes := proceed_strikes came
    exact on ▸ strikes

/-- A run of which nothing is built opens no link, and fails as the building does. If a link is
refused, or the program is struck before its turns begin, the run fails with that, and whatever has
been opened by then is left open. Otherwise all links that are asked for have been opened, and
whichever way the turns come to their end, the simulation is stopped, all links are closed and the
run fails as its turns do, unless the program is struck in that: an interruption of the turns is no
failure. -/
theorem run_closes {m : Machine} (closes : m.Closes) (cfg : Document.Value) (limit : Limit)
    {r : Run} (ran : run m cfg limit = some r) :
    (∃ f, (build { machine := m } cfg).result = .error f ∧ (∀ p ∈ r.world.past, ∃ a, p = .clock a) ∧
      r.service = none ∧ r.failure = some f) ∨
    ∃ s, Built m cfg s ∧
      let o := s.openLinks cfg
      let b := o.state.start s.statusAt
      ((∃ f, o.result = .error f ∧ r.failure = some f ∧ r.service = some o.state ∧
        o.state.sim.running = false ∧ r.world.past.LeftOpen) ∨
      (o.result = .ok () ∧ ∃ f, m.Strikes f ∧ b.result = .error f ∧
        r.failure = some (.fault f) ∧ r.world.past.LeftOpen) ∨
      o.result = .ok () ∧ b.result = .ok () ∧ ∃ e, Ends limit s.statusAt b.state e ∧
        r.world.past.Opened cfg ∧
        (r.failure = failureOf e ∨ ∃ f, m.Strikes f ∧ r.failure = some (.fault f)) ∧
        ((∃ c, r.service = some c ∧ c.sim.running = false) ∧ r.world.past.Closed ∨
          ∃ f, m.Strikes f ∧ (settle e).state.finish.result = .error f)) := by
  cases run_eq_some_iff.1 ran with
  | unbuilt refused early => exact .inl ⟨_, by rw [refused], early, rfl, rfl⟩
  | @unopened s t f built refused =>
    have opens := opens_of_openLinks refused
    refine .inr ⟨s, built, .inl ⟨f, ?_⟩⟩
    rw [refused]
    exact ⟨rfl, rfl, rfl, opens.running.trans built.running, built.leftOpen opens.steps⟩
  | @unstarted s t u f built opened struck =>
    have opens := opens_of_openLinks opened
    refine .inr ⟨s, built, .inr (.inl ?_)⟩
    rw [opened, struck]
    refine ⟨rfl, f, start_strikes ?_ struck, rfl, rfl, built.leftOpen (steps_begun opened struck)⟩
    rw [opens.steps.machine, built.world]
  | @ended s t u e built opened started ends =>
    refine .inr ⟨s, built, .inr (.inr ?_)⟩
    rw [opened, started]
    refine ⟨rfl, rfl, e, ends, ?_⟩
    obtain ⟨held, asked⟩ := built.openLinks_ok opened
    have goes : Goes (fun _ p => p.turnsLink = false) t u := by
      have goes := goes_start (P := fun _ p => p.turnsLink = false) (s := t) (fun _ _ => rfl)
        s.statusAt
      rwa [started] at goes
    have pumped := ends.pumped
    have closing : Goes (fun _ _ => True) e.state (wrapUp e).state :=
      goes_wrapUp (fun _ _ => trivial) (fun _ _ => trivial) fun _ _ => trivial
    have machine : e.state.world.machine = m := by
      rw [pumped.steps.machine, (steps_begun opened started).machine, built.world]
    obtain ⟨failure, closed⟩ := wrapUp_closes closes machine
      ((held.goes goes fun _ _ => id).goes pumped fun _ _ allowed => allowed.1)
    refine ⟨?_, failure, closed.imp (fun c => ⟨⟨_, rfl, c.1⟩, c.2⟩) id⟩
    obtain ⟨new, first⟩ := goes.steps.exists_after
    obtain ⟨new', second⟩ := pumped.steps.exists_after
    obtain ⟨new'', third⟩ := closing.steps.exists_after
    simp only [Run.ofStep, third, second, first, World.after]
    exact ((asked.after new).after new').after new''

/-- A looped line with nothing but its name set. -/
def loopedLine : List (String × Document.Draft) :=
  [("serial", .record
    [("enabled", .datum (.bool true)), ("port", .datum (.ofText "loop://"))])]

/-- A run whose first turn is interrupted comes to an end. -/
theorem exists_run_of_interrupted {limit : Limit}
    (first : ((build { machine := m } cfg).result.toOption.any fun s =>
      let o := s.openLinks cfg
      let b := o.state.start s.statusAt
      let v := b.state.turn limit s.statusAt
      o.result.isOk && b.result.isOk && (v.result matches .error (.struck .interrupted)) &&
        (Run.ofStep (wrapUp ⟨v.state, .error (.struck .interrupted)⟩)).failure.isNone) = true) :
    ∃ r, run m cfg limit = some r ∧ r.failure = none := by
  obtain ⟨w, f, refused, -⟩ | ⟨s, built⟩ := build_cases m cfg
  · simp [refused, Except.toOption] at first
  · simp only [built.built, Except.toOption, Option.any_some, Bool.and_eq_true] at first
    obtain ⟨⟨⟨opened, started⟩, turned⟩, calm⟩ := first
    rcases o : s.openLinks cfg with ⟨t, f | _⟩
    · simp [o, Except.isOk, Except.toBool] at opened
    · rcases b : t.start s.statusAt with ⟨u, f | _⟩
      · simp [o, b, Except.isOk, Except.toBool] at started
      · rcases v : u.turn limit s.statusAt with ⟨w, x⟩
        simp only [o, b, v] at turned calm
        split at turned
        · have ran : Ran m cfg limit _ := .ended built o b (.refused v)
          exact ⟨_, run_eq_some_iff.2 ran, Option.isNone_iff_eq_none.1 calm⟩
        · cases turned

/-- A run with both links that is interrupted in its first pause, and closes them. -/
theorem run_closes_interrupted :
    let m : Machine := { Machine.looped with sleep := fun _ _ => .error .interrupted }
    let cfg := (Document.Draft.record loopedLine).finish
    m.Closes ∧ ∃ r c, run m cfg .endless = some r ∧ r.failure = none ∧ r.service = some c ∧
      c.sim.running = false ∧ (∃ l, .openLine l (.ok ()) ∈ r.world.past) ∧
      .openSocket (.ok ()) ∈ r.world.past ∧ r.world.past.Closed := by
  intro m cfg
  obtain ⟨l, line⟩ : ∃ l, Config.line cfg = .ok (some l) := ⟨_, rfl⟩
  obtain ⟨a, address⟩ : ∃ a, Config.address cfg = .ok (some a) := ⟨_, rfl⟩
  have closes : m.Closes := ⟨fun _ => rfl, fun _ => rfl⟩
  have calm : ∀ f, ¬ m.Strikes f := fun f ⟨_, _, struck, _⟩ => nomatch struck
  obtain ⟨r, ran, failure⟩ : ∃ r, run m cfg .endless = some r ∧ r.failure = none :=
    exists_run_of_interrupted (by decide +kernel)
  obtain ⟨f, -, -, -, failed⟩ | ⟨s, -, ⟨f, -, failed, -⟩ | ⟨-, f, struck, -⟩ |
    ⟨-, -, e, -, opened, -, closed⟩⟩ := run_closes closes cfg .endless ran
  · cases failure.symm.trans failed
  · cases failure.symm.trans failed
  · exact absurd struck (calm f)
  · obtain ⟨⟨c, left, stopped⟩, closed⟩ | ⟨f, struck, -⟩ := closed
    · exact ⟨closes, r, c, ran, failure, left, stopped, ⟨l, opened.line l line⟩,
        (opened.socket a address).1, closed⟩
    · exact absurd struck (calm f)

/-- A setting of the socket that is not known, beside a looped line. -/
def misspelt : Document.Value :=
  (Document.Draft.record (loopedLine ++ [("udp", .record [("prt", .datum (.int 5005))])])).finish

/-- The refused socket leaves the line open that was opened before it. -/
theorem run_leaves_line_open :
    ∃ r, run .looped misspelt (.after 1) = some r ∧
      r.failure.map Failure.message = some "bad setting" ∧ r.world.past.lineOpen = true := by
  have left : (run .looped misspelt (.after 1)).map
      (fun r => (r.failure.map Failure.message, r.world.past.lineOpen)) =
      some (some "bad setting", true) := by decide +kernel
  obtain ⟨r, ran, same⟩ := Option.map_eq_some_iff.1 left
  exact ⟨r, ran, Prod.mk.inj same⟩

end Service

end DifferentialDrive
