import DifferentialDrive.Binary64.Scalar
import DifferentialDrive.Proofs.Sessions

/-!
# Whole commands are executed in order

As long as only a client's calls and keys write to the queue, it holds whole commands, though their
operands may look like anything and the times of two writers run across each other. So each
command that is sent is executed once, in the order of sending, and no byte is dropped
(`framed_perform`).
-/

namespace DifferentialDrive

open Wire Scalar

variable {α : Type}

namespace Robot

/-- The commands sent are those executed and then those in the queue; no byte was dropped. -/
def Framed (sent : List (Command × α)) (r : Robot α) : Prop :=
  r.journal.dropped = [] ∧
    ∃ waiting, sent = r.journal.executed ++ waiting ∧ r.queue = encode waiting

variable {sent : List (Command × α)} {r s : Robot α}

/-- What neither executes nor drops and leaves the queue alone keeps the frames. -/
theorem Framed.of_eq (h : Framed sent r) (executed : s.journal.executed = r.journal.executed)
    (dropped : s.journal.dropped = r.journal.dropped) (queue : s.queue = r.queue) :
    Framed sent s := by
  obtain ⟨none, waiting, split, bytes⟩ := h
  exact ⟨dropped.trans none, waiting, by rw [executed, split], queue.trans bytes⟩

theorem Framed.note (h : Framed sent r) {e : Event α} (command : e.command? = none)
    (drops : e.drops = false) : Framed sent (r.note e) :=
  h.of_eq (by simp [command]) (by simp [drops]) rfl

theorem Framed.aside (h : Framed sent r) {e : Event α} (aside : e.aside = true) :
    Framed sent (r.note e) :=
  h.note (Event.command?_of_aside aside) (Event.drops_of_aside aside)

theorem Framed.receive (h : Framed sent r) (more : List (Command × α)) :
    Framed (sent ++ more) (r.receive (encode more)) := by
  obtain ⟨none, waiting, rfl, bytes⟩ := h
  exact ⟨none, waiting ++ more, by simp [Robot.receive], by
    simp [Robot.receive, bytes, encode_append]⟩

variable [Scalar α]

theorem Effect.dropped_eq {c : Command} (h : Effect r c s) :
    s.journal.dropped = r.journal.dropped :=
  h.journal_eq fun _ _ aside => by simp [Event.drops_of_aside aside]

/-- A step of the robot keeps the frames: what stands in front is a command or nothing. -/
theorem framed_work (r s : Robot α) (step : Work r s) (h : Framed sent r) : Framed sent s := by
  obtain ⟨none, waiting, split, bytes⟩ := id h
  cases step with
  | stray found | unknown found =>
    -- A queue of whole commands does not begin with anything else.
    rw [bytes, Frame.next_encode] at found
    rcases waiting with _ | ⟨⟨c, t⟩, rest⟩
    · simp at found
    · dsimp only at found
      split at found <;> simp at found
  | halt => exact h.of_eq (by simp [Event.command?]) (by simp [Event.drops]) rfl
  | settle =>
    exact h.of_eq (by simp [slice, Event.command?]) (by simp [slice, Event.drops]) rfl
  | follow | arrive => exact h
  | @execute e now c rest found executed =>
    have effect := execute_effect executed
    rw [bytes, Frame.next_encode] at found
    rcases waiting with _ | ⟨⟨c', t⟩, waiting⟩
    · simp at found
    · dsimp only at found
      split at found
      · simp at found
      · obtain ⟨rfl, rfl, rfl⟩ : c' = c ∧ t = r.commandTime ∧ encode waiting = rest := by
          simpa using found
        refine ⟨by simp [effect.dropped_eq, none, Event.drops], waiting, ?_, rfl⟩
        simp [effect.executed_eq, split, Event.command?]

end Robot

open Robot

variable [Scalar α]

namespace Session

/-- Whether an action leaves it to the client's calls and keys to write to the queue. -/
def Action.writesWhole : Action α → Bool
  | .push .. | .clear | .lineIngress _ | .socketIngress _ => false
  | _ => true

/-- The commands an action sends, in order, each with its time. -/
def sent (s : Session α) : Action α → List (Command × α)
  | .call c =>
    match s.timeline.perform c with
    | .ok r => r.commands
    | .error _ => []
  | .key key now =>
    match s.keyboard.press key with
    | some a => a.commands.map (·, now)
    | none => []
  | _ => []

/-- The commands that the actions send in turn. -/
def sentBy (s : Session α) : List (Action α) → List (Command × α)
  | [] => []
  | a :: rest => s.sent a ++ (s.perform a).state.sentBy rest

theorem sent_call_of_ok {s : Session α} {c : Call α} {r : Reaction α}
    (h : s.timeline.perform c = .ok r) : s.sent (.call c) = r.commands := by
  simp [sent, h]

/-- A call that reads sends nothing. -/
theorem sent_read (s : Session α) (bytes : List UInt8) : s.sent (.call (.read bytes)) = [] := by
  cases performed : s.timeline.perform (.read bytes) with
  | error f => simp [sent, performed]
  | ok r =>
    obtain ⟨⟨read, replies⟩, -, h⟩ := ok_of_bind performed
    cases h
    simp [sent, performed, Reaction.commands]

variable {sent : List (Command × α)} {s : Session α}

theorem framed_call (c : Call α) (h : Framed sent s.sim.robot) :
    Framed (sent ++ s.sent (.call c)) (s.call c).state.sim.robot := by
  unfold call
  split
  · next f performed => simpa [Session.sent, performed] using h
  · next r performed =>
    rw [sent_call_of_ok performed]
    have noted := Simulation.notes_kept (P := Framed sent) (fun _ _ aside h => h.aside aside)
      r.events s.sim (Timeline.aside_of_perform performed) h
    simpa [react, Simulation.receive, r.stamped_eq_encode] using noted.receive r.commands

theorem framed_key (key : String) (now : α) (h : Framed sent s.sim.robot) :
    Framed (sent ++ s.sent (.key key now)) (s.press key now).1.sim.robot := by
  cases pressed : s.keyboard.press key with
  | none => simpa [press, Session.sent, pressed] using h
  | some a =>
    have received := h.receive (a.commands.map (·, now))
    rw [← stampAll_flatMap_bytes] at received
    simp only [press, Session.sent, pressed]
    exact received.aside (e := .keyTaken key a) rfl

/-- An action that leaves the writing to calls and keys keeps the frames, whether or not it is
refused. -/
theorem framed_perform (a : Action α) (whole : a.writesWhole = true)
    (h : Framed sent s.sim.robot) :
    Framed (sent ++ s.sent a) (s.perform a).state.sim.robot := by
  have kept : Framed (sent ++ []) s.sim.robot := by simpa using h
  cases a with
  | push | clear | lineIngress | socketIngress => simp [Action.writesWhole] at whole
  | start now => exact kept.note (e := .started now) rfl rfl
  | tick now =>
    simp only [perform, Simulation.tick]
    split
    · exact kept_of_chain framed_work (works_run s.sim.robot now) kept
    · exact kept
  | stop => exact kept.aside (e := .stopped) rfl
  | drain => exact kept
  | collisions | peek | toggle | commandFor | datagram | poke => exact kept
  | call c => exact framed_call c h
  | readTelemetry =>
    have read := framed_call (s := { s with sim := s.sim.drain.2 }) (.read s.sim.drain.1) h
    rwa [sent_read] at read
  | key key now => exact framed_key key now h
  | lineWrite | lineRead =>
    exact onLink_state (P := fun t => Framed _ t.sim.robot) kept kept
  | lineEgress =>
    refine onLink_state (P := fun t => Framed _ t.sim.robot) kept ?_
    simp only [s.sim_lineEgress]
    exact kept
  | lineClose =>
    refine onLink_state (P := fun t => Framed _ t.sim.robot) kept ?_
    simp only [s.closeLine_kept.1]
    exact kept
  | socketEgress =>
    refine onLink_state (P := fun t => Framed _ t.sim.robot) kept ?_
    obtain same | drained := s.sim_socketEgress
    · simp only [same]
      exact kept
    · simp only [drained]
      exact kept

/-- As long as only calls and keys write to the queue, the commands that are sent are executed
in order or wait in the queue. -/
theorem framed_after (actions : List (Action α)) (whole : ∀ a ∈ actions, a.writesWhole = true)
    (h : Framed sent s.sim.robot) :
    Framed (sent ++ s.sentBy actions) (s.after actions).sim.robot := by
  induction actions generalizing s sent with
  | nil => simpa [sentBy, after] using h
  | cons a rest ih =>
    have first := framed_perform a (whole a (by simp)) h
    simpa [sentBy, after] using ih (fun b hb => whole b (by simp [hb])) first

end Session

/-- A command at the front that is not taken has not arrived. -/
theorem lt_of_next_encode {now : α} {waiting : List (Command × α)}
    (h : Frame.next now (encode waiting) = .waiting) : ∀ p ∈ waiting.head?, now < p.2 := by
  rintro ⟨c, t⟩ first
  obtain ⟨rest, rfl⟩ := List.head?_eq_some_iff.1 first
  rw [Frame.next_encode] at h
  by_cases late : now < t
  · exact late
  · simp [late] at h

/-- In every session on a fresh simulation in which only calls and keys write to the queue, the
commands sent are executed once and in order, up to those whose bytes make up the queue, and no
byte is dropped. A tick leaves only commands that have not arrived. -/
theorem executed_append_waiting_eq_sent (chassis : Chassis α) (arena : Arena α) (factor start : α)
    (timeout : Bool) (client : Timeline α) (keys : Keyboard) (world : World) (line : Bool)
    (socket : Option Socket) (actions : List (Session.Action α))
    (whole : ∀ a ∈ actions, a.writesWhole = true) :
    let fresh : Session α :=
      ⟨⟨.initial chassis arena factor start timeout, world, line, socket⟩, client, keys⟩
    let r := (fresh.after actions).sim.robot
    ∃ waiting,
      fresh.sentBy actions = r.journal.executed ++ waiting ∧
      r.queue = encode waiting ∧
      r.journal.dropped = [] ∧
      ∀ before now answer, actions = before ++ [.tick now] →
        (fresh.after before).sim.running = true →
        ((fresh.after before).sim.tick now).result = .ok answer →
        ∀ p ∈ waiting.head?, now < p.2 := by
  intro fresh r
  have framed : Framed ([] ++ fresh.sentBy actions) r :=
    Session.framed_after actions whole ⟨rfl, [], rfl, rfl⟩
  obtain ⟨none, waiting, split, bytes⟩ := framed
  refine ⟨waiting, by simpa using split, bytes, none, ?_⟩
  rintro before now answer rfl running ok
  have ticked : r = ((fresh.after before).sim.tick now).state.robot := by
    simp [r, Session.after, Session.perform]
  obtain ⟨-, left⟩ := (Simulation.tick_ran running ok).executed_queue
  apply lt_of_next_encode
  rw [← bytes, ticked, left]
  exact Frame.next_parse_rest now _

/-- A client's speed at the two instants of its hold, with a key between the two writings: the tick
leaves the speed of the second instant, whose operand is a zero byte. -/
theorem executed_append_waiting_eq_sent_hold :
    let actions : List (Session.Action Float) :=
      [.start zero, .call (.holdSeconds (ofInt 2) (-128) 52), .key "escape" zero, .tick zero]
    let before := Session.standard.after (actions.take 3)
    let r := (Session.standard.after actions).sim.robot
    (∀ a ∈ actions, a.writesWhole = true) ∧
      before.sim.running = true ∧ (before.sim.tick zero).result.toOption = some true ∧
      r.queue ≠ [] ∧
      ∃ waiting,
        Session.standard.sentBy actions = r.journal.executed ++ waiting ∧
        r.queue = encode waiting ∧
        r.journal.dropped = [] ∧
        ∀ earlier now answer, actions = earlier ++ [.tick now] →
          (Session.standard.after earlier).sim.running = true →
          ((Session.standard.after earlier).sim.tick now).result = .ok answer →
          ∀ p ∈ waiting.head?, now < p.2 := by
  intro actions before r
  refine ⟨by decide, by decide +kernel, by decide +kernel, by decide +kernel, ?_⟩
  exact executed_append_waiting_eq_sent _ _ _ _ _ _ _ _ _ _ actions (by decide)

end DifferentialDrive
