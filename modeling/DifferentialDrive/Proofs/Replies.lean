import DifferentialDrive.Binary64.Scalar
import DifferentialDrive.Proofs.Framing
import DifferentialDrive.Proofs.Readings

/-!
# Queries are answered in order

A client sends a query and waits for it, the robot answers it when its time comes, and the client
reads the answer whenever it likes. As long as only the client and the keys write to the queue and
only the client takes telemetry, the telemetry spells what the queries executed since the last read
ask, and the queries the client waits for begin with these (`served_perform`). So every read takes
the telemetry apart as it was put together.
-/

namespace DifferentialDrive

open Wire Scalar Robot

variable {α : Type}

/-! ## What a client asks -/

/-- Whether a call neither reads nor forgets. -/
def Call.plain : Call α → Bool
  | read _ | reset => false
  | _ => true

/-- The query a call asks, if it asks one. -/
def Call.asks : Call α → List Query
  | query code => (Query.ofCode? code).toList
  | _ => []

/-- The queries a call sent are those of its pushes. -/
theorem Reaction.queries_commands (r : Reaction α) :
    queries r.commands = r.pushes.flatMap fun p => p.commands.filterMap Command.query? := by
  simp only [queries, commands, List.filterMap_flatMap, List.filterMap_map]
  rfl

variable [Scalar α]

namespace Timeline

variable {tl : Timeline α} {r : Reaction α}

omit [Scalar α] in
theorem byte_ok {argument : String} {n : Int} {b : UInt8}
    (h : (Request.byte argument n : Except (Fault α) _) = .ok b) : (b.toNat : Int) = n := by
  unfold Request.byte at h
  split at h
  · cases h
    simp only [UInt8.toNat_ofNat']
    omega
  · cases h

omit [Scalar α] in
theorem speeds_ok {a b : Int} {commands : List Command}
    (h : Request.speeds a b = (.ok commands : Except (Fault α) _)) :
    ∃ x y, commands = [.speed1 x, .speed2 y] ∧ (x.toNat : Int) = a ∧ (y.toNat : Int) = b := by
  obtain ⟨x, first, h⟩ := ok_of_bind h
  obtain ⟨y, second, h⟩ := ok_of_bind h
  cases h
  exact ⟨x, y, rfl, byte_ok first, byte_ok second⟩

/-- A hold asks nothing. -/
theorem queries_of_hold {seconds : α} {a b : Int} (h : tl.hold seconds a b = .ok r) :
    queries r.commands = [] ∧ r.timeline.replies = tl.replies := by
  obtain ⟨mode, speeds, stamps, hm, hv, -, rfl⟩ := hold_ok h
  obtain ⟨x, y, rfl, -⟩ := speeds_ok hv
  cases hm
  exact ⟨by simp [Reaction.queries_commands, Command.query?], rfl⟩

theorem queries_of_place {x y d : α} (h : tl.place x y d = .ok r) :
    queries r.commands = [] ∧ r.timeline.replies = tl.replies := by
  obtain ⟨x, -, h⟩ := ok_of_bind h
  obtain ⟨x, hx, h⟩ := ok_of_bind h
  obtain ⟨y, -, h⟩ := ok_of_bind h
  obtain ⟨y, hy, h⟩ := ok_of_bind h
  obtain ⟨heading, hh, h⟩ := ok_of_bind h
  obtain ⟨x, -, hx⟩ := ok_of_bind hx
  obtain ⟨y, -, hy⟩ := ok_of_bind hy
  obtain ⟨heading, -, hh⟩ := ok_of_bind hh
  cases hx
  cases hy
  cases hh
  cases h
  exact ⟨rfl, rfl⟩

/-- A call that neither reads nor forgets sends the query it asks, and waits for it. -/
theorem asks_of_perform {c : Call α} (h : tl.perform c = .ok r) (plain : c.plain = true) :
    queries r.commands = c.asks ∧
      r.timeline.replies = { tl.replies with pending := tl.replies.pending ++ c.asks } := by
  have nothing (asks : queries r.commands = [] ∧ r.timeline.replies = tl.replies) :
      queries r.commands = [] ∧
        r.timeline.replies = { tl.replies with pending := tl.replies.pending ++ [] } := by
    simpa using asks
  cases c with
  | holdSeconds | forwardSeconds | backwardSeconds => exact nothing (queries_of_hold h)
  | holdDistance | forward | backward =>
    exact nothing (queries_of_hold (hold_of_holdDistance h).choose_spec)
  | holdAngle | rotateLeft | rotateRight =>
    exact nothing (queries_of_hold (hold_of_holdAngle h).choose_spec)
  | wait s =>
    obtain ⟨s, -, h⟩ := ok_of_bind h
    cases h
    exact nothing ⟨rfl, rfl⟩
  | stop =>
    cases h
    exact nothing ⟨rfl, rfl⟩
  | place => exact nothing (queries_of_place h)
  | query code =>
    simp only [perform, query] at h
    split at h
    · cases h
    · next q known =>
      obtain ⟨replies, expected, h⟩ := ok_of_bind h
      cases h
      simp only [ReplyStream.expect, known, Except.ok.injEq] at expected
      subst expected
      simp [Call.asks, known, Reaction.commands, send, Command.query?]
  | read | reset => simp [Call.plain] at plain

/-- A call that is refused asks nothing. -/
theorem asks_of_refused {c : Call α} {f : Fault α} (h : tl.perform c = .error f) :
    c.asks = [] := by
  cases c with
  | query code =>
    cases known : Query.ofCode? code with
    | none => simp [Call.asks, known]
    | some q =>
      simp [perform, query, known, ReplyStream.expect, bind, Except.bind, pure, Except.pure] at h
  | _ => rfl

end Timeline

namespace Session

/-- Whether an action leaves it to calls and keys to write to the queue, and to the reads of the
client to take telemetry. -/
def Action.plain : Action α → Bool
  | .push .. | .clear | .lineIngress _ | .socketIngress _ => false
  | .drain | .lineEgress | .socketEgress | .poke .. => false
  | .call c => c.plain
  | _ => true

/-- Whether an action is the client's read. -/
def Action.isRead : Action α → Bool
  | .readTelemetry => true
  | _ => false

/-- The query an action asks, if it asks one. -/
def Action.asks : Action α → List Query
  | .call c => c.asks
  | _ => []

/-- The replies that an outcome hands out. -/
def replied (o : Outcome (Session α) (Fault α) (Answer α)) : List (Query × Reply α) :=
  match o.result with
  | .ok (.replies rs) => rs
  | _ => []

/-- The replies that the actions in turn hand out. -/
def replies (s : Session α) (actions : List (Action α)) : List (Query × Reply α) :=
  (s.outcomes actions).flatMap replied

/-- What the queries executed by the actions in turn ask. -/
def readings (s : Session α) (actions : List (Action α)) : List (Query × Reply α) :=
  (s.legs actions).filterMap Leg.reading?

/-! ## What an action leaves as it was -/

omit [Scalar α] in
theorem Action.writesWhole_of_plain {a : Action α} (h : a.plain = true) :
    a.writesWhole = true := by
  cases a <;> simp_all [plain, writesWhole]

theorem queries_sent (s : Session α) {a : Action α} (plain : a.plain = true) :
    queries (s.sent a) = a.asks := by
  cases a with
  | call c =>
    cases performed : s.timeline.perform c with
    | error f => simp [sent, performed, Action.asks, Timeline.asks_of_refused performed]
    | ok r =>
      rw [sent_call_of_ok performed]
      exact (Timeline.asks_of_perform performed plain).1
  | key key now =>
    cases pressed : s.keyboard.press key with
    | none => simp [sent, pressed, Action.asks]
    | some a => simp [sent, pressed, Action.asks, DriveAction.commands, Command.query?]
  | _ => rfl

/-- Whether a robot has the registers, the telemetry and the executed commands of another. -/
structure Untouched (r s : Robot α) : Prop where
  registers : s.registers = r.registers
  telemetry : s.telemetry = r.telemetry
  executed : s.journal.executed = r.journal.executed

omit [Scalar α] in
theorem Untouched.refl (r : Robot α) : Untouched r r := ⟨rfl, rfl, rfl⟩

omit [Scalar α] in
theorem Untouched.note {r s : Robot α} (h : Untouched r s) {e : Event α}
    (other : e.command? = none) : Untouched r (s.note e) :=
  ⟨h.registers, h.telemetry, by simp [h.executed, other]⟩

theorem untouched_call (s : Session α) (c : Call α) :
    Untouched s.sim.robot (s.call c).state.sim.robot := by
  unfold call
  split
  · exact .refl _
  · next r performed =>
    have noted := Simulation.notes_kept (P := Untouched s.sim.robot)
      (fun _ _ aside h => h.note (Event.command?_of_aside aside)) r.events s.sim
      (Timeline.aside_of_perform performed) (.refl _)
    exact ⟨noted.registers, noted.telemetry, noted.executed⟩

theorem timeline_call (s : Session α) {c : Call α} (plain : c.plain = true) :
    (s.call c).state.timeline.replies =
      { s.timeline.replies with pending := s.timeline.replies.pending ++ c.asks } := by
  unfold call
  split
  · next f performed => simp [Timeline.asks_of_refused performed]
  · next r performed => exact (Timeline.asks_of_perform performed plain).2

/-- Only ticks and reads touch what the replies are made of. -/
theorem untouched_perform (s : Session α) {a : Action α} (plain : a.plain = true)
    (still : ∀ now, a ≠ .tick now) (unread : a.isRead = false) :
    Untouched s.sim.robot (s.perform a).state.sim.robot ∧
      (s.perform a).state.timeline.replies =
        { s.timeline.replies with pending := s.timeline.replies.pending ++ a.asks } := by
  have same : Untouched s.sim.robot s.sim.robot ∧ s.timeline.replies =
      { s.timeline.replies with pending := s.timeline.replies.pending ++ [] } := by
    simpa using Untouched.refl s.sim.robot
  cases a with
  | push | clear | lineIngress | socketIngress => simp [Action.plain] at plain
  | drain | lineEgress | socketEgress | poke => simp [Action.plain] at plain
  | tick now => exact absurd rfl (still now)
  | readTelemetry => simp [Action.isRead] at unread
  | start now => exact ⟨⟨rfl, rfl, by simp [perform, Simulation.start, Event.command?]⟩, same.2⟩
  | stop => exact ⟨same.1.note rfl, same.2⟩
  | collisions | peek | toggle | commandFor | datagram => exact same
  | call c => exact ⟨s.untouched_call c, s.timeline_call plain⟩
  | key key now =>
    simp only [perform, press]
    split
    · exact same
    · next a pressed => exact ⟨⟨rfl, rfl, by simp [note, Simulation.note, Simulation.push,
        Robot.push, Robot.receive, Event.command?]⟩, same.2⟩
  | lineWrite | lineRead =>
    exact onLink_state (P := fun t => Untouched _ t.sim.robot ∧ t.timeline.replies = _) same same
  | lineClose =>
    refine onLink_state (P := fun t => Untouched _ t.sim.robot ∧ t.timeline.replies = _) same ?_
    simp only [s.closeLine_kept.1]
    exact same

omit [Scalar α] in
/-- What is done with a link hands out no replies. -/
theorem replied_onLink {β : Type} (s : Session α) (there : Bool)
    (o : Outcome (Station α) (Fault α) β) {answer : β → Answer α}
    (other : ∀ b rs, answer b ≠ .replies rs) : replied (s.onLink there o answer) = [] := by
  unfold onLink replied
  split
  · next rs answered =>
    split at answered
    · cases done : o.result with
      | error f => simp [done, Except.map] at answered
      | ok b =>
        rw [done] at answered
        exact absurd (Except.ok.inj answered) (other b rs)
    · cases answered
  · rfl

/-- Only reads hand out replies. -/
theorem replied_of_not_read (s : Session α) {a : Action α} (plain : a.plain = true)
    (unread : a.isRead = false) : replied (s.perform a) = [] := by
  cases a with
  | call c =>
    simp only [perform, call]
    split
    · rfl
    · cases c <;> first | rfl | simp [Action.plain, Call.plain] at plain
  | readTelemetry => simp [Action.isRead] at unread
  | lineWrite | lineRead | lineClose => exact replied_onLink _ _ _ (by simp)
  | tick now =>
    simp only [perform, replied]
    cases (s.sim.tick now).result <;> rfl
  | collisions =>
    simp only [perform, replied]
    cases s.sim.collisions <;> rfl
  | commandFor name =>
    simp only [perform, replied]
    cases (DriveAction.bytesOf name : Except (Fault α) _) <;> rfl
  | push | clear | lineIngress | socketIngress => simp [Action.plain] at plain
  | drain | lineEgress | socketEgress | poke => simp [Action.plain] at plain
  | _ => rfl

/-! ## What an action adds -/

/-- The commands `sent`, the readings `taken` by those executed and the replies `read` so far are
in step: the telemetry spells what has been taken and not read, and the client waits for all that
it asked and has not read. -/
structure Served (sent : List (Command × α)) (taken read : List (Query × Reply α))
    (s : Session α) : Prop where
  framed : Framed sent s.sim.robot
  wrapped : s.sim.robot.registers.Wrapped
  executed : taken.map Prod.fst = queries s.sim.robot.journal.executed
  unread : ∃ rest, taken = read ++ rest ∧ Spells rest s.sim.robot.telemetry
  pending : queries sent = read.map Prod.fst ++ s.timeline.replies.pending
  buffer : s.timeline.replies.buffer = []

variable {sent : List (Command × α)} {taken read : List (Query × Reply α)} {s : Session α}

theorem served_tick {now : α} (h : Served sent taken read s)
    (ok : (s.perform (.tick now)).result.isOk = true) :
    Served sent (taken ++ (s.legsOf (.tick now)).filterMap Leg.reading?) read
      (s.perform (.tick now)).state := by
  have framed := framed_perform (.tick now) rfl h.framed
  cases running : s.sim.running with
  | false =>
    have still : (s.perform (.tick now)).state = s := by
      simp [perform, Simulation.tick, running]
    simpa [legsOf, running, still] using h
  | true =>
    obtain ⟨answer, done⟩ : ∃ answer, (s.sim.tick now).result = .ok answer := by
      cases result : (s.sim.tick now).result with
      | ok answer => exact ⟨answer, rfl⟩
      | error f => simp [perform, result, Except.map, Except.isOk, Except.toBool] at ok
    have ran := Simulation.tick_ran running done
    obtain ⟨wrapped, asked, bytes, telemetry, spells⟩ := ran.readings h.wrapped
    obtain ⟨executed, -⟩ := ran.executed_queue
    obtain ⟨unread, split, spelled⟩ := h.unread
    have legs : (s.legsOf (.tick now)).filterMap Leg.reading? = s.sim.robot.readings now := by
      simp [legsOf, running, Robot.readings]
    rw [legs]
    refine ⟨by simpa [Session.sent] using framed, wrapped, ?_, ?_, h.pending, h.buffer⟩
    · simp [h.executed, asked, perform, executed]
    · refine ⟨unread ++ s.sim.robot.readings now, by simp [split], ?_⟩
      simpa [perform, telemetry] using spelled.append spells

/-- A read takes everything that has been answered and not read. -/
theorem served_read (h : Served sent taken read s) :
    taken = read ++ replied (s.perform .readTelemetry) ∧
      Served sent taken taken (s.perform .readTelemetry).state := by
  obtain ⟨unread, split, spelled⟩ := h.unread
  obtain ⟨-, waiting, sent_eq, -⟩ := id h.framed
  -- What the client waits for begins with what has been answered.
  have pending : s.timeline.replies.pending = unread.map Prod.fst ++ queries waiting := by
    have asked := h.pending
    rw [sent_eq, queries_append, ← h.executed, split, List.map_append, List.append_assoc] at asked
    exact (List.append_cancel_left asked).symm
  have stream : s.timeline.replies.push s.sim.robot.telemetry =
      ⟨unread.map Prod.fst ++ queries waiting, s.sim.robot.telemetry⟩ := by
    simp [ReplyStream.push, pending, h.buffer]
  have performed : s.timeline.perform (.read s.sim.robot.telemetry) =
      .ok {
        timeline := { s.timeline with replies := ⟨queries waiting, []⟩ }
        replies := unread } := by
    simp only [Timeline.perform, Timeline.read, stream, ReplyStream.popAll_of_spells spelled]
    rfl
  have framed := framed_perform .readTelemetry rfl h.framed
  have step : s.perform .readTelemetry =
      ⟨({ s with sim := s.sim.drain.2 } : Session α).react
        { timeline := { s.timeline with replies := ⟨queries waiting, []⟩ }, replies := unread },
        .ok (.replies unread)⟩ := by
    simp only [perform, call, Simulation.drain, Robot.drain, performed]
  rw [step] at framed ⊢
  refine ⟨split, by simpa [Session.sent] using framed, h.wrapped, h.executed, ⟨[], by simp, .nil⟩,
    ?_, rfl⟩
  rw [h.pending, pending, split]
  simp [react]

/-- Anything else keeps in step what has been taken and what has been read. -/
theorem served_other {a : Action α} (plain : a.plain = true) (still : ∀ now, a ≠ .tick now)
    (unread : a.isRead = false) (h : Served sent taken read s) :
    Served (sent ++ s.sent a) taken read (s.perform a).state := by
  obtain ⟨same, replies⟩ := s.untouched_perform plain still unread
  refine ⟨framed_perform a (Action.writesWhole_of_plain plain) h.framed, ?_, ?_, ?_, ?_, ?_⟩
  · rw [same.registers]
    exact h.wrapped
  · rw [same.executed]
    exact h.executed
  · rw [same.telemetry]
    exact h.unread
  · rw [queries_append, queries_sent s plain, h.pending, replies, List.append_assoc]
  · rw [replies]
    exact h.buffer

/-- What an action that is not refused adds to what is sent, taken and read. -/
theorem served_perform {a : Action α} (plain : a.plain = true)
    (ok : (s.perform a).result.isOk = true) (h : Served sent taken read s) :
    Served (sent ++ s.sent a) (taken ++ (s.legsOf a).filterMap Leg.reading?)
      (read ++ replied (s.perform a)) (s.perform a).state := by
  by_cases isTick : ∃ now, a = .tick now
  · obtain ⟨now, rfl⟩ := isTick
    rw [s.replied_of_not_read plain rfl]
    simpa [Session.sent] using served_tick h ok
  · have still : ∀ now, a ≠ .tick now := fun now same => isTick ⟨now, same⟩
    have none : s.legsOf a = [] := by
      cases a with
      | tick now => exact absurd rfl (still now)
      | _ => rfl
    cases unread : a.isRead with
    | true =>
      obtain rfl : a = .readTelemetry := by
        cases a <;> simp_all [Action.isRead]
      obtain ⟨split, served⟩ := served_read h
      simpa [none, Session.sent, ← split] using served
    | false =>
      rw [none, s.replied_of_not_read plain unread]
      simpa using served_other plain still unread h

theorem served_after {actions : List (Action α)} (plain : ∀ a ∈ actions, a.plain = true)
    (ok : ∀ o ∈ s.outcomes actions, o.result.isOk = true) (h : Served sent taken read s) :
    Served (sent ++ s.sentBy actions) (taken ++ s.readings actions) (read ++ s.replies actions)
      (s.after actions) := by
  induction actions generalizing s sent taken read with
  | nil => simpa [sentBy, readings, replies, legs, outcomes, after] using h
  | cons a rest ih =>
    have first := served_perform (plain a (by simp)) (ok _ (by simp [outcomes])) h
    have all := ih (fun b hb => plain b (by simp [hb]))
      (fun o ho => ok o (by simp [outcomes, ho])) first
    simpa [sentBy, readings, replies, legs, outcomes, after] using all

theorem queries_sentBy (s : Session α) {actions : List (Action α)}
    (plain : ∀ a ∈ actions, a.plain = true) :
    queries (s.sentBy actions) = actions.flatMap Action.asks := by
  induction actions generalizing s with
  | nil => rfl
  | cons a rest ih =>
    rw [sentBy, queries_append, s.queries_sent (plain a (by simp)),
      ih _ fun b hb => plain b (by simp [hb]), List.flatMap_cons]

theorem replies_append (s : Session α) (before later : List (Action α)) :
    s.replies (before ++ later) = s.replies before ++ (s.after before).replies later := by
  simp [replies, outcomes_append]

theorem replies_of_no_read (s : Session α) {actions : List (Action α)}
    (plain : ∀ a ∈ actions, a.plain = true) (unread : ∀ a ∈ actions, a.isRead = false) :
    s.replies actions = [] := by
  induction actions generalizing s with
  | nil => rfl
  | cons a rest ih =>
    have first := s.replied_of_not_read (plain a (by simp)) (unread a (by simp))
    have others := ih (s.perform a).state (fun b hb => plain b (by simp [hb]))
      fun b hb => unread b (by simp [hb])
    simpa [replies, outcomes, first] using others

end Session

open Session

/-- In every session on a fresh simulation with a fresh client, in which only the client's calls and
keys write to the queue, only the client's reads take telemetry, and nothing is refused, the replies
read so far are what the queries executed before the last read asked of the robot as it stood when
it had moved to their times, in the order of execution. The client waits for the queries that it
asked and has not read, in order, and keeps no bytes. -/
theorem Session.replies_eq_readings (chassis clientChassis : Chassis α) (arena : Arena α)
    (factor start : α) (timeout : Bool) (t keepalive : α) (keys : Keyboard)
    (world : World) (line : Bool) (socket : Option Socket) (actions : List (Action α)) :
    let fresh : Session α :=
      ⟨⟨.initial chassis arena factor start timeout, world, line, socket⟩,
        ⟨clientChassis, t, keepalive, {}⟩, keys⟩
    (∀ a ∈ actions, a.plain = true) → (∀ o ∈ fresh.outcomes actions, o.result.isOk = true) →
    let replies := fresh.replies actions
    let client := (fresh.after actions).timeline.replies
    (∀ before later, actions = before ++ .readTelemetry :: later →
        (∀ a ∈ later, a.isRead = false) →
        replies = fresh.readings before ∧
          replies.map Prod.fst = queries (fresh.after before).sim.robot.journal.executed) ∧
      ((∀ a ∈ actions, a.isRead = false) → replies = []) ∧
      actions.flatMap Action.asks = replies.map Prod.fst ++ client.pending ∧
      client.buffer = [] := by
  intro fresh plain ok replies client
  have first : Served [] [] [] fresh :=
    ⟨⟨rfl, [], rfl, rfl⟩, ⟨rfl, rfl⟩, rfl, ⟨[], rfl, .nil⟩, rfl, rfl⟩
  refine ⟨?_, fresh.replies_of_no_read plain, ?_, ?_⟩
  · rintro before later rfl unread
    have prior : Served _ ([] ++ fresh.readings before) ([] ++ fresh.replies before)
        (fresh.after before) :=
      served_after (fun a ha => plain a (by simp [ha]))
        (fun o ho => ok o (by simp [outcomes_append, ho])) first
    obtain ⟨split, -⟩ := served_read prior
    have last : (fresh.after before).replies (.readTelemetry :: later) =
        replied ((fresh.after before).perform .readTelemetry) := by
      have rest := ((fresh.after before).perform .readTelemetry).state.replies_of_no_read
        (fun a ha => plain a (by simp [ha])) unread
      simpa [Session.replies, outcomes] using rest
    have all : replies = fresh.readings before := by
      simp only [replies, replies_append, last]
      simpa using split.symm
    refine ⟨all, ?_⟩
    rw [all]
    simpa using prior.executed
  · have served := served_after plain ok first
    rw [← fresh.queries_sentBy plain]
    simpa using served.pending
  · exact (served_after plain ok first).buffer

/-- A client asks for a speed, drives for a second, asks for the counters and reads, and then asks
for the voltage. -/
def Session.asking : List (Action Float) :=
  [.start zero, .call (.query 0x21), .call (.holdSeconds (ofInt 1) 20 20), .call (.query 0x25),
    .tick (ofInt 2), .readTelemetry, .call (.query 0x26)]

/-- It has read the speed and the counters, and waits for the voltage. -/
theorem Session.replies_eq_readings_asking :
    let fresh : Session Float := .standard
    fresh.replies asking = fresh.readings (asking.take 5) ∧
      (fresh.replies asking).map Prod.fst = [.speed1, .encoders] ∧
      (fresh.after asking).timeline.replies.pending = [.volts] ∧
      (fresh.after asking).timeline.replies.buffer = [] := by
  intro fresh
  obtain ⟨last, -, asked, buffer⟩ :=
    replies_eq_readings .standard .standard .standard (ofInt 1) zero true zero (ofInt 1) {}
      { machine := .looped } false none asking (by decide) (by decide +kernel)
  obtain ⟨all, executed⟩ := last (asking.take 5) [.call (.query 0x26)] rfl (by decide)
  have order : (fresh.replies asking).map Prod.fst = [.speed1, .encoders] :=
    executed.trans (by decide +kernel)
  have waits : [.speed1, .encoders] ++ [.volts] =
      (fresh.replies asking).map Prod.fst ++ (fresh.after asking).timeline.replies.pending := asked
  rw [order] at waits
  exact ⟨all, order, (List.append_cancel_left waits).symm, buffer⟩

end DifferentialDrive
