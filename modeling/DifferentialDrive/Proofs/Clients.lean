import DifferentialDrive.Client
import DifferentialDrive.Proofs.Replies
import DifferentialDrive.Proofs.ReplyStreams

/-!
# Calls that are refused

A client sends, moves its cursor and takes replies in the middle of a call, so a late refusal would
leave half of the call behind. Every call checks all it is given before it does anything: work is
`Clean` if nothing was done where it is refused, and it is so because what stands behind the checks
is `Sure`, never refused. Calls that are refused can thus be left out of any sequence of calls.
-/

namespace DifferentialDrive

open Wire Scalar

variable {α β γ : Type}

/-! ## Checks that are passed -/

/-- The bytes of wheel speeds that are in range are in range. -/
theorem Wire.Request.speeds_of_wheels {a b : Int} (ha : -128 ≤ a ∧ a ≤ 127)
    (hb : -128 ≤ b ∧ b ≤ 127) :
    Request.speeds (a + 128) (b + 128) = (.ok [.speed1 (a + 128).toNat.toUInt8,
      .speed2 (b + 128).toNat.toUInt8] : Except (Fault α) _) := by
  have first : 0 ≤ a + 128 ∧ a + 128 ≤ 255 := by omega
  have second : 0 ≤ b + 128 ∧ b + 128 ≤ 255 := by omega
  unfold Request.speeds Request.byte
  rw [if_pos first, if_pos second]
  rfl

/-- An opcode that is awaited is that of a query, and so a byte. -/
theorem Wire.ReplyStream.raw_of_expect {s rest : ReplyStream} {opcode : Int}
    (h : s.expect opcode = (.ok rest : Except (Fault α) _)) :
    ∃ q, Query.ofCode? opcode = some q ∧ rest = { s with pending := s.pending ++ [q] } ∧
      Request.raw opcode [] = (.ok (Command.query q).bytes : Except (Fault α) _) := by
  unfold ReplyStream.expect at h
  split at h
  · next q known =>
    cases h
    obtain rfl : (q.code.toNat : Int) = opcode := by simpa using List.find?_some known
    exact ⟨q, known, rfl, by cases q <;> rfl⟩
  · cases h

/-- A reply is taken with as many bytes as its query calls for. -/
theorem Wire.ReplyStream.take?_some {s rest : ReplyStream} {q : Query} {payload : List UInt8}
    (h : s.take? = some (q, payload, rest)) :
    s = ⟨q :: rest.pending, payload ++ rest.buffer⟩ ∧ payload.length = q.replySize := by
  obtain ⟨_ | ⟨p, pending⟩, buffer⟩ := s
  · cases h
  · simp only [ReplyStream.take?] at h
    split at h
    · cases h
    · next enough =>
      cases h
      exact ⟨by rw [List.take_append_drop], by rw [List.length_take]; omega⟩

namespace Client

/-! ## Work that is refused -/

/-- Work that is never refused. -/
def Sure (w : Work α β) : Prop := ∀ c d f, w.run.run c ≠ some (.error f, d)

/-- Work that has done nothing where it is refused. -/
def Clean (w : Work α β) : Prop := ∀ c d f, w.run.run c = some (.error f, d) → d = c

section Steps

variable {w : Work α β} {g : β → Work α γ}

theorem refused_of_bind {c d : Client α} {f : Fault α}
    (h : (w >>= g).run.run c = some (.error f, d)) :
    w.run.run c = some (.error f, d) ∨
      ∃ b m, w.run.run c = some (.ok b, m) ∧ (g b).run.run m = some (.error f, d) := by
  rw [ExceptT.run_bind, StateT.run_bind] at h
  obtain ⟨⟨_ | b, m⟩, first, h⟩ := Option.bind_eq_some_iff.1 h
  · cases h
    exact .inl first
  · exact .inr ⟨b, m, first, h⟩

theorem sure_pure (b : β) : Sure (pure b : Work α β) := by
  intro c d f refused
  cases refused

theorem sure_get : Sure (get : Work α (Client α)) := by
  intro c d f refused
  cases refused

theorem sure_modify (change : Client α → Client α) : Sure (modify change : Work α Unit) := by
  intro c d f refused
  cases refused

theorem sure_send (commands : List Command) : Sure (send commands : Work α Unit) :=
  sure_modify _

theorem sure_check {r : Except (Fault α) β} {b : β} (h : r = .ok b) : Sure (check r) := by
  subst h
  exact sure_pure b

theorem Sure.bind (h : Sure w) (next : ∀ b, Sure (g b)) : Sure (w >>= g) := by
  intro c d f refused
  obtain here | ⟨b, m, -, later⟩ := refused_of_bind refused
  · exact h c d f here
  · exact next b m d f later

theorem Sure.clean (h : Sure w) : Clean w := fun c d f refused => absurd refused (h c d f)

/-- What comes behind a check may count on its result. -/
theorem Clean.check_bind {r : Except (Fault α) β} (next : ∀ b, r = .ok b → Clean (g b)) :
    Clean (check r >>= g) := by
  intro c d f refused
  obtain here | ⟨b, m, passed, later⟩ := refused_of_bind refused
  · cases here
    rfl
  · cases passed
    exact next b rfl c d f later

theorem Clean.get_bind {g : Client α → Work α γ} (next : ∀ c, Clean (g c)) :
    Clean (get >>= g) := by
  intro c d f refused
  obtain here | ⟨b, m, found, later⟩ := refused_of_bind refused
  · exact absurd here (sure_get c d f)
  · cases found
    exact next c c d f later

end Steps

/-! ## Each kind of call -/

theorem sure_stop : Sure (stop : Work α Unit) :=
  (sure_check rfl).bind fun mode => (sure_check rfl).bind fun speeds => sure_send (mode ++ speeds)

theorem clean_query (opcode : Int) : Clean (query opcode : Work α Unit) := by
  refine .get_bind fun c => .check_bind fun replies awaited => Sure.clean ?_
  obtain ⟨q, -, -, raw⟩ := ReplyStream.raw_of_expect awaited
  exact (sure_modify _).bind fun _ => (sure_check raw).bind fun bytes => sure_modify _

theorem sure_reset : Sure (reset : Work α Unit) := by
  refine sure_get.bind fun c => ?_
  by_cases none : c.timeline.replies.pending.isEmpty
  · simpa [none] using sure_modify _
  · simpa [none] using (sure_modify _).bind fun _ => sure_modify _

theorem Clean.silent {w : Work α Unit} (h : Clean w) : Clean (silent w) := by
  intro c d f refused
  obtain here | ⟨b, m, -, later⟩ := refused_of_bind refused
  · exact h c d f here
  · exact absurd later (sure_pure [] m d f)

variable [Scalar α]

theorem sure_keepUp (speeds : List Command) (finish : α) : Sure (keepUp speeds finish) := by
  intro c d f refused
  obtain ⟨m, -, same⟩ := Option.map_eq_some_iff.1 refused
  cases same

theorem clean_hold (seconds : α) (a b : Int) : Clean (hold seconds a b) := by
  refine .check_bind fun s _ => .check_bind fun x hx => .check_bind fun y hy => Sure.clean ?_
  obtain ⟨rfl, ha⟩ := Timeline.wheel_ok hx
  obtain ⟨rfl, hb⟩ := Timeline.wheel_ok hy
  refine (sure_modify _).bind fun _ => ?_
  refine (sure_check rfl).bind fun mode => (sure_send mode).bind fun _ => ?_
  refine sure_get.bind fun c => (sure_check (Request.speeds_of_wheels ha hb)).bind fun speeds => ?_
  exact (sure_keepUp speeds _).bind fun _ => sure_modify _

theorem clean_holdDistance (distance : α) (a b : Int) : Clean (holdDistance distance a b) :=
  .get_bind fun _ => .check_bind fun seconds _ => clean_hold seconds a b

theorem clean_holdAngle (degrees : α) (a b : Int) : Clean (holdAngle degrees a b) :=
  .get_bind fun _ => .check_bind fun seconds _ => clean_hold seconds a b

theorem clean_wait (seconds : α) : Clean (wait seconds) :=
  .check_bind fun _ _ => (sure_modify _).clean

theorem clean_place (x y degrees : α) : Clean (place x y degrees) :=
  .check_bind fun _ _ => .check_bind fun x _ => .check_bind fun _ _ => .check_bind fun y _ =>
    .check_bind fun heading _ => (sure_send (x ++ y ++ heading)).clean

theorem sure_takeReplies (count : Nat) : Sure (takeReplies count : Work α _) := by
  induction count with
  | zero => exact sure_pure []
  | succ count ih =>
    refine sure_get.bind fun c => ?_
    cases h : c.timeline.replies.take? with
    | none => simpa using sure_pure []
    | some next =>
      obtain ⟨q, payload, rest⟩ := next
      obtain ⟨reply, read⟩ := ReplyStream.read_isOk (α := α) (ReplyStream.take?_some h).2
      refine (sure_modify _).bind fun _ => (sure_check read).bind fun reply => ?_
      exact ih.bind fun more => sure_pure ((q, reply) :: more)

theorem sure_read (bytes : List UInt8) : Sure (read bytes : Work α _) :=
  (sure_modify _).bind fun _ => sure_get.bind fun _ => sure_takeReplies _

/-- A call checks all it is given before it does anything. -/
theorem clean_work (call : Call α) : Clean (work call) := by
  cases call with
  | holdSeconds s a b => exact (clean_hold s a b).silent
  | forwardSeconds s v | backwardSeconds s v => exact (clean_hold s _ _).silent
  | holdDistance d a b => exact (clean_holdDistance d a b).silent
  | forward d v | backward d v => exact (clean_holdDistance d _ _).silent
  | holdAngle d a b => exact (clean_holdAngle d a b).silent
  | rotateLeft d v | rotateRight d v => exact (clean_holdAngle d _ _).silent
  | wait s => exact (clean_wait s).silent
  | stop => exact sure_stop.clean.silent
  | place x y d => exact (clean_place x y d).silent
  | query opcode => exact (clean_query opcode).silent
  | read bytes => exact (sure_read bytes).clean
  | reset => exact sure_reset.clean.silent

/-! ## Sequences of calls -/

/-- The calls of a sequence that are not refused. -/
def accepted (c : Client α) : List (Call α) → List (Call α)
  | [] => []
  | call :: rest =>
    match c.act call with
    | none => []
    | some ⟨d, .error _⟩ => d.accepted rest
    | some ⟨d, .ok _⟩ => call :: d.accepted rest

/-- Calls that lead from one client to another, none of them refused. -/
inductive Carried : Client α → List (Call α) → Client α → Prop
  | nil (c : Client α) : Carried c [] c
  | cons {c m d : Client α} {call : Call α} {calls replies} :
      c.act call = some ⟨m, .ok replies⟩ → Carried m calls d → Carried c (call :: calls) d

theorem act_refused {c d : Client α} {call : Call α} {f : Fault α}
    (h : c.act call = some ⟨d, .error f⟩) : d = c := by
  obtain ⟨⟨r, m⟩, run, same⟩ := Option.map_eq_some_iff.1 h
  cases same
  exact clean_work call c d f run

theorem carried_of_after {calls : List (Call α)} {c d : Client α} (h : c.after calls = some d) :
    Carried c (c.accepted calls) d := by
  induction calls generalizing c with
  | nil =>
    cases h
    exact .nil _
  | cons call rest ih =>
    obtain ⟨⟨m, result⟩, act, later⟩ := Option.bind_eq_some_iff.1 h
    rw [accepted, act]
    cases result with
    | error f =>
      obtain rfl := act_refused act
      exact ih later
    | ok replies => exact .cons act (ih later)

/-- A call that is refused has sent nothing and changed nothing, so what a sequence of calls leads
to is what the calls that are not refused lead to by themselves. -/
theorem refused_calls_do_nothing (c : Client α) :
    (∀ call d f, c.act call = some ⟨d, .error f⟩ → d = c) ∧
      ∀ calls d, c.after calls = some d → Carried c (c.accepted calls) d :=
  ⟨fun _ _ _ => act_refused, fun _ _ => carried_of_after⟩

/-- A speed and a place that are out of range, and a stop between them. -/
def straying : List (Call Float) :=
  [.holdSeconds (ofInt 1) 200 0, .wait (ofInt 1), .stop, .place (ofInt 70000) zero zero]

theorem refused_calls_do_nothing_straying :
    let c : Client Float := { timeline := ⟨.standard, zero, ofInt 1, {}⟩ }
    (∃ d f, c.act (.holdSeconds (ofInt 1) 200 0) = some ⟨d, .error f⟩ ∧ d = c) ∧
      ∃ d, c.after straying = some d ∧ Carried c [.wait (ofInt 1), .stop] d := by
  intro c
  have refused : c.act (.holdSeconds (ofInt 1) 200 0) =
      some ⟨c, .error (.outOfRange "wheel1" (-128) 127 200)⟩ := by rfl
  have returned : c.after straying =
      some ((c.moveTo (zero + ofInt 1)).push (Timeline.stopAll.flatMap Command.bytes)) := by rfl
  have same : c.accepted straying = [.wait (ofInt 1), .stop] := by rfl
  obtain ⟨nothing, carried⟩ := refused_calls_do_nothing c
  exact ⟨⟨c, _, refused, nothing _ _ _ refused⟩, _, returned, same ▸ carried _ _ returned⟩

end Client

end DifferentialDrive
