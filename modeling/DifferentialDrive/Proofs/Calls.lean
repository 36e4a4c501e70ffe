import DifferentialDrive.Proofs.Clients
import DifferentialDrive.Proofs.Keepalives

/-!
# Calls step by step and at once

What a client does step by step in a call is what its timeline says at once: where the timeline
refuses the call the client has done nothing, where it has an end the client returns from it and has
sent the same commands, and where the timeline finds that a hold has no end the client does not
return (`work_meets`).
-/

namespace DifferentialDrive

open Wire Scalar Binary64

variable {α β : Type}

/-! ## What a timeline says -/

namespace Timeline

variable [Scalar α]

/-- The seconds and the wheel speeds a call holds, if it is a move. -/
def move? (tl : Timeline α) : Call α → Option (Except (Fault α) α × Int × Int)
  | .holdSeconds s a b => some (.ok s, a, b)
  | .forwardSeconds s v => some (.ok s, v.natAbs, v.natAbs)
  | .backwardSeconds s v => some (.ok s, -v.natAbs, -v.natAbs)
  | .holdDistance d a b => some (tl.secondsForDistance d a b, a, b)
  | .forward d v => some (tl.secondsForDistance d v.natAbs v.natAbs, v.natAbs, v.natAbs)
  | .backward d v => some (tl.secondsForDistance d (-v.natAbs) (-v.natAbs), -v.natAbs, -v.natAbs)
  | .holdAngle d a b => some (tl.secondsForAngle d a b, a, b)
  | .rotateLeft d v => some (tl.secondsForAngle d (-v.natAbs) v.natAbs, -v.natAbs, v.natAbs)
  | .rotateRight d v => some (tl.secondsForAngle d v.natAbs (-v.natAbs), v.natAbs, -v.natAbs)
  | _ => none

theorem perform_of_move? {tl : Timeline α} {call : Call α} {seconds : Except (Fault α) α}
    {a b : Int} (h : tl.move? call = some (seconds, a, b)) :
    tl.perform call = seconds >>= fun s => tl.hold s a b := by
  cases call <;> cases h <;> rfl

/-- A hold whose last command is the one sent `n` keepalives after the first. -/
def heldFor (tl : Timeline α) (seconds : α) (n : Nat) (wheel1 wheel2 : Int) : Reaction α where
  timeline := { tl with t := tl.t + seconds }
  pushes := ⟨tl.t, [.mode 0]⟩ :: (instants tl.t tl.keepalive n).map fun u =>
    ⟨u, [.speed1 (wheel1 + 128).toNat.toUInt8, .speed2 (wheel2 + 128).toNat.toUInt8]⟩
  events := [.holding tl.t wheel1 wheel2 seconds]

/-- A hold that is not refused. -/
theorem hold_eq {seconds : α} {a b : Int} (hs : ¬ seconds < zero)
    (ha : -128 ≤ a ∧ a ≤ 127) (hb : -128 ≤ b ∧ b ≤ 127) (tl : Timeline α) :
    tl.hold seconds a b =
      match holdStamps tl.keepalive (tl.t + seconds) holdLimit tl.t with
      | none => .error .endlessHold
      | some us => .ok {
          timeline := { tl with t := tl.t + seconds }
          pushes := ⟨tl.t, [.mode 0]⟩ :: us.map fun u =>
            ⟨u, [.speed1 (a + 128).toNat.toUInt8, .speed2 (b + 128).toNat.toUInt8]⟩
          events := [.holding tl.t a b seconds] } := by
  have passed : nonNegative "seconds" seconds = .ok seconds := if_neg hs
  have first : wheel "wheel1" a = (.ok a : Except (Fault α) _) := if_pos ha
  have second : wheel "wheel2" b = (.ok b : Except (Fault α) _) := if_pos hb
  have mode : Request.mode 0 = (.ok [.mode 0] : Except (Fault α) _) := rfl
  simp only [hold, passed, first, second, mode, bind, Except.bind,
    Request.speeds_of_wheels ha hb]
  cases holdStamps tl.keepalive (tl.t + seconds) holdLimit tl.t <;> rfl

theorem heldFor_of_hold {tl : Timeline α} {seconds : α} {a b : Int} {r : Reaction α}
    (h : tl.hold seconds a b = .ok r) :
    ¬ seconds < zero ∧ ∃ n, EndsAfter tl.t tl.keepalive (tl.t + seconds) n ∧
      r = tl.heldFor seconds n a b := by
  obtain ⟨s, hs, rest⟩ := ok_of_bind h
  obtain ⟨x, hx, rest⟩ := ok_of_bind rest
  obtain ⟨y, hy, -⟩ := ok_of_bind rest
  obtain ⟨rfl, notNegative⟩ := nonNegative_ok hs
  obtain ⟨rfl, ha⟩ := wheel_ok hx
  obtain ⟨rfl, hb⟩ := wheel_ok hy
  rw [hold_eq notNegative ha hb] at h
  split at h
  · cases h
  · next us found =>
    cases h
    obtain ⟨n, ends, rfl⟩ := endsAfter_of_holdStamps found
    exact ⟨notNegative, n, ends, rfl⟩

end Timeline

namespace Client

/-! ## What a client does -/

/-- Takes over what a call to the timeline came to. -/
def react (c : Client α) (r : Reaction α) : Client α where
  timeline := r.timeline
  sent := c.sent ++ (r.pushes.map Push.packet).toArray
  journal := c.journal ++ r.events.toArray

/-- What work comes to is what the timeline says. -/
inductive Meets (c : Client α) :
    Option (Except (Fault α) (List (Query × Reply α)) × Client α) →
      Except (Fault α) (Reaction α) → Prop
  | done (r : Reaction α) : Meets c (some (.ok r.replies, c.react r)) (.ok r)
  | refused (f : Fault α) : Meets c (some (.error f, c)) (.error f)
  | endless : Meets c none (.error .endlessHold)

variable {c : Client α}

theorem meets_check {r : Except (Fault α) β} {g : β → Work α (List (Query × Reply α))}
    {q : β → Except (Fault α) (Reaction α)}
    (next : ∀ b, r = .ok b → c.Meets ((g b).run.run c) (q b)) :
    c.Meets ((check r >>= g).run.run c) (r >>= q) := by
  cases r with
  | error f => exact .refused f
  | ok b => exact next b rfl

theorem silent_bind (w : Work α β) (g : β → Work α Unit) :
    silent (w >>= g) = w >>= fun b => silent (g b) := by
  simp [silent]

theorem react_send (c : Client α) (tl : Timeline α) (commands : List Command) :
    c.react (tl.send commands) =
      ({ c with timeline := tl } : Client α).push (commands.flatMap Command.bytes) := by
  simp [react, Timeline.send, push, Push.packet, Push.bytes]

theorem react_timeline (c : Client α) (tl : Timeline α) (replies : List (Query × Reply α)) :
    c.react { timeline := tl, replies := replies } = { c with timeline := tl } := by
  simp [react]

theorem meets_stop (c : Client α) :
    c.Meets ((silent stop).run.run c) (.ok (c.timeline.send Timeline.stopAll)) := by
  have done := Meets.done (c := c) (c.timeline.send Timeline.stopAll)
  rw [react_send] at done
  exact done

theorem meets_reset (c : Client α) :
    c.Meets ((silent reset).run.run c) (.ok c.timeline.reset) := by
  have done := Meets.done (c := c) c.timeline.reset
  have same : c.react c.timeline.reset = (if c.timeline.replies.pending.isEmpty then c else
      c.note (.queriesDropped c.timeline.replies.pending.length)).expecting {} := by
    unfold Timeline.reset react
    split <;> simp [note, expecting]
  rw [same] at done
  change c.Meets ((silent (do
    unless c.timeline.replies.pending.isEmpty do
      modify (·.note (.queriesDropped c.timeline.replies.pending.length))
    modify (·.expecting {}))).run.run c) _
  split at done
  · next none =>
    simp only [none]
    exact done
  · next some =>
    simp only [some]
    exact done

theorem meets_query (c : Client α) (opcode : Int) :
    c.Meets ((silent (query opcode)).run.run c) (c.timeline.query opcode) := by
  simp only [query, silent_bind]
  change c.Meets ((check (c.timeline.replies.expect opcode) >>= fun replies => _).run.run c) _
  cases known : Query.ofCode? opcode with
  | none =>
    simp only [Timeline.query, ReplyStream.expect, known]
    exact .refused _
  | some q =>
    have awaited : c.timeline.replies.expect opcode = (.ok { c.timeline.replies with
        pending := c.timeline.replies.pending ++ [q] } : Except (Fault α) _) := by
      rw [ReplyStream.expect, known]
    obtain ⟨p, same, -, raw⟩ := ReplyStream.raw_of_expect awaited
    obtain rfl : q = p := Option.some.inj (known.symm.trans same)
    simp only [Timeline.query, known, awaited]
    change c.Meets ((check (Request.raw opcode []) >>= fun bytes => silent (modify (·.push bytes))
      ).run.run (c.expecting _)) (.ok (Timeline.send _ [.query q]))
    rw [raw]
    have done := Meets.done (c := c) (Timeline.send { c.timeline with
      replies.pending := c.timeline.replies.pending ++ [q] } [.query q])
    rw [react_send, List.flatMap_singleton] at done
    exact done

variable [Scalar α]

theorem takeReplies_succ (count : Nat) (c : Client α) :
    (takeReplies (count + 1)).run.run c =
      (match c.timeline.replies.take? with
        | none => return []
        | some (q, payload, rest) => do
          modify (·.expecting rest)
          let reply ← check (Reply.read (some q) payload)
          return (q, reply) :: (← takeReplies count) : Work α _).run.run c :=
  rfl

/-- Replies are taken as they are popped. -/
theorem takeReplies_run (count : Nat) (c : Client α) :
    ∃ replies rest, ReplyStream.popUpTo count c.timeline.replies =
        (.ok (replies, rest) : Except (Fault α) _) ∧
      (takeReplies count).run.run c = some (.ok replies, c.expecting rest) := by
  induction count generalizing c with
  | zero => exact ⟨[], c.timeline.replies, rfl, rfl⟩
  | succ count ih =>
    rw [ReplyStream.popUpTo, ReplyStream.pop, takeReplies_succ]
    cases taken : c.timeline.replies.take? with
    | none => exact ⟨[], c.timeline.replies, rfl, rfl⟩
    | some next =>
      obtain ⟨q, payload, rest⟩ := next
      obtain ⟨reply, read⟩ := ReplyStream.read_isOk (α := α) (ReplyStream.take?_some taken).2
      obtain ⟨replies, last, popped, run⟩ := ih (c.expecting rest)
      change ReplyStream.popUpTo count rest = _ at popped
      refine ⟨(q, reply) :: replies, last, ?_, ?_⟩
      · simp only [read]
        change (ReplyStream.popUpTo count rest >>= fun next =>
          .ok ((q, reply) :: next.1, next.2) : Except (Fault α) _) = _
        rw [popped]
        rfl
      · change (check (Reply.read (some q) payload) >>= fun reply => do
          let more ← takeReplies count
          return (q, reply) :: more : Work α _).run.run (c.expecting rest) = _
        rw [read]
        change (takeReplies count >>= fun more => pure ((q, reply) :: more)).run.run
          (c.expecting rest) = _
        rw [ExceptT.run_bind, StateT.run_bind, run]
        rfl

theorem meets_read (c : Client α) (bytes : List UInt8) :
    c.Meets ((read bytes).run.run c) (c.timeline.read bytes) := by
  obtain ⟨replies, rest, popped, run⟩ := takeReplies_run c.timeline.replies.pending.length
    (c.expecting (c.timeline.replies.push bytes))
  have done := Meets.done (c := c)
    { timeline := { c.timeline with replies := rest }, replies := replies }
  rw [react_timeline] at done
  change ReplyStream.popAll (c.timeline.replies.push bytes) = _ at popped
  change c.Meets ((takeReplies c.timeline.replies.pending.length).run.run
    (c.expecting (c.timeline.replies.push bytes))) _
  rw [Timeline.read, popped, run]
  exact done

theorem meets_place (c : Client α) (x y degrees : α) :
    c.Meets ((silent (place x y degrees)).run.run c) (c.timeline.place x y degrees) := by
  simp only [place, silent_bind]
  refine meets_check fun x _ => meets_check fun x _ => meets_check fun y _ => meets_check fun y _ =>
    meets_check fun heading _ => ?_
  have done := Meets.done (c := c) (c.timeline.send (x ++ y ++ heading))
  rw [react_send] at done
  exact done

theorem meets_wait (c : Client α) (seconds : α) :
    c.Meets ((silent (wait seconds)).run.run c) (c.timeline.perform (.wait seconds)) := by
  simp only [wait, silent_bind]
  refine meets_check fun s _ => ?_
  have done := Meets.done (c := c) { timeline := { c.timeline with t := c.timeline.t + s } }
  rw [react_timeline] at done
  exact done

/-! ## Holds -/

theorem react_heldFor (c : Client α) (seconds : α) (n : Nat) (a b : Int) :
    c.react (c.timeline.heldFor seconds n a b) =
      (((c.note (.holding c.timeline.t a b seconds)).push (Command.mode 0).bytes).kept
        ([Command.speed1 (a + 128).toNat.toUInt8, .speed2 (b + 128).toNat.toUInt8].flatMap
          Command.bytes) n).moveTo (c.timeline.t + seconds) := by
  simp [react, Timeline.heldFor, kept, push, note, moveTo, Push.packet, Push.bytes,
    Function.comp_def]

theorem keepUp_run (speeds : List Command) (finish : α) (c : Client α) :
    (keepUp speeds finish >>= fun _ => silent (modify (·.moveTo finish))).run.run c =
      (keepSending (speeds.flatMap Command.bytes) finish c).map fun d =>
        (.ok [], d.moveTo finish) := by
  rw [ExceptT.run_bind, StateT.run_bind]
  change Option.bind ((keepSending _ _ c).map _) _ = _
  cases keepSending (speeds.flatMap Command.bytes) finish c <;> rfl

/-- A hold that is not refused comes to what its end decides. -/
theorem hold_run {seconds : α} {a b : Int} (hs : ¬ seconds < zero) (ha : -128 ≤ a ∧ a ≤ 127)
    (hb : -128 ≤ b ∧ b ≤ 127) (c : Client α) :
    (silent (hold seconds a b)).run.run c =
      (keepSending ([Command.speed1 (a + 128).toNat.toUInt8,
          .speed2 (b + 128).toNat.toUInt8].flatMap Command.bytes) (c.timeline.t + seconds)
        ((c.note (.holding c.timeline.t a b seconds)).push (Command.mode 0).bytes)).map fun d =>
          (.ok [], d.moveTo (c.timeline.t + seconds)) := by
  have passed : Timeline.nonNegative "seconds" seconds = .ok seconds := if_neg hs
  have first : Timeline.wheel "wheel1" a = (.ok a : Except (Fault α) _) := if_pos ha
  have second : Timeline.wheel "wheel2" b = (.ok b : Except (Fault α) _) := if_pos hb
  simp only [hold, silent_bind, passed, first, second]
  change (do
    let speeds ← check (Request.speeds (a + 128) (b + 128))
    keepUp speeds (c.timeline.t + seconds)
    silent (modify (·.moveTo (c.timeline.t + seconds))) : Work α _).run.run
      ((c.note (.holding c.timeline.t a b seconds)).push _) = _
  rw [Request.speeds_of_wheels ha hb, ← keepUp_run]
  rfl

/-- A client returns from a hold that is not refused exactly if its end is reached. -/
theorem hold_eq_some_iff {seconds : α} {a b : Int} (hs : ¬ seconds < zero)
    (ha : -128 ≤ a ∧ a ≤ 127) (hb : -128 ≤ b ∧ b ≤ 127) {c d : Client α}
    {result : Except (Fault α) (List (Query × Reply α))} :
    (silent (hold seconds a b)).run.run c = some (result, d) ↔
      ∃ n, EndsAfter c.timeline.t c.timeline.keepalive (c.timeline.t + seconds) n ∧
        result = .ok [] ∧ d = c.react (c.timeline.heldFor seconds n a b) := by
  simp only [hold_run hs ha hb, react_heldFor, Option.map_eq_some_iff, keepSending_eq_some_iff]
  constructor
  · rintro ⟨m, ⟨n, ends, rfl⟩, same⟩
    cases same
    exact ⟨n, ends, rfl, rfl⟩
  · rintro ⟨n, ends, rfl, rfl⟩
    exact ⟨_, ⟨n, ends, rfl⟩, rfl⟩

/-- A move is a hold of the seconds it comes to. -/
theorem work_of_move? {call : Call α} {seconds : Except (Fault α) α} {a b : Int}
    (moves : c.timeline.move? call = some (seconds, a, b)) :
    (work call).run.run c = (check seconds >>= fun s => silent (hold s a b)).run.run c := by
  cases call with
  | holdSeconds | forwardSeconds | backwardSeconds =>
    cases moves
    rfl
  | holdDistance | forward | backward =>
    cases moves
    simp only [work, holdDistance, silent_bind]
    rfl
  | holdAngle | rotateLeft | rotateRight =>
    cases moves
    simp only [work, holdAngle, silent_bind]
    rfl
  | _ => cases moves

theorem act_of_move? {call : Call α} {s : α} {a b : Int}
    (moves : c.timeline.move? call = some (.ok s, a, b)) (hs : ¬ s < zero)
    (ha : -128 ≤ a ∧ a ≤ 127) (hb : -128 ≤ b ∧ b ≤ 127)
    {o : Outcome (Client α) (Fault α) (List (Query × Reply α))} :
    c.act call = some o ↔
      ∃ n, EndsAfter c.timeline.t c.timeline.keepalive (c.timeline.t + s) n ∧
        o = ⟨c.react (c.timeline.heldFor s n a b), .ok []⟩ := by
  rw [act, Option.map_eq_some_iff, work_of_move? moves]
  constructor
  · rintro ⟨⟨result, d⟩, run, rfl⟩
    obtain ⟨n, ends, rfl, rfl⟩ := (hold_eq_some_iff hs ha hb).1 run
    exact ⟨n, ends, rfl⟩
  · rintro ⟨n, ends, rfl⟩
    exact ⟨_, (hold_eq_some_iff hs ha hb).2 ⟨n, ends, rfl, rfl⟩, rfl⟩

section Numbers

variable {c : Client Float} (kept : ¬ c.timeline.keepalive ≤ Scalar.zero)
include kept

theorem meets_hold (seconds : Float) (a b : Int) :
    c.Meets ((silent (hold seconds a b)).run.run c) (c.timeline.hold seconds a b) := by
  cases hs : Timeline.nonNegative "seconds" seconds with
  | error f =>
    simp only [hold, silent_bind, Timeline.hold, hs]
    exact .refused f
  | ok s =>
  cases hx : (Timeline.wheel "wheel1" a : Except (Fault Float) _) with
  | error f =>
    simp only [hold, silent_bind, Timeline.hold, hs, hx]
    exact .refused f
  | ok x =>
  cases hy : (Timeline.wheel "wheel2" b : Except (Fault Float) _) with
  | error f =>
    simp only [hold, silent_bind, Timeline.hold, hs, hx, hy]
    exact .refused f
  | ok y =>
    obtain ⟨rfl, notNegative⟩ := Timeline.nonNegative_ok hs
    obtain ⟨rfl, ha⟩ := Timeline.wheel_ok hx
    obtain ⟨rfl, hb⟩ := Timeline.wheel_ok hy
    rw [Timeline.hold_eq notNegative ha hb]
    cases run : (silent (hold s x y)).run.run c with
    | none =>
      cases found : Timeline.holdStamps c.timeline.keepalive (c.timeline.t + s)
          Timeline.holdLimit c.timeline.t with
      | none => exact .endless
      | some us =>
        obtain ⟨n, ends, -⟩ := Timeline.endsAfter_of_holdStamps found
        rw [(hold_eq_some_iff notNegative ha hb).2 ⟨n, ends, rfl, rfl⟩] at run
        cases run
    | some next =>
      obtain ⟨result, d⟩ := next
      obtain ⟨n, ends, rfl, rfl⟩ := (hold_eq_some_iff notNegative ha hb).1 run
      rw [(Timeline.holdStamps_eq_some_iff kept).2 ⟨n, ends, rfl⟩]
      exact .done (c.timeline.heldFor s n x y)

theorem meets_holdDistance (distance : Float) (a b : Int) :
    c.Meets ((silent (holdDistance distance a b)).run.run c)
      (c.timeline.holdDistance distance a b) := by
  simp only [holdDistance, silent_bind]
  exact meets_check fun s _ => meets_hold kept s a b

theorem meets_holdAngle (degrees : Float) (a b : Int) :
    c.Meets ((silent (holdAngle degrees a b)).run.run c) (c.timeline.holdAngle degrees a b) := by
  simp only [holdAngle, silent_bind]
  exact meets_check fun s _ => meets_hold kept s a b

/-- What a client does in a call is what its timeline says the call comes to. -/
theorem work_meets (call : Call Float) :
    c.Meets ((work call).run.run c) (c.timeline.perform call) := by
  cases call with
  | holdSeconds s a b => exact meets_hold kept s a b
  | forwardSeconds s v | backwardSeconds s v => exact meets_hold kept s _ _
  | holdDistance d a b => exact meets_holdDistance kept d a b
  | forward d v | backward d v => exact meets_holdDistance kept d _ _
  | holdAngle d a b => exact meets_holdAngle kept d a b
  | rotateLeft d v | rotateRight d v => exact meets_holdAngle kept d _ _
  | wait s => exact meets_wait c s
  | stop => exact meets_stop c
  | place x y d => exact meets_place c x y d
  | query opcode => exact meets_query c opcode
  | read bytes => exact meets_read c bytes
  | reset => exact meets_reset c

end Numbers

end Client

end DifferentialDrive
