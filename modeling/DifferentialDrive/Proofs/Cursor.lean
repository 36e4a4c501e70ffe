import DifferentialDrive.Proofs.Calls

/-!
# The cursor

The cursor of a client never goes back, so what it sends is in order. Every call sends between where
it finds the cursor and where it leaves it (`InOrder`), and one call begins where the one before it
ended (`Later.trans`).
-/

namespace DifferentialDrive

open Wire Scalar
open Binary64 hiding ofInt

/-! ## Instants in order -/

/-- Instants that do not go back, none of them before `a` or after `b`. -/
structure InOrder {α : Type} [Scalar α] (a : α) (us : List α) (b : α) : Prop where
  sorted : us.Pairwise (· ≤ ·)
  first : ∀ u ∈ us, a ≤ u
  last : ∀ u ∈ us, u ≤ b
  le : a ≤ b

namespace InOrder

variable {α : Type} [Scalar α] {a b c : α} {us vs : List α}

theorem nil (h : a ≤ b) : InOrder a [] b where
  sorted := .nil
  first := by simp
  last := by simp
  le := h

variable [Ordered α]

theorem singleton (ha : isNaN a = false) (h : a ≤ b) : InOrder a [a] b where
  sorted := List.pairwise_singleton _ a
  first := by simpa using le_self ha
  last := by simpa using h
  le := h

theorem append (h : InOrder a us b) (h' : InOrder b vs c) : InOrder a (us ++ vs) c where
  sorted := List.pairwise_append.2 ⟨h.sorted, h'.sorted, fun u hu v hv =>
    Ordered.le_trans (h.last u hu) (h'.first v hv)⟩
  first u hu := (List.mem_append.1 hu).elim (h.first u) fun hv =>
    Ordered.le_trans h.le (h'.first u hv)
  last u hu := (List.mem_append.1 hu).elim (fun hv => Ordered.le_trans (h.last u hv) h'.le)
    (h'.last u)
  le := Ordered.le_trans h.le h'.le

end InOrder

section

variable {t s k : Float} {n : Nat}

theorem inOrder_instants (above : Scalar.zero ≤ k) (number : (stepped t k n).isNaN = false) :
    InOrder t (instants t k n) (stepped t k n) := by
  induction n generalizing t with
  | zero =>
    exact .singleton number (le_self number)
  | succ n ih =>
    rw [← stepped_add] at number ⊢
    have next := isNaN_of_stepped number
    rw [instants_succ]
    exact (InOrder.singleton (isNaN_of_add next).1 (le_add above next)).append (ih number)

/-- The last command of a hold is not behind its end. -/
theorem EndsAfter.le_finish (ends : EndsAfter t k (t + s) n) (notNegative : ¬ s < Scalar.zero) :
    stepped t k n ≤ t + s := by
  obtain ⟨number, number'⟩ := isNaN_of_le ends.reached
  rw [stepped_succ] at number'
  cases n with
  | zero => exact le_add (le_of_not_lt (isNaN_of_add number).2 rfl notNegative) number
  | succ n =>
    have early := ends.early n n.lt_succ_self
    exact (Ordered.lt_iff.1 (lt_of_not_le (isNaN_of_add number').1 number early)).1

end

/-! ## Calls in order -/

namespace Timeline

variable {tl : Timeline Float} {seconds start : Float} {n : Nat} {a b : Int}

theorem create_ok {chassis : Chassis Float} {start keepalive : Float}
    (h : create chassis start keepalive = .ok tl) :
    ¬ tl.keepalive ≤ Scalar.zero ∧ tl.t = start := by
  unfold create at h
  split at h
  · cases h
  · next kept =>
    cases h
    exact ⟨kept, rfl⟩

theorem inOrder_heldFor (kept : ¬ tl.keepalive ≤ Scalar.zero)
    (notNegative : ¬ seconds < Scalar.zero)
    (ends : EndsAfter tl.t tl.keepalive (tl.t + seconds) n) :
    InOrder tl.t ((tl.heldFor seconds n a b).pushes.map Push.stamp) (tl.t + seconds) := by
  have number := (isNaN_of_le ends.reached).2
  rw [stepped_succ] at number
  obtain ⟨last, width⟩ := isNaN_of_add number
  have above : Scalar.zero ≤ tl.keepalive := (Ordered.lt_iff.1 (lt_of_not_le rfl width kept)).1
  have begun : tl.t.isNaN = false := isNaN_of_stepped last
  have sent := (inOrder_instants above last).append (.nil (ends.le_finish notNegative))
  simpa [heldFor, Function.comp_def] using
    (InOrder.singleton begun (le_self begun)).append sent

/-- A call goes forward from the cursor and sends on the way. -/
theorem inOrder_of_perform (kept : ¬ tl.keepalive ≤ Scalar.zero) (finite : start.isFinite = true)
    (behind : start ≤ tl.t) {call : Call Float} (waits : ∀ s, call = .wait s → s.isNaN = false)
    {r : Reaction Float} (h : tl.perform call = .ok r) :
    r.timeline.keepalive = tl.keepalive ∧
      InOrder tl.t (r.pushes.map Push.stamp) r.timeline.t := by
  have number := (isNaN_of_le behind).2
  have here : InOrder tl.t [tl.t] tl.t := .singleton number (le_self number)
  have nothing : InOrder tl.t [] tl.t := .nil (le_self number)
  -- a move is a hold, and of the other calls only a wait moves the cursor
  cases moves : tl.move? call with
  | some move =>
    obtain ⟨seconds, a, b⟩ := move
    rw [perform_of_move? moves] at h
    obtain ⟨s, -, h⟩ := ok_of_bind h
    obtain ⟨notNegative, n, ends, rfl⟩ := heldFor_of_hold h
    exact ⟨rfl, inOrder_heldFor kept notNegative ends⟩
  | none =>
    cases call with
    | holdSeconds | holdDistance | holdAngle | forward | backward | forwardSeconds
    | backwardSeconds | rotateLeft | rotateRight => cases moves
    | wait s =>
      obtain ⟨x, passed, h⟩ := ok_of_bind h
      cases h
      obtain ⟨rfl, notNegative⟩ := nonNegative_ok passed
      have above : Scalar.zero ≤ x := le_of_not_lt (waits x rfl) rfl notNegative
      exact ⟨rfl, .nil (le_add above (isNaN_add_of_le finite behind above))⟩
    | stop =>
      cases h
      exact ⟨rfl, here⟩
    | place x y d =>
      obtain ⟨x, -, h⟩ := ok_of_bind h
      obtain ⟨x, -, h⟩ := ok_of_bind h
      obtain ⟨y, -, h⟩ := ok_of_bind h
      obtain ⟨y, -, h⟩ := ok_of_bind h
      obtain ⟨heading, -, h⟩ := ok_of_bind h
      cases h
      exact ⟨rfl, here⟩
    | query opcode =>
      simp only [perform, query] at h
      split at h
      · cases h
      · obtain ⟨replies, -, h⟩ := ok_of_bind h
        cases h
        exact ⟨rfl, here⟩
    | read bytes =>
      obtain ⟨⟨replies, rest⟩, -, h⟩ := ok_of_bind h
      cases h
      exact ⟨rfl, nothing⟩
    | reset =>
      cases h
      exact ⟨rfl, nothing⟩

end Timeline

namespace Client

/-- The instants of all a client sent. -/
def stamps {α : Type} (c : Client α) : List α := c.sent.toList.map Packet.stamp

/-- What a client does on the way from `c` to `d` is in order. -/
structure Later (c d : Client Float) : Prop where
  keepalive : d.timeline.keepalive = c.timeline.keepalive
  sent : ∃ new, d.stamps = c.stamps ++ new ∧ InOrder c.timeline.t new d.timeline.t

theorem Later.le {c d : Client Float} (h : Later c d) : c.timeline.t ≤ d.timeline.t :=
  h.sent.choose_spec.2.le

theorem Later.refl {c : Client Float} (number : c.timeline.t.isNaN = false) : Later c c :=
  ⟨rfl, [], by simp, .nil (le_self number)⟩

theorem Later.trans {c m d : Client Float} (h : Later c m) (h' : Later m d) : Later c d := by
  obtain ⟨us, hus, order⟩ := h.sent
  obtain ⟨vs, hvs, order'⟩ := h'.sent
  exact ⟨h'.keepalive.trans h.keepalive, us ++ vs, by rw [hvs, hus, List.append_assoc],
    order.append order'⟩

/-- A client takes over what its timeline says of a call. -/
theorem perform_of_act {c : Client Float} {call : Call Float}
    {o : Outcome (Client Float) (Fault Float) (List (Query × Reply Float))}
    (kept : ¬ c.timeline.keepalive ≤ Scalar.zero) (h : c.act call = some o) :
    (∃ r, c.timeline.perform call = .ok r ∧ o = ⟨c.react r, .ok r.replies⟩) ∨
      ∃ f, c.timeline.perform call = .error f ∧ o = ⟨c, .error f⟩ := by
  obtain ⟨⟨result, d⟩, run, rfl⟩ := Option.map_eq_some_iff.1 h
  have meets := work_meets kept call
  rw [run] at meets
  generalize c.timeline.perform call = performed at meets
  cases meets with
  | done r => exact .inl ⟨r, rfl, rfl⟩
  | refused f => exact .inr ⟨f, rfl, rfl⟩

section Calls

variable {c d : Client Float} {start : Float} (kept : ¬ c.timeline.keepalive ≤ Scalar.zero)
  (finite : start.isFinite = true) (behind : start ≤ c.timeline.t)
include kept finite behind

theorem later_of_act {call : Call Float} (waits : ∀ s, call = .wait s → s.isNaN = false)
    {o : Outcome (Client Float) (Fault Float) (List (Query × Reply Float))}
    (h : c.act call = some o) : Later c o.state := by
  obtain ⟨r, performed, rfl⟩ | ⟨f, -, rfl⟩ := perform_of_act kept h
  · obtain ⟨same, order⟩ := Timeline.inOrder_of_perform kept finite behind waits performed
    refine ⟨same, r.pushes.map Push.stamp, ?_, order⟩
    simp [stamps, react, Function.comp_def, Push.packet]
  · exact .refl (isNaN_of_le behind).2

theorem later_of_after {calls : List (Call Float)}
    (waits : ∀ s, Call.wait s ∈ calls → s.isNaN = false) (h : c.after calls = some d) :
    Later c d := by
  induction calls generalizing c with
  | nil =>
    cases h
    exact .refl (isNaN_of_le behind).2
  | cons call rest ih =>
    obtain ⟨o, acted, h⟩ := Option.bind_eq_some_iff.1 h
    have first := later_of_act kept finite behind (fun s same => waits s (by simp [same])) acted
    refine first.trans (ih ?_ (Ordered.le_trans behind first.le) (fun s hs => ?_) h)
    · rwa [first.keepalive]
    · exact waits s (List.mem_cons_of_mem _ hs)

end Calls

theorem after_cons {α : Type} [Scalar α] (c : Client α) (call : Call α) (rest : List (Call α)) :
    c.after (call :: rest) = (c.act call).bind fun o => o.state.after rest := rfl

theorem after_append {α : Type} [Scalar α] (c : Client α) (xs ys : List (Call α)) :
    c.after (xs ++ ys) = (c.after xs).bind (·.after ys) := by
  induction xs generalizing c with
  | nil => rfl
  | cons call rest ih =>
    rw [List.cons_append, after_cons, after_cons, Option.bind_assoc]
    exact congrArg _ (funext fun o => ih o.state)

/-- What a client becomes by holding wheel speeds: it sends the mode, then the speeds at the cursor
and after each of `n` keepalives, and is left at the end. -/
structure Held (c : Client Float) (seconds : Float) (wheel1 wheel2 : Int) (n : Nat)
    (d : Client Float) : Prop where
  early : ∀ i < n, stepped c.timeline.t c.timeline.keepalive i + c.timeline.keepalive <
    c.timeline.t + seconds
  reached : c.timeline.t + seconds ≤
    stepped c.timeline.t c.timeline.keepalive n + c.timeline.keepalive
  timeline : d.timeline = { c.timeline with t := c.timeline.t + seconds }
  sent : d.sent.toList = c.sent.toList ++ ⟨c.timeline.t, (Command.mode 0).bytes⟩ ::
    (List.range (n + 1)).map fun i => ⟨stepped c.timeline.t c.timeline.keepalive i,
      (Command.speed1 (wheel1 + 128).toNat.toUInt8).bytes ++
        (Command.speed2 (wheel2 + 128).toNat.toUInt8).bytes⟩

theorem held_react {c : Client Float} {seconds : Float} {a b : Int} {n : Nat}
    (ends : EndsAfter c.timeline.t c.timeline.keepalive (c.timeline.t + seconds) n) :
    c.Held seconds a b n (c.react (c.timeline.heldFor seconds n a b)) := by
  obtain ⟨number, number'⟩ := isNaN_of_le ends.reached
  refine ⟨fun i hi => ?_, ?_, rfl, ?_⟩
  · rw [← stepped_succ]
    refine lt_of_not_le ?_ number (ends.early i hi)
    obtain ⟨m, rfl⟩ : ∃ m, n = i + m := ⟨n - i, by omega⟩
    rw [Nat.add_right_comm, ← stepped_stepped] at number'
    exact isNaN_of_stepped number'
  · rw [← stepped_succ]
    exact ends.reached
  · simp [react, Timeline.heldFor, instants, Push.packet, Push.bytes, Function.comp_def]

/-- The cursor never goes back, all that is sent is in order, and every move that is not refused
holds its speeds from the cursor to its end. Of all arguments only those of waits have to be
numbers, for a hold whose end is no number does not return. -/
theorem calls_go_forward {chassis : Chassis Float} {start keepalive : Float} {tl : Timeline Float}
    (ready : Timeline.create chassis start keepalive = .ok tl) (finite : start.isFinite = true)
    {calls : List (Call Float)} (waits : ∀ s, Call.wait s ∈ calls → s.isNaN = false)
    {d : Client Float} (returned : ({ timeline := tl } : Client Float).after calls = some d) :
    d.stamps.Pairwise (· ≤ ·) ∧
      ∀ before call rest, calls = before ++ call :: rest →
        ∃ c o, ({ timeline := tl } : Client Float).after before = some c ∧ c.act call = some o ∧
          c.timeline.t ≤ o.state.timeline.t ∧
          ∀ replies seconds wheel1 wheel2, o.result = .ok replies →
            c.timeline.move? call = some (.ok seconds, wheel1, wheel2) →
            ∃ n, c.Held seconds wheel1 wheel2 n o.state := by
  obtain ⟨kept, rfl⟩ := Timeline.create_ok ready
  have later {calls : List (Call Float)} (waits : ∀ s, Call.wait s ∈ calls → s.isNaN = false)
      {c : Client Float} (returned : ({ timeline := tl } : Client Float).after calls = some c) :
      Later { timeline := tl } c :=
    later_of_after kept finite (le_self (isNaN_of_isFinite finite)) waits returned
  constructor
  · obtain ⟨new, sent, order⟩ := (later waits returned).sent
    rw [sent]
    exact order.sorted
  · rintro before call rest rfl
    rw [after_append] at returned
    obtain ⟨c, first, returned⟩ := Option.bind_eq_some_iff.1 returned
    rw [after_cons] at returned
    obtain ⟨o, acted, -⟩ := Option.bind_eq_some_iff.1 returned
    have before := later (fun s hs => waits s (by simp [hs])) first
    have kept' : ¬ c.timeline.keepalive ≤ Scalar.zero := by rwa [before.keepalive]
    have forward := later_of_act kept' finite before.le
      (fun s same => waits s (by simp [same])) acted
    refine ⟨c, o, first, acted, forward.le, ?_⟩
    intro replies seconds a b done moves
    obtain ⟨r, performed, rfl⟩ | ⟨f, -, rfl⟩ := perform_of_act kept' acted
    · rw [Timeline.perform_of_move? moves] at performed
      obtain ⟨-, n, ends, rfl⟩ := Timeline.heldFor_of_hold performed
      exact ⟨n, held_react ends⟩
    · cases done

/-- A hold of two and a half seconds, a second's rest and a stop. -/
def shortDrive : List (Call Float) :=
  [.holdSeconds (ofInt 5 / ofInt 2) 100 100, .wait (ofInt 1), .stop]

theorem calls_go_forward_shortDrive :
    let c : Client Float := { timeline := ⟨.standard, zero, ofInt 1, {}⟩ }
    ∃ d, c.after shortDrive = some d ∧ d.stamps.Pairwise (· ≤ ·) ∧
      ∃ o, c.act (.holdSeconds (ofInt 5 / ofInt 2) 100 100) = some o ∧
        ∃ n, c.Held (ofInt 5 / ofInt 2) 100 100 n o.state := by
  intro c
  have ready : Timeline.create .standard zero (ofInt 1) = .ok c.timeline := by rfl
  have ends : EndsAfter c.timeline.t c.timeline.keepalive
      (c.timeline.t + ofInt 5 / ofInt 2) 2 := by
    constructor <;> decide +kernel
  have asks : c.timeline.move? (.holdSeconds (ofInt 5 / ofInt 2) 100 100) =
      some (.ok (ofInt 5 / ofInt 2), 100, 100) := rfl
  have held := (act_of_move? asks (by decide +kernel) (by decide) (by decide)).2 ⟨2, ends, rfl⟩
  obtain ⟨d, returned⟩ : ∃ d, c.after shortDrive = some d := by
    rw [shortDrive, after_cons, held]
    exact ⟨_, rfl⟩
  have waits : ∀ s, .wait s ∈ shortDrive → s.isNaN = false := by
    intro s hs
    obtain rfl : s = ofInt 1 := by simpa [shortDrive] using hs
    decide +kernel
  obtain ⟨sorted, each⟩ := calls_go_forward ready (by decide +kernel) waits returned
  obtain ⟨b, o, first, acted, -, moves⟩ := each [] _ _ rfl
  cases first
  obtain rfl := Option.some.inj (acted.symm.trans held)
  exact ⟨d, returned, sorted, _, acted, moves _ _ _ _ rfl asks⟩

end Client

end DifferentialDrive
