import DifferentialDrive.Binary64.Scalar
import DifferentialDrive.Proofs.Binary64.Order
import DifferentialDrive.Proofs.Run

/-!
# What is taken has arrived, but for one byte

A robot takes its queue from the front in portions: a byte that is dropped, or the bytes of a
command. The time of each byte in a portion is looked at, except for one: of two operands only the
second is (`next_portion`). So a byte whose time has not come is taken as the first of two operands
and nowhere else, and in a queue that is in order of time none is.
-/

namespace DifferentialDrive

open Wire Scalar

variable {α : Type}

namespace Wire

/-! ## How commands are written -/

@[simp] theorem wordBytes_word (a b : UInt8) : wordBytes (word a b) = [a, b] := by
  have ha := a.toNat_lt
  have hb := b.toNat_lt
  have value : (word a b).toNat = a.toNat * 256 + b.toNat := by
    simp [word]
    omega
  simp only [wordBytes, value, List.cons.injEq, and_true]
  constructor
  · apply UInt8.toNat_inj.1
    simp
    omega
  · apply UInt8.toNat_inj.1
    simp [word]

/-- Whether every command of a form is written as the given opcode and the operands it is made
of. -/
def Form.Writes (op : UInt8) : Form → Prop
  | .bare c => c.bytes = [0, op]
  | .byte f => ∀ a, (f a).bytes = [0, op, a]
  | .word f => ∀ a b, (f (Wire.word a b)).bytes = [0, op, a, b]

theorem Form.writes_of_ofOpcode? {op : UInt8} {form : Form}
    (known : ofOpcode? op = some form) : form.Writes op := by
  unfold ofOpcode? at known
  split at known
  case h_14 =>
    obtain ⟨q, asked, rfl⟩ := Option.map_eq_some_iff.1 known
    simp [Writes, Command.bytes, Command.opcode, Command.operands, Query.code_of_ofCode? asked]
  all_goals
    cases known
    simp [Writes, Command.bytes, Command.opcode, Command.operands]

/-! ## Portions -/

/-- Bytes that are taken from a queue at once, and the command they are, with the time it is
executed at, if they are not a byte that is dropped. -/
structure Portion (α : Type) where
  bytes : List (Stamped α)
  command : Option (Command × α) := none

/-- The bytes whose time is looked at: of two operands the second alone. -/
def heeded : List (Stamped α) → List (Stamped α)
  | [z, op, _, b] => [z, op, b]
  | bytes => bytes

variable [Scalar α]

/-- Whether bytes are taken as a portion at the given time: a single byte, or the bytes of a command
that is executed at the time of its last. -/
structure Portion.Due (now : α) (p : Portion α) : Prop where
  dropped : p.command = none → p.bytes.length = 1
  written : ∀ c t, p.command = some (c, t) →
    p.bytes.map Stamped.code = c.bytes ∧ p.bytes.getLast?.map Stamped.stamp = some t
  arrived : ∀ b ∈ heeded p.bytes, ¬ now < b.stamp

theorem Portion.due_drop {now : α} {b : Stamped α} (arrived : ¬ now < b.stamp) :
    Due now ⟨[b], none⟩ where
  dropped _ := rfl
  written _ _ h := nomatch h
  arrived := by simpa [heeded] using arrived

theorem Portion.due_command {now : α} {bytes : List (Stamped α)} {last : Stamped α} {c : Command}
    (written : bytes.map Stamped.code = c.bytes) (ends : bytes.getLast? = some last)
    (arrived : ∀ b ∈ heeded bytes, ¬ now < b.stamp) : Due now ⟨bytes, some (c, last.stamp)⟩ where
  dropped h := nomatch h
  written c' t h := by
    obtain ⟨rfl, rfl⟩ := by simpa using h
    exact ⟨written, by simp [ends]⟩
  arrived := arrived

/-- A byte that is taken too early is the first of two operands. -/
theorem Portion.Due.late_operand {now : α} {p : Portion α} (due : p.Due now) {b : Stamped α}
    (taken : b ∈ p.bytes) (late : now < b.stamp) :
    p.command.isSome = true ∧ ∃ z op last, p.bytes = [z, op, b, last] ∧ ¬ now < last.stamp := by
  have looked := due.arrived
  unfold heeded at looked
  split at looked
  · next z op a last same =>
    have here : b = a := by
      rw [same] at taken
      by_contra other
      exact looked b (by simpa [other] using taken) late
    subst here
    refine ⟨?_, z, op, last, same, looked last (by simp)⟩
    cases found : p.command with
    | none => simpa [same] using due.dropped found
    | some c => rfl
  · exact absurd late (looked b taken)

namespace Frame

/-- The command of a frame and its time. -/
def command? : Frame α → Option (Command × α)
  | ready c t _ => some (c, t)
  | _ => none

/-- A form that is complete is a command behind the zero byte and the opcode. -/
theorem ofForm_portion {now : α} {z op : Stamped α} {form : Form} {q rest : List (Stamped α)}
    (zero : z.code = 0) (known : Form.ofOpcode? op.code = some form)
    (first : ¬ now < z.stamp) (second : ¬ now < op.stamp)
    (taken : (ofForm now op.stamp form q).rest? = some rest) :
    ∃ p : Portion α, p.Due now ∧ z :: op :: q = p.bytes ++ rest ∧
      p.command = (ofForm now op.stamp form q).command? := by
  have writes := Form.writes_of_ofOpcode? known
  have portion (bytes : List (Stamped α)) {last : Stamped α} {c : Command}
      (written : bytes.map Stamped.code = c.bytes) (ends : bytes.getLast? = some last)
      (arrived : ∀ b ∈ heeded bytes, ¬ now < b.stamp) (split : z :: op :: q = bytes ++ rest)
      (same : ofForm now op.stamp form q = ready c last.stamp rest) :
      ∃ p : Portion α, p.Due now ∧ z :: op :: q = p.bytes ++ rest ∧
        p.command = (ofForm now op.stamp form q).command? :=
    ⟨⟨bytes, _⟩, Portion.due_command written ends arrived, split, by simp [same, command?]⟩
  rcases form with c | f | f
  · obtain rfl : q = rest := by simpa [ofForm, rest?] using taken
    exact portion [z, op] (by simpa [zero] using writes.symm) rfl
      (by simp [heeded, first, second]) rfl rfl
  · rcases q with _ | ⟨a, q⟩
    · simp [ofForm, rest?] at taken
    by_cases third : now < a.stamp
    · simp [ofForm, third, rest?] at taken
    obtain rfl : q = rest := by simpa [ofForm, third, rest?] using taken
    exact portion [z, op, a] (by simpa [zero] using (writes a.code).symm) rfl
      (by simp [heeded, first, second, third]) rfl (by simp [ofForm, third])
  · rcases q with _ | ⟨a, _ | ⟨b, q⟩⟩
    · simp [ofForm, rest?] at taken
    · simp [ofForm, rest?] at taken
    by_cases fourth : now < b.stamp
    · simp [ofForm, fourth, rest?] at taken
    obtain rfl : q = rest := by simpa [ofForm, fourth, rest?] using taken
    exact portion [z, op, a, b] (by simpa [zero] using (writes a.code b.code).symm) rfl
      (by simp [heeded, first, second, fourth]) rfl (by simp [ofForm, fourth])

/-- A frame that is taken is a portion. -/
theorem next_portion {now : α} {q rest : List (Stamped α)}
    (taken : (next now q).rest? = some rest) :
    ∃ p : Portion α, p.Due now ∧ q = p.bytes ++ rest ∧ p.command = (next now q).command? := by
  have dropped {head : Stamped α} (first : ¬ now < head.stamp) :
      ∃ p : Portion α, p.Due now ∧ head :: rest = p.bytes ++ rest ∧ p.command = none :=
    ⟨⟨[head], none⟩, Portion.due_drop first, rfl, rfl⟩
  rcases q with _ | ⟨head, q⟩
  · simp [next, rest?] at taken
  simp only [next] at taken ⊢
  split_ifs at taken ⊢ with first zero
  · simp [rest?] at taken
  · obtain rfl : q = rest := by simpa [rest?] using taken
    exact dropped first
  · rcases q with _ | ⟨op, operands⟩
    · simp [rest?] at taken
    dsimp only at taken ⊢
    split_ifs at taken ⊢ with second
    · simp [rest?] at taken
    · cases known : Form.ofOpcode? op.code with
      | none =>
        obtain rfl : op :: operands = rest := by simpa [known, rest?] using taken
        exact dropped first
      | some form =>
        simp only [known] at taken ⊢
        exact ofForm_portion (by simpa using zero) known first second taken

end Frame

end Wire

namespace Robot

variable [Scalar α]

/-- One robot has come from another by taking the portions at the given time, and has executed their
commands. -/
structure Took (now : α) (portions : List (Portion α)) (r s : Robot α) : Prop where
  queue : r.queue = portions.flatMap Portion.bytes ++ s.queue
  executed : s.journal.executed = r.journal.executed ++ portions.filterMap Portion.command
  due : ∀ p ∈ portions, p.Due now

variable {now : α} {r s t : Robot α}

theorem took_nil (queue : s.queue = r.queue) (executed : s.journal.executed = r.journal.executed) :
    Took now [] r s :=
  ⟨by simp [queue], by simp [executed], by simp⟩

theorem Took.trans {ps qs : List (Portion α)} (first : Took now ps r s) (second : Took now qs s t) :
    Took now (ps ++ qs) r t where
  queue := by rw [first.queue, second.queue, List.flatMap_append, List.append_assoc]
  executed := by rw [second.executed, first.executed, List.filterMap_append, List.append_assoc]
  due p hp := (List.mem_append.1 hp).elim (first.due p) (second.due p)

/-- A frame is taken as one portion or not at all. -/
theorem takeFrame_took (r : Robot α) (now : α) :
    ∃ portions, Took now portions r (r.takeFrame now).state := by
  have portion {frame : Frame α} {rest : List (Stamped α)} {m : Robot α}
      (found : Frame.next now r.queue = frame) (left : frame.rest? = some rest)
      (executed : m.journal.executed = r.journal.executed ++ frame.command?.toList) :
      ∃ portions, Took now portions r { m with queue := rest } := by
    obtain ⟨p, due, queue, command⟩ := Frame.next_portion (by rw [found]; exact left)
    refine ⟨[p], by simpa using queue, ?_, by simpa using due⟩
    rw [found] at command
    cases h : frame.command? <;> simp_all
  unfold takeFrame
  split
  · exact ⟨[], took_nil rfl rfl⟩
  · next found => exact portion found rfl (by simp [Frame.command?, Event.command?])
  · next found => exact portion found rfl (by simp [Frame.command?, Event.command?])
  · next c stamp rest found =>
    have moved := advance_queue r stamp
    have same := advance_executed r stamp
    split
    · next m f refused =>
      -- A command that is refused stays in the queue.
      refine ⟨[], ?_⟩
      unfold perform at refused
      split at refused
      · next a g stuck =>
        obtain ⟨rfl, -⟩ := by simpa using refused
        rw [stuck] at moved same
        exact took_nil moved same
      · next a done =>
        rw [done] at moved same
        split at refused
        · next e g executed =>
          obtain ⟨rfl, -⟩ := by simpa using refused
          obtain rfl := execute_refused executed
          exact took_nil moved same
        · simp at refused
    · next m performed =>
      obtain ⟨executed, -⟩ := perform_executed_queue performed
      exact portion found rfl executed

/-- A run takes portion after portion, whether or not it is refused. -/
theorem run_took (r : Robot α) (now : α) : ∃ portions, Took now portions r (r.run now).state := by
  fun_induction run r now with
  | case1 r s taken ih =>
    obtain ⟨first, before⟩ := takeFrame_took r now
    obtain ⟨more, after⟩ := ih
    rw [taken] at before
    exact ⟨first ++ more, before.trans after⟩
  | case2 r s taken =>
    obtain ⟨first, before⟩ := takeFrame_took r now
    rw [taken] at before
    exact ⟨first ++ [], before.trans (took_nil (advance_queue s now) (advance_executed s now))⟩
  | case3 r s f taken =>
    obtain ⟨first, before⟩ := takeFrame_took r now
    rw [taken] at before
    exact ⟨first, before⟩

/-- Whatever is in the queue, a byte is taken before its time only as the first of the two operands
of a command whose last byte has arrived. If the queue is in order of time, no byte is. -/
theorem late_byte_first_of_two [Ordered α] (r : Robot α) (now : α) :
    ∀ s ∈ [(r.takeFrame now).state, (r.run now).state],
      ∃ portions : List (Portion α),
        r.queue = portions.flatMap Portion.bytes ++ s.queue ∧
        s.journal.executed = r.journal.executed ++ portions.filterMap Portion.command ∧
        (∀ p ∈ portions, p.Due now ∧ ∀ b ∈ p.bytes, now < b.stamp →
          p.command.isSome = true ∧ ∃ z op last, p.bytes = [z, op, b, last]) ∧
        (r.queue.Pairwise (fun a b => a.stamp ≤ b.stamp) →
          ∀ p ∈ portions, ∀ b ∈ p.bytes, ¬ now < b.stamp) := by
  intro s reached
  obtain ⟨portions, took⟩ : ∃ portions, Took now portions r s := by
    obtain rfl | rfl : s = (r.takeFrame now).state ∨ s = (r.run now).state := by
      simpa using reached
    · exact takeFrame_took r now
    · exact run_took r now
  refine ⟨portions, took.queue, took.executed, fun p hp => ⟨took.due p hp, fun b hb late => ?_⟩,
    fun sorted p hp b hb late => ?_⟩
  · obtain ⟨command, z, op, last, bytes, -⟩ := (took.due p hp).late_operand hb late
    exact ⟨command, z, op, last, bytes⟩
  · obtain ⟨-, z, op, last, bytes, arrived⟩ := (took.due p hp).late_operand hb late
    have within : List.Sublist p.bytes r.queue := by
      rw [took.queue]
      exact (List.sublist_flatten_of_mem (List.mem_map_of_mem hp)).trans
        (List.sublist_append_left _ _)
    have inOrder := sorted.sublist within
    rw [bytes] at inOrder
    have before : b.stamp ≤ last.stamp := by simp at inOrder; exact inOrder.2.2
    exact arrived (Scalar.lt_of_lt_of_le late before)

/-- A place whose first operand comes late, behind a speed: both commands are executed early. -/
theorem late_byte_first_of_two_place :
    let r : Robot Float := (((Robot.initial .standard (ofInt 1) zero true).push
      [0, 0x31, 9, 0, 0x41] zero).push [7] (ofInt 5)).push [208] zero
    (r.run zero).state ∈ [(r.takeFrame zero).state, (r.run zero).state] ∧
      ∃ portions : List (Portion Float),
        r.queue = portions.flatMap Portion.bytes ++ (r.run zero).state.queue ∧
        (r.run zero).state.journal.executed =
          r.journal.executed ++ portions.filterMap Portion.command ∧
        (∀ p ∈ portions, p.Due zero ∧ ∀ b ∈ p.bytes, zero < b.stamp →
          p.command.isSome = true ∧ ∃ z op last, p.bytes = [z, op, b, last]) ∧
        (r.queue.Pairwise (fun a b => a.stamp ≤ b.stamp) →
          ∀ p ∈ portions, ∀ b ∈ p.bytes, ¬ zero < b.stamp) := by
  intro r
  have reached : (r.run zero).state ∈ [(r.takeFrame zero).state, (r.run zero).state] := by simp
  exact ⟨reached, late_byte_first_of_two r zero _ reached⟩

/-- A byte is taken before its time: five seconds early, as the first operand of a place. -/
theorem run_takes_late_operand :
    let r : Robot Float := (((Robot.initial .standard (ofInt 1) zero true).push
      [0, 0x41] zero).push [7] (ofInt 5)).push [208] zero
    r.queue.map (fun b => decide (zero < b.stamp)) = [false, false, true, false] ∧
      (r.run zero).state.queue.isEmpty = true ∧
      (r.run zero).state.journal.executed.map Prod.fst = [.placeX 2000] := by
  decide +kernel

end Robot

end DifferentialDrive
