import DifferentialDrive.Binary64.Scalar
import DifferentialDrive.Proofs.Arrival

/-!
# What follows garbage is read

A run over bytes that have all arrived reads them as a `Reader` does that sees one byte at a time
and knows nothing of times (`reads_parse`). Wherever a reader is, a byte that is neither zero nor an
opcode and then one that is not zero bring it back to where a command begins (`after_garbage`): the
first is an operand, or it is dropped, and then so is the second. Every command written behind them
is read as it was written.
-/

namespace DifferentialDrive

open Wire Scalar

namespace Wire

/-! ## Commands as bytes -/

/-- The bytes of a form that has its operands are those of a command. -/
theorem Form.exists_bytes {op : UInt8} {form : Form} {operands : List UInt8}
    (known : ofOpcode? op = some form) (whole : operands.length = form.arity) :
    ∃ c : Command, c.bytes = 0 :: op :: operands := by
  have writes := writes_of_ofOpcode? known
  rcases form with c | f | f
  · obtain rfl : operands = [] := by simpa [arity] using whole
    exact ⟨c, writes⟩
  · obtain ⟨a, rfl⟩ := List.length_eq_one_iff.1 whole
    exact ⟨f a, writes a⟩
  · obtain ⟨a, b, rfl⟩ := List.length_eq_two.1 whole
    exact ⟨f (Wire.word a b), writes a b⟩

theorem Command.length_bytes_le (c : Command) : c.bytes.length ≤ 4 := by
  cases c <;> simp [bytes, operands, wordBytes]

/-- Commands are written as a zero byte, a known opcode and as many operands as it has, and
whatever is written so is a command. -/
theorem Command.bytes_iff (bytes : List UInt8) :
    (∃ c : Command, c.bytes = bytes) ↔ ∃ op form operands, Form.ofOpcode? op = some form ∧
      operands.length = form.arity ∧ bytes = 0 :: op :: operands := by
  constructor
  · rintro ⟨c, rfl⟩
    obtain ⟨form, known, arity⟩ := c.exists_form
    exact ⟨c.opcode, form, c.operands, known, arity.symm, rfl⟩
  · rintro ⟨op, form, operands, known, whole, rfl⟩
    exact Form.exists_bytes known whole

/-! ## Byte by byte -/

/-- Where a reader is that sees one byte at a time. -/
inductive Reader where
  /-- Where a command should begin. -/
  | start
  /-- Behind a zero byte. -/
  | opcode
  /-- Before the last operand of a command. -/
  | operand (command : UInt8 → Command)
  /-- Before both operands of a command. -/
  | operands (command : UInt16 → Command)

namespace Reader

/-- Where a byte leads that is no part of a command that has begun. -/
def afresh (b : UInt8) : Reader := if b = 0 then opcode else start

/-- The command that a byte completes, if it does, and where it leads. -/
def step : Reader → UInt8 → Option Command × Reader
  | start, b => (none, afresh b)
  | opcode, b =>
    match Form.ofOpcode? b with
    | none => (none, afresh b)
    | some (.bare c) => (some c, start)
    | some (.byte f) => (none, operand f)
    | some (.word f) => (none, operands f)
  | operand f, a => (some (f a), start)
  | operands f, a => (none, operand fun b => f (word a b))

/-- Where the bytes lead. -/
def after (r : Reader) (bytes : List UInt8) : Reader := bytes.foldl (fun r b => (r.step b).2) r

/-- The commands that are read from the bytes. -/
def commands : Reader → List UInt8 → List Command
  | _, [] => []
  | r, b :: rest => (r.step b).1.toList ++ (r.step b).2.commands rest

@[simp] theorem after_nil (r : Reader) : r.after [] = r := rfl

@[simp] theorem after_cons (r : Reader) (b : UInt8) (rest : List UInt8) :
    r.after (b :: rest) = (r.step b).2.after rest := rfl

@[simp] theorem after_append (r : Reader) (a b : List UInt8) :
    r.after (a ++ b) = (r.after a).after b := by
  simp [after]

@[simp] theorem commands_nil (r : Reader) : r.commands [] = [] := rfl

@[simp] theorem commands_cons (r : Reader) (b : UInt8) (rest : List UInt8) :
    r.commands (b :: rest) = (r.step b).1.toList ++ (r.step b).2.commands rest := rfl

@[simp] theorem commands_append (r : Reader) (a b : List UInt8) :
    r.commands (a ++ b) = r.commands a ++ (r.after a).commands b := by
  induction a generalizing r with
  | nil => rfl
  | cons x a ih => simp [ih]

/-- A command is read whole and leads back to the start. -/
theorem read_bytes (c : Command) : start.commands c.bytes = [c] ∧ start.after c.bytes = start := by
  cases c with
  | query q =>
    simp [Command.bytes, Command.opcode, Command.operands, step, afresh, Form.ofOpcode?_query]
  | regulator on => cases on <;> exact ⟨rfl, rfl⟩
  | timeout on => cases on <;> exact ⟨rfl, rfl⟩
  | placeX w | placeY w | placeHeading w | simSpeed w =>
    simp [Command.bytes, Command.opcode, Command.operands, step, afresh, wordBytes,
      Form.ofOpcode?]
  | _ => exact ⟨rfl, rfl⟩

theorem read_flatMap_bytes (cs : List Command) :
    start.commands (cs.flatMap Command.bytes) = cs ∧
      start.after (cs.flatMap Command.bytes) = start := by
  induction cs with
  | nil => exact ⟨rfl, rfl⟩
  | cons c cs ih =>
    obtain ⟨first, back⟩ := read_bytes c
    simp [first, back, ih]

/-- From wherever a reader is, such two bytes lead it to the start. -/
theorem after_garbage (r : Reader) {b₁ b₂ : UInt8} (nonzero₁ : b₁ ≠ 0)
    (unknown : Form.ofOpcode? b₁ = none) (nonzero₂ : b₂ ≠ 0) : r.after [b₁, b₂] = start := by
  cases r with
  | start => simp [step, afresh, nonzero₁, nonzero₂]
  | opcode => simp [step, afresh, unknown, nonzero₁, nonzero₂]
  | operand f => simp [step, afresh, nonzero₂]
  | operands f => simp [step]

end Reader

/-! ## A queue that has arrived -/

namespace Frame

variable {α : Type} [Scalar α] {now : α} {q rest : List (Stamped α)} {code : UInt8}

/-- Behind a known opcode a frame waits or is ready. -/
theorem ofForm_cases (now stamp : α) (form : Form) (q : List (Stamped α)) :
    ofForm now stamp form q = waiting ∨ ∃ c t rest, ofForm now stamp form q = ready c t rest := by
  unfold ofForm
  split <;> (try split) <;> simp

theorem of_next_stray (h : next now q = stray code rest) :
    code ≠ 0 ∧ ∃ t, q = ⟨code, t⟩ :: rest := by
  rcases q with _ | ⟨head, _ | ⟨op, operands⟩⟩
  · simp [next] at h
  · simp only [next] at h
    split_ifs at h with _ other
    obtain ⟨rfl, rfl⟩ := by simpa using h
    exact ⟨other, head.stamp, rfl⟩
  · simp only [next] at h
    split_ifs at h with _ other
    · obtain ⟨rfl, rfl⟩ := by simpa using h
      exact ⟨other, head.stamp, rfl⟩
    · cases known : Form.ofOpcode? op.code with
      | none => simp [known] at h
      | some form =>
        obtain waits | ⟨c, t, rest, taken⟩ := ofForm_cases now op.stamp form operands <;>
          simp_all

theorem of_next_unknown (h : next now q = unknown code rest) :
    Form.ofOpcode? code = none ∧ ∃ z t operands, z.code = 0 ∧ rest = ⟨code, t⟩ :: operands ∧
      q = z :: rest := by
  rcases q with _ | ⟨head, _ | ⟨op, operands⟩⟩
  · simp [next] at h
  · simp only [next] at h
    split_ifs at h
  · simp only [next] at h
    split_ifs at h with _ zero _
    cases known : Form.ofOpcode? op.code with
    | none =>
      obtain ⟨rfl, rfl⟩ := by simpa [known] using h
      exact ⟨known, head, op.stamp, operands, by simpa using zero, rfl, rfl⟩
    | some form =>
      obtain waits | ⟨c, t, rest, taken⟩ := ofForm_cases now op.stamp form operands <;> simp_all

/-- The bytes of a command that is taken stand at the front. -/
theorem codes_of_ready {c : Command} {t : α} (h : next now q = ready c t rest) :
    q.map Stamped.code = c.bytes ++ rest.map Stamped.code := by
  obtain ⟨p, due, rfl, command⟩ := next_portion (by rw [h]; rfl)
  obtain ⟨written, -⟩ := due.written c t (by rw [command, h]; rfl)
  rw [List.map_append, written]

/-- What has arrived and waits is no command, and the reader is at the start only if it is
nothing. -/
theorem reads_waiting (waits : next now q = waiting) (arrived : ∀ b ∈ q, ¬ now < b.stamp) :
    Reader.start.commands (q.map Stamped.code) = [] ∧
      (Reader.start.after (q.map Stamped.code) = .start → q = []) := by
  obtain rfl | ⟨z, zero, rfl⟩ | ⟨z, op, form, operands, zero, known, short, rfl⟩ :=
    waiting_cases waits arrived
  · simp
  · simp [Reader.step, Reader.afresh, zero]
  · rcases form with c | f | f
    · simp [Form.arity] at short
    · obtain rfl : operands = [] := by simpa [Form.arity] using short
      simp [Reader.step, Reader.afresh, zero, known]
    · obtain rfl | ⟨a, rfl⟩ : operands = [] ∨ ∃ a, operands = [a] := by
        rcases operands with _ | ⟨a, _ | ⟨b, operands⟩⟩ <;> simp [Form.arity] at short ⊢
      all_goals simp [Reader.step, Reader.afresh, zero, known]

/-- A queue that has arrived is read as its bytes are one by one, and what is left leads the reader
to where the whole queue does. -/
theorem reads_parse (now : α) (q : List (Stamped α)) (arrived : ∀ b ∈ q, ¬ now < b.stamp) :
    Reader.start.commands (q.map Stamped.code) = (parse now q).commands.map Prod.fst ∧
      Reader.start.after (q.map Stamped.code) =
        Reader.start.after ((parse now q).rest.map Stamped.code) := by
  fun_induction parse now q with
  | case1 q waits => exact ⟨(reads_waiting waits arrived).1, rfl⟩
  | case2 q code rest found ih =>
    obtain ⟨other, t, rfl⟩ := of_next_stray found
    simpa [Reader.step, Reader.afresh, other] using ih fun b hb => arrived b (by simp [hb])
  | case3 q code rest found ih =>
    obtain ⟨unknown, z, t, operands, zero, rfl, rfl⟩ := of_next_unknown found
    -- The byte behind the zero is looked at again, as one that begins a command.
    have again := ih fun b hb => arrived b (List.mem_cons_of_mem _ hb)
    simpa [Reader.step, Reader.afresh, zero, unknown] using again
  | case4 q c stamp rest found p ih =>
    have taken : rest <:+ q := next_suffix (by rw [found]; rfl)
    obtain ⟨same, leads⟩ := ih fun b hb => arrived b (taken.subset hb)
    obtain ⟨first, back⟩ := Reader.read_bytes c
    rw [codes_of_ready found]
    simp [first, back, same, leads, p]

/-- What is left of a queue that has arrived is nothing or the beginning of a command. -/
theorem cut_short_of_waiting (waits : next now q = waiting)
    (arrived : ∀ b ∈ q, ¬ now < b.stamp) :
    ∃ c : Command, q.map Stamped.code <+: c.bytes ∧ q.length < c.bytes.length := by
  obtain rfl | ⟨z, zero, rfl⟩ | ⟨z, op, form, operands, zero, known, short, rfl⟩ :=
    waiting_cases waits arrived
  · exact ⟨.resetEncoders, by simp, by simp [Command.bytes]⟩
  · exact ⟨.resetEncoders, by simp [Command.bytes, zero], by simp [Command.bytes]⟩
  · -- The operands that are lacking may be any.
    have whole : (operands.map Stamped.code ++
        List.replicate (form.arity - operands.length) 0).length = form.arity := by
      simp
      omega
    obtain ⟨c, bytes⟩ := Form.exists_bytes known whole
    refine ⟨c, ?_, ?_⟩
    · rw [bytes, ← List.cons_append, ← List.cons_append]
      simp [zero]
    · simp [bytes]
      omega

end Frame

end Wire

namespace Robot

variable {α : Type} [Scalar α]

/-- A run over bytes that have all arrived leaves at most three, which are nothing or the beginning
of a command. If garbage stands before whole commands and ends in a byte that is neither zero nor an
opcode and one that is not zero, nothing is left, and what is executed is what the garbage alone is
read as, followed by those commands. -/
theorem run_resynchronises {r s : Robot α} {now : α} (arrived : ∀ b ∈ r.queue, ¬ now < b.stamp)
    (done : r.run now = ⟨s, .ok ()⟩) :
    (s.queue.length ≤ 3 ∧
      ∃ c : Command, s.queue.map Stamped.code <+: c.bytes ∧
        s.queue.length < c.bytes.length) ∧
    ∀ (garbage : List UInt8) (b₁ b₂ : UInt8) (commands : List Command),
      b₁ ≠ 0 → Form.ofOpcode? b₁ = none → b₂ ≠ 0 →
      r.queue.map Stamped.code = garbage ++ b₁ :: b₂ :: commands.flatMap Command.bytes →
      s.queue = [] ∧
      s.journal.executed.map Prod.fst =
        r.journal.executed.map Prod.fst ++ Reader.start.commands (garbage ++ [b₁, b₂]) ++
          commands := by
  obtain ⟨executed, left⟩ := (run_ran done).executed_queue
  have waits : Frame.next now s.queue = .waiting := by
    rw [left]
    exact Frame.next_parse_rest now r.queue
  have still : ∀ b ∈ s.queue, ¬ now < b.stamp := by
    intro b hb
    rw [left] at hb
    exact arrived b ((Frame.parse_rest_suffix now r.queue).subset hb)
  obtain ⟨c, front, shorter⟩ := Frame.cut_short_of_waiting waits still
  refine ⟨⟨?_, c, front, shorter⟩, ?_⟩
  · have := c.length_bytes_le
    omega
  intro garbage b₁ b₂ commands nonzero₁ unknown nonzero₂ codes
  obtain ⟨read, leads⟩ := Frame.reads_parse now r.queue arrived
  have resynced : Reader.start.after (garbage ++ [b₁, b₂]) = .start := by
    rw [Reader.after_append, Reader.after_garbage _ nonzero₁ unknown nonzero₂]
  obtain ⟨whole, back⟩ := Reader.read_flatMap_bytes commands
  have split : r.queue.map Stamped.code =
      (garbage ++ [b₁, b₂]) ++ commands.flatMap Command.bytes := by
    rw [codes, List.append_assoc]
    rfl
  rw [split, Reader.commands_append, resynced, whole] at read
  rw [split, Reader.after_append, resynced, back, ← left] at leads
  refine ⟨(Frame.reads_waiting waits still).2 leads.symm, ?_⟩
  rw [executed, List.map_append, ← read, List.append_assoc]

/-- Garbage that ends in a place without its operands takes the two bytes behind it for them. -/
theorem run_resynchronises_place :
    let r : Robot Float := ((Robot.initial .standard (ofInt 1) zero true).push
      [7, 0, 0, 0x31, 5, 0, 0x41] zero).push [0x99, 1, 0, 0x31, 200, 0, 0x42, 0, 0x99] zero
    let s := (r.run zero).state
    (∀ b ∈ r.queue, ¬ zero < b.stamp) ∧ (r.run zero).result.isOk = true ∧
      s.queue = [] ∧ s.journal.executed.map Prod.fst =
        [.speed1 5, .placeX 0x9901, .speed1 200, .placeY 0x99] := by
  intro r s
  have arrived : ∀ b ∈ r.queue, ¬ zero < b.stamp := by decide +kernel
  have isOk : (r.run zero).result.isOk = true := by decide +kernel
  refine ⟨arrived, isOk, ?_⟩
  cases returned : (r.run zero).result with
  | error f => simp [returned, Except.isOk, Except.toBool] at isOk
  | ok answer =>
    have done : r.run zero = ⟨s, .ok ()⟩ := by rw [← returned]
    exact (run_resynchronises arrived done).2 [7, 0, 0, 0x31, 5, 0, 0x41] 0x99 1
      [.speed1 200, .placeY 0x99] (by decide) (by decide) (by decide) (by decide +kernel)

end Robot

end DifferentialDrive
