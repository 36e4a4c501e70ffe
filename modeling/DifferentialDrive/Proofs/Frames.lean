import DifferentialDrive.Proofs.Order
import DifferentialDrive.Wire.Frame
import Mathlib.Tactic.ByContra
import Mathlib.Tactic.SplitIfs

/-!
# The frames of a queue

`Frame.parse` takes a queue apart as a run of the robot does, but does nothing with the commands.
What it finds does not depend on how the queue came together: bytes that have arrived are read
the same however many wait behind them (`parse_append`), and commands written whole are read back
whole (`next_encode`).
-/

namespace DifferentialDrive.Wire

open Scalar

variable {α : Type}

/-- Commands on the wire, each as bytes that arrived together. -/
def encode (commands : List (Command × α)) : List (Stamped α) :=
  commands.flatMap fun p => stampAll p.1.bytes p.2

@[simp] theorem encode_nil : encode ([] : List (Command × α)) = [] := rfl

@[simp] theorem encode_cons (c : Command) (t : α) (rest : List (Command × α)) :
    encode ((c, t) :: rest) = stampAll c.bytes t ++ encode rest := rfl

theorem encode_append (a b : List (Command × α)) : encode (a ++ b) = encode a ++ encode b := by
  simp [encode]

theorem stampAll_append (a b : List UInt8) (t : α) :
    stampAll (a ++ b) t = stampAll a t ++ stampAll b t := by
  simp [stampAll]

/-- Commands sent together are on the wire as their bytes in turn. -/
theorem stampAll_flatMap_bytes (commands : List Command) (t : α) :
    stampAll (commands.flatMap Command.bytes) t = encode (commands.map (·, t)) := by
  induction commands with
  | nil => rfl
  | cons c rest ih => simp [stampAll_append, ih]

/-- What stands in a queue: the commands, each with the arrival time of its last byte, and the
bytes that are left for later. -/
structure Parse (α : Type) where
  commands : List (Command × α)
  rest : List (Stamped α)

/-! ## Opcodes -/

theorem Query.code_of_ofCode? {code : UInt8} {q : Query}
    (h : Query.ofCode? code.toNat = some q) : q.code = code := by
  have same := List.find?_some h
  simp only [beq_iff_eq, Int.natCast_inj] at same
  exact UInt8.toNat_inj.1 same

/-- Whether every command of a form has the given opcode. -/
def Form.Spells (op : UInt8) : Form → Prop
  | .bare c => c.opcode = op
  | .byte f => ∀ a, (f a).opcode = op
  | .word f => ∀ w, (f w).opcode = op

theorem Form.spells_of_ofOpcode? {op : UInt8} {form : Form}
    (known : ofOpcode? op = some form) : form.Spells op := by
  unfold ofOpcode? at known
  split at known
  case h_14 =>
    obtain ⟨q, asked, rfl⟩ := Option.map_eq_some_iff.1 known
    exact Query.code_of_ofCode? asked
  all_goals
    cases known
    simp [Spells, Command.opcode]

/-! ## One frame -/

namespace Frame

/-- The frame with more bytes behind it. -/
def append : Frame α → List (Stamped α) → Frame α
  | waiting, _ => waiting
  | stray code rest, more => stray code (rest ++ more)
  | unknown code rest, more => unknown code (rest ++ more)
  | ready c stamp rest, more => ready c stamp (rest ++ more)

variable [Scalar α]

theorem ofForm_append {a b : α} (h : Covers b a) (stamp : α) (form : Form)
    (q more : List (Stamped α)) (taken : ofForm a stamp form q ≠ waiting) :
    ofForm b stamp form (q ++ more) = (ofForm a stamp form q).append more := by
  cases form with
  | bare c => rfl
  | byte f =>
    rcases q with _ | ⟨x, q⟩
    · simp [ofForm] at taken
    · have arrived : ¬ a < x.stamp := by
        intro late
        simp [ofForm, late] at taken
      simp [ofForm, arrived, h _ arrived, append]
  | word f =>
    rcases q with _ | ⟨x, _ | ⟨y, q⟩⟩
    · simp [ofForm] at taken
    · simp [ofForm] at taken
    · have arrived : ¬ a < y.stamp := by
        intro late
        simp [ofForm, late] at taken
      simp [ofForm, arrived, h _ arrived, append]

/-- A frame that is taken is taken in the same way later and with more bytes behind it. -/
theorem next_append {a b : α} (h : Covers b a) (q more : List (Stamped α))
    (taken : next a q ≠ waiting) : next b (q ++ more) = (next a q).append more := by
  rcases q with _ | ⟨head, rest⟩
  · simp [next] at taken
  have first : ¬ a < head.stamp := by
    intro late
    simp [next, late] at taken
  by_cases zero : head.code = 0
  · rcases rest with _ | ⟨op, operands⟩
    · simp [next, first, zero] at taken
    have second : ¬ a < op.stamp := by
      intro late
      simp [next, first, zero, late] at taken
    simp only [next, List.cons_append, first, h _ first, zero, second, h _ second] at taken ⊢
    cases known : Form.ofOpcode? op.code with
    | none => simp [append]
    | some form =>
      simp only [known] at taken ⊢
      exact ofForm_append h op.stamp form operands more (by simpa using taken)
  · simp [next, first, h _ first, zero, append]

theorem ofForm_suffix {now stamp : α} {form : Form} {q r : List (Stamped α)}
    (h : (ofForm now stamp form q).rest? = some r) : r <:+ q := by
  unfold ofForm at h
  split at h
  · obtain rfl : _ = r := by simpa [rest?] using h
    exact List.suffix_refl _
  · split at h <;> simp [rest?] at h
    exact h ▸ List.suffix_cons ..
  · split at h <;> simp [rest?] at h
    exact h ▸ (List.suffix_cons ..).trans (List.suffix_cons ..)
  · simp [rest?] at h

/-- A frame is taken from the front. -/
theorem next_suffix {now : α} {q r : List (Stamped α)} (h : (next now q).rest? = some r) :
    r <:+ q := by
  rcases q with _ | ⟨head, _ | ⟨op, operands⟩⟩
  · simp [next, rest?] at h
  · simp only [next] at h
    split_ifs at h <;> simp_all [rest?]
  · simp only [next] at h
    split_ifs at h
    · simp [rest?] at h
    · obtain rfl : op :: operands = r := by simpa [rest?] using h
      exact List.suffix_cons ..
    · simp [rest?] at h
    · split at h
      · obtain rfl : op :: operands = r := by simpa [rest?] using h
        exact List.suffix_cons ..
      · exact (ofForm_suffix h).trans ((List.suffix_cons ..).trans (List.suffix_cons ..))

theorem opcode_of_ofForm {now stamp t : α} {op : UInt8} {form : Form} {c : Command}
    {q rest : List (Stamped α)} (spells : form.Spells op)
    (taken : ofForm now stamp form q = ready c t rest) : c.opcode = op := by
  unfold ofForm at taken
  split at taken
  · obtain ⟨rfl, -, -⟩ := by simpa using taken
    exact spells
  · split at taken
    · cases taken
    · obtain ⟨rfl, -, -⟩ := by simpa using taken
      exact spells _
  · split at taken
    · cases taken
    · obtain ⟨rfl, -, -⟩ := by simpa using taken
      exact spells _
  · cases taken

/-- The opcode of a command that is taken stands in the queue. -/
theorem exists_opcode_of_ready {now t : α} {c : Command} {q rest : List (Stamped α)}
    (taken : next now q = ready c t rest) : ∃ b ∈ q, b.code = c.opcode := by
  rcases q with _ | ⟨head, _ | ⟨op, operands⟩⟩
  · simp [next] at taken
  · simp only [next] at taken
    split_ifs at taken
  · simp only [next] at taken
    split_ifs at taken
    split at taken
    · simp at taken
    · next form known =>
      have spells := Form.spells_of_ofOpcode? known
      exact ⟨op, by simp, (opcode_of_ofForm spells taken).symm⟩

/-- A command whose bytes have not arrived waits. -/
theorem next_waiting_of_lt (now t : α) (c : Command) (rest : List (Stamped α)) (h : now < t) :
    next now (stampAll c.bytes t ++ rest) = waiting := by
  simp [next, stampAll, Command.bytes, h]

/-- A queue of whole commands either waits at the first or gives it. -/
theorem next_encode (now : α) (commands : List (Command × α)) :
    next now (encode commands) =
      match commands with
      | [] => waiting
      | (c, t) :: rest => if now < t then waiting else ready c t (encode rest) := by
  rcases commands with _ | ⟨⟨c, t⟩, rest⟩
  · rfl
  · by_cases late : now < t
    · simp [next_waiting_of_lt, late]
    · simp [next_bytes, late]

/-- Bytes that have arrived and yet wait are nothing, a zero byte or a command without its last
operands. -/
theorem waiting_cases {now : α} {q : List (Stamped α)} (waits : next now q = waiting)
    (arrived : ∀ b ∈ q, ¬ now < b.stamp) :
    q = [] ∨ (∃ z, z.code = 0 ∧ q = [z]) ∨
      ∃ z op form operands, z.code = 0 ∧ Form.ofOpcode? op.code = some form ∧
        operands.length < form.arity ∧ q = z :: op :: operands := by
  rcases q with _ | ⟨z, _ | ⟨op, operands⟩⟩
  · exact .inl rfl
  · refine .inr (.inl ⟨z, ?_, rfl⟩)
    by_contra other
    simp [next, arrived z, other] at waits
  · have first := arrived z (by simp)
    have second := arrived op (by simp)
    have zero : z.code = 0 := by
      by_contra other
      simp [next, first, other] at waits
    simp only [next, first, zero, second] at waits
    cases known : Form.ofOpcode? op.code with
    | none => simp [known] at waits
    | some form =>
      refine .inr (.inr ⟨z, op, form, operands, zero, known, ?_, rfl⟩)
      simp only [known] at waits
      rcases form with c | f | f
      · simp [ofForm] at waits
      · rcases operands with _ | ⟨a, operands⟩
        · simp [Form.arity]
        · simp [ofForm, arrived a] at waits
      · rcases operands with _ | ⟨a, _ | ⟨b, operands⟩⟩
        · simp [Form.arity]
        · simp [Form.arity]
        · simp [ofForm, arrived b] at waits

/-! ## All frames -/

/-- All that has arrived, taken apart. -/
def parse (now : α) (q : List (Stamped α)) : Parse α :=
  match _taken : next now q with
  | .waiting => ⟨[], q⟩
  | .stray _ rest => parse now rest
  | .unknown _ rest => parse now rest
  | .ready c stamp rest =>
    let p := parse now rest
    ⟨(c, stamp) :: p.commands, p.rest⟩
termination_by q.length
decreasing_by all_goals exact next_rest_lt now q rest (by rw [_taken]; rfl)

variable {now : α} {q rest : List (Stamped α)}

theorem parse_waiting (h : next now q = waiting) : parse now q = ⟨[], q⟩ := by
  rw [parse]
  split <;> simp_all

theorem parse_stray {code : UInt8} (h : next now q = stray code rest) :
    parse now q = parse now rest := by
  rw [parse]
  split <;> simp_all

theorem parse_unknown {code : UInt8} (h : next now q = unknown code rest) :
    parse now q = parse now rest := by
  rw [parse]
  split <;> simp_all

theorem parse_ready {c : Command} {stamp : α} (h : next now q = ready c stamp rest) :
    parse now q = ⟨(c, stamp) :: (parse now rest).commands, (parse now rest).rest⟩ := by
  rw [parse]
  split <;> simp_all

/-- Whole commands that have arrived are all there is. -/
theorem parse_encode (commands : List (Command × α)) (arrived : ∀ p ∈ commands, ¬ now < p.2) :
    parse now (encode commands) = ⟨commands, []⟩ := by
  induction commands with
  | nil => exact parse_waiting rfl
  | cons p rest ih =>
    have first : next now (encode (p :: rest)) = ready p.1 p.2 (encode rest) := by
      simp [next_encode, arrived p (by simp)]
    rw [parse_ready first, ih fun p hp => arrived p (by simp [hp])]

/-- What is left waits. -/
theorem next_parse_rest (now : α) (q : List (Stamped α)) :
    next now (parse now q).rest = waiting := by
  fun_induction parse now q with
  | case1 q h => exact h
  | case2 q code rest h ih => exact ih
  | case3 q code rest h ih => exact ih
  | case4 q c stamp rest h p ih => exact ih

/-- What is left are the last bytes of the queue. -/
theorem parse_rest_suffix (now : α) (q : List (Stamped α)) : (parse now q).rest <:+ q := by
  fun_induction parse now q with
  | case1 q h => exact List.suffix_refl q
  | case2 q code rest h ih => exact ih.trans (next_suffix (by rw [h]; rfl))
  | case3 q code rest h ih => exact ih.trans (next_suffix (by rw [h]; rfl))
  | case4 q c stamp rest h p ih => exact ih.trans (next_suffix (by rw [h]; rfl))

/-- Taking a queue apart early and the rest of it later, with more bytes behind, finds what
taking it apart once finds. -/
theorem parse_append {a b : α} (h : Covers b a) (q more : List (Stamped α)) :
    parse b (q ++ more) =
      ⟨(parse a q).commands ++ (parse b ((parse a q).rest ++ more)).commands,
        (parse b ((parse a q).rest ++ more)).rest⟩ := by
  fun_induction parse a q with
  | case1 q waits => rfl
  | case2 q code rest found ih =>
    have same := next_append h q more (by simp [found])
    rw [found] at same
    rw [parse_stray same, ih]
  | case3 q code rest found ih =>
    have same := next_append h q more (by simp [found])
    rw [found] at same
    rw [parse_unknown same, ih]
  | case4 q c stamp rest found p ih =>
    have same := next_append h q more (by simp [found])
    rw [found] at same
    rw [parse_ready same, ih]
    rfl

end Frame

end DifferentialDrive.Wire
