import DifferentialDrive.Scalar
import DifferentialDrive.Wire.Command

/-!
# Frames in the byte stream

Bytes wait in arrival order, each with its time of arrival. `Frame.next` looks at the front of the
queue at a given time and says what is there: a whole command, a byte that belongs to none, or
nothing yet. Of a command the zero byte, the opcode and the last operand are looked at for whether
their time has come.
-/

namespace DifferentialDrive.Wire

/-- A byte and when it arrived. -/
structure Stamped (α : Type) where
  code : UInt8
  stamp : α
  deriving Repr

/-- Bytes that arrived together. -/
def stampAll {α : Type} (bytes : List UInt8) (stamp : α) : List (Stamped α) :=
  bytes.map fun b => ⟨b, stamp⟩

@[simp] theorem length_stampAll {α : Type} (bytes : List UInt8) (stamp : α) :
    (stampAll bytes stamp).length = bytes.length := by
  simp [stampAll]

/-- What stands at the front of the queue, and what remains behind it. -/
inductive Frame (α : Type) where
  | waiting
  /-- A byte other than zero where a command should begin. -/
  | stray (code : UInt8) (rest : List (Stamped α))
  /-- A zero byte before a byte that is no opcode; that byte remains. -/
  | unknown (code : UInt8) (rest : List (Stamped α))
  /-- A whole command, with the arrival time of its last byte. -/
  | ready (command : Command) (stamp : α) (rest : List (Stamped α))

namespace Frame

variable {α : Type} [Scalar α]

/-- The frame that a form makes of the opcode's time and the bytes behind it. Of two operand
bytes the second decides whether the command has arrived. -/
def ofForm (now stamp : α) : Form → List (Stamped α) → Frame α
  | .bare c, rest => .ready c stamp rest
  | .byte f, a :: rest => if now < a.stamp then .waiting else .ready (f a.code) a.stamp rest
  | .word f, a :: b :: rest =>
    if now < b.stamp then .waiting else .ready (f (word a.code b.code)) b.stamp rest
  | _, _ => .waiting

def next (now : α) : List (Stamped α) → Frame α
  | [] => .waiting
  | head :: rest =>
    if now < head.stamp then .waiting
    else if head.code ≠ 0 then .stray head.code rest
    else
      match rest with
      | [] => .waiting
      | op :: operands =>
        if now < op.stamp then .waiting
        else
          match Form.ofOpcode? op.code with
          | none => .unknown op.code rest
          | some form => ofForm now op.stamp form operands

/-- The queue after the frame is taken; a frame that waits takes nothing. -/
def rest? : Frame α → Option (List (Stamped α))
  | waiting => none
  | stray _ rest | unknown _ rest | ready _ _ rest => some rest

theorem ofForm_rest_le (now stamp : α) (form : Form) (q r : List (Stamped α))
    (h : (ofForm now stamp form q).rest? = some r) : r.length ≤ q.length := by
  unfold ofForm at h
  split at h
  · simp_all [rest?]
  · split at h <;> simp [rest?] at h
    subst h
    simp
  · split at h <;> simp [rest?] at h
    subst h
    simp
    omega
  · simp [rest?] at h

/-- A frame that is taken shortens the queue. -/
theorem next_rest_lt (now : α) (q r : List (Stamped α)) (h : (next now q).rest? = some r) :
    r.length < q.length := by
  cases q with
  | nil => simp [next, rest?] at h
  | cons head rest =>
    simp only [next] at h
    split at h
    · simp [rest?] at h
    · split at h
      · simp [rest?] at h
        simp [h]
      · cases rest with
        | nil => simp [rest?] at h
        | cons op operands =>
          simp only at h
          split at h
          · simp [rest?] at h
          · split at h
            · simp [rest?] at h
              subst h
              simp
            · have := ofForm_rest_le _ _ _ _ _ h
              simp
              omega

/-- A command that has arrived is taken as it was written, whatever follows it. -/
theorem next_bytes (now t : α) (c : Command) (rest : List (Stamped α)) (h : ¬ now < t) :
    next now (stampAll c.bytes t ++ rest) = .ready c t rest := by
  cases c with
  | query q =>
    simp [next, stampAll, Command.bytes, Command.opcode, Command.operands, h,
      Form.ofOpcode?_query, ofForm]
  | regulator on => cases on <;> simp [next, stampAll, Command.bytes, Command.opcode,
      Command.operands, h, Form.ofOpcode?, ofForm]
  | timeout on => cases on <;> simp [next, stampAll, Command.bytes, Command.opcode,
      Command.operands, h, Form.ofOpcode?, ofForm]
  | _ => simp [next, stampAll, Command.bytes, Command.opcode, Command.operands, wordBytes, h,
      Form.ofOpcode?, ofForm]

end Frame

end DifferentialDrive.Wire
