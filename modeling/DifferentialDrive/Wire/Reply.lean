import DifferentialDrive.Outcome
import DifferentialDrive.Scalar
import DifferentialDrive.Wire.Command

/-!
# Replies

What the bytes that answer a query mean. `Reply.read` takes the payload of one reply apart;
`ReplyStream` matches a stream of reply bytes to the queries that were sent, in order, by the size
each of them calls for.
-/

namespace DifferentialDrive.Wire

/-- The error bits of the driver. -/
structure ErrorFlags where
  motor1Trip : Bool := false
  motor2Trip : Bool := false
  motor1Short : Bool := false
  motor2Short : Bool := false
  voltsOver30 : Bool := false
  voltsUnder16 : Bool := false
  deriving Repr, DecidableEq

namespace ErrorFlags

def toList (f : ErrorFlags) : List Bool :=
  [f.motor1Trip, f.motor2Trip, f.motor1Short, f.motor2Short, f.voltsOver30, f.voltsUnder16]

def healthy (f : ErrorFlags) : Bool := !f.toList.any id

/-- Bits 2 to 7 of an integer. -/
def ofBits (n : Int) : ErrorFlags :=
  let bit (k : Nat) : Bool := (n >>> k) % 2 == 1
  ⟨bit 2, bit 3, bit 4, bit 5, bit 6, bit 7⟩

end ErrorFlags

/-- The meaning of a reply. -/
inductive Reply (α : Type) where
  | number (n : Int)
  | factor (x : α)
  | numbers (ns : List Int)
  | flags (f : ErrorFlags)
  deriving Repr

namespace Reply

variable {α : Type} [Scalar α]

/-- A payload without a form of its own: one byte is a number, any other count a list. -/
def ofBytes : List UInt8 → Reply α
  | [b] => .number b.toNat
  | bs => .numbers (bs.map fun b => (b.toNat : Int))

/-- The meaning of a payload as the answer to a query, or to none of them. -/
def read (q : Option Query) (payload : List UInt8) : Except (Fault α) (Reply α) :=
  match q with
  | some .encoder1 | some .encoder2 =>
    match payload with
    | [a, b, c, d] => .ok (.number (counter a b c d))
    | _ => .error (.replyLength 4)
  | some .encoders =>
    match payload with
    | [a, b, c, d, e, f, g, h] => .ok (.numbers [counter a b c d, counter e f g h])
    | _ => .error (.replyLength 8)
  | some .simSpeed =>
    match payload with
    | [a, b] => .ok (.factor (Scalar.ofInt (word a b).toNat / Scalar.ofInt 10))
    | _ => .error (.replyLength 2)
  | some .error =>
    match payload with
    | b :: _ => .ok (.flags (ErrorFlags.ofBits b.toNat))
    | [] => .error .replyEmpty
  | _ => .ok (ofBytes payload)

end Reply

/-- Queries that wait for their reply, and reply bytes that wait for the rest. -/
structure ReplyStream where
  pending : List Query := []
  buffer : List UInt8 := []
  deriving Repr, DecidableEq

namespace ReplyStream

variable {α : Type} [Scalar α]

/-- Wait for the reply to an opcode, which must be that of a query. -/
def expect (s : ReplyStream) (opcode : Int) : Except (Fault α) ReplyStream :=
  match Query.ofCode? opcode with
  | some q => .ok { s with pending := s.pending ++ [q] }
  | none => .error (.noReply opcode)

def push (s : ReplyStream) (chunk : List UInt8) : ReplyStream :=
  { s with buffer := s.buffer ++ chunk }

/-- The oldest pending query, the bytes of its reply once all are there, and what is left without
them. -/
def take? (s : ReplyStream) : Option (Query × List UInt8 × ReplyStream) :=
  match s.pending with
  | [] => none
  | q :: pending =>
    if s.buffer.length < q.replySize then none
    else some (q, s.buffer.take q.replySize, ⟨pending, s.buffer.drop q.replySize⟩)

/-- The reply to the oldest pending query once all its bytes are there. They are taken before they
are read. -/
def pop (s : ReplyStream) : Outcome ReplyStream (Fault α) (Option (Query × Reply α)) :=
  match s.take? with
  | none => ⟨s, .ok none⟩
  | some (q, payload, rest) =>
    ⟨rest, (Reply.read (some q) payload).map fun reply => some (q, reply)⟩

/-- As many replies as there are bytes for, at most `count`. -/
def popUpTo : Nat → ReplyStream → Except (Fault α) (List (Query × Reply α) × ReplyStream)
  | 0, s => .ok ([], s)
  | count + 1, s =>
    match s.pop (α := α) with
    | ⟨_, .error f⟩ => .error f
    | ⟨s, .ok none⟩ => .ok ([], s)
    | ⟨s, .ok (some reply)⟩ => do
      let (replies, s) ← popUpTo count s
      return (reply :: replies, s)

/-- All replies there are bytes for. -/
def popAll (s : ReplyStream) : Except (Fault α) (List (Query × Reply α) × ReplyStream) :=
  popUpTo s.pending.length s

end ReplyStream

end DifferentialDrive.Wire
