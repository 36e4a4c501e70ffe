import DifferentialDrive.Outcome
import DifferentialDrive.Timeline

/-!
# Clients

A timeline at work. `Timeline.perform` says at once what a call comes to; a client goes through the
call step by step, sends while it goes and keeps what it did when a later step is refused. While a
speed is held the cursor itself goes from command to command, and nothing ends the hold but its
end: a hold whose end is never reached does not return.
-/

namespace DifferentialDrive

open Wire Scalar

/-- Bytes sent together at one instant. -/
structure Packet (α : Type) where
  stamp : α
  bytes : List UInt8

def Push.packet {α : Type} (p : Push α) : Packet α := ⟨p.stamp, p.bytes⟩

structure Client (α : Type) where
  timeline : Timeline α
  /-- What it sent, in order. -/
  sent : Array (Packet α) := #[]
  journal : Journal α := #[]

namespace Client

variable {α β : Type}

def push (c : Client α) (bytes : List UInt8) : Client α :=
  { c with sent := c.sent.push ⟨c.timeline.t, bytes⟩ }

def note (c : Client α) (e : Event α) : Client α := { c with journal := c.journal.push e }

def moveTo (c : Client α) (t : α) : Client α := { c with timeline.t := t }

def expecting (c : Client α) (replies : ReplyStream) : Client α :=
  { c with timeline.replies := replies }

/-- What a client does step by step. A step that is refused ends it and takes nothing back, and
there is no result at all if it does not return. -/
abbrev Work (α β : Type) := ExceptT (Fault α) (StateT (Client α) Option) β

/-- A result that may be refused, without a change to the client. -/
def check (result : Except (Fault α) β) : Work α β := ExceptT.mk (pure result)

def send (commands : List Command) : Work α Unit :=
  modify (·.push (commands.flatMap Command.bytes))

variable [Scalar α]

/-- Sends the bytes at the cursor and goes on by a keepalive, until one more keepalive would reach
the end. -/
def keepSending (bytes : List UInt8) (finish : α) (c : Client α) : Option (Client α) :=
  let next := c.timeline.t + c.timeline.keepalive
  if finish ≤ next then some (c.push bytes)
  else (keepSending (c := (c.push bytes).moveTo next)) bytes finish
partial_fixpoint

def keepUp (speeds : List Command) (finish : α) : Work α Unit := fun c =>
  (keepSending (speeds.flatMap Command.bytes) finish c).map fun c => (.ok (), c)

def hold (seconds : α) (wheel1 wheel2 : Int) : Work α Unit := do
  let seconds ← check (Timeline.nonNegative "seconds" seconds)
  let speed1 := (← check (Timeline.wheel "wheel1" wheel1)) + 128
  let speed2 := (← check (Timeline.wheel "wheel2" wheel2)) + 128
  modify fun c => c.note (.holding c.timeline.t wheel1 wheel2 seconds)
  send (← check (Request.mode 0))
  let finish := (← get).timeline.t + seconds
  keepUp (← check (Request.speeds speed1 speed2)) finish
  modify (·.moveTo finish)

def holdDistance (distance : α) (wheel1 wheel2 : Int) : Work α Unit := do
  hold (← check ((← get).timeline.secondsForDistance distance wheel1 wheel2)) wheel1 wheel2

def holdAngle (degrees : α) (wheel1 wheel2 : Int) : Work α Unit := do
  hold (← check ((← get).timeline.secondsForAngle degrees wheel1 wheel2)) wheel1 wheel2

def wait (seconds : α) : Work α Unit := do
  let seconds ← check (Timeline.nonNegative "seconds" seconds)
  modify fun c => c.moveTo (c.timeline.t + seconds)

def stop : Work α Unit := do
  let mode ← check (Request.mode 0)
  send (mode ++ (← check (Request.speeds 128 128)))

def place (x y degrees : α) : Work α Unit := do
  let x ← check (Request.placeX (← check (toNearest x)))
  let y ← check (Request.placeY (← check (toNearest y)))
  let heading ← check (Request.placeHeading (Heading.wrap degrees))
  send (x ++ y ++ heading)

/-- A query is awaited before it is sent. -/
def query (opcode : Int) : Work α Unit := do
  let replies ← check ((← get).timeline.replies.expect opcode)
  modify (·.expecting replies)
  let bytes ← check (Request.raw opcode [])
  modify (·.push bytes)

/-- Takes replies until there is none, at most `count`. Their bytes are taken before they are
read. -/
def takeReplies : Nat → Work α (List (Query × Reply α))
  | 0 => return []
  | count + 1 => do
    match (← get).timeline.replies.take? with
    | none => return []
    | some (q, payload, rest) =>
      modify (·.expecting rest)
      let reply ← check (Reply.read (some q) payload)
      return (q, reply) :: (← takeReplies count)

def read (bytes : List UInt8) : Work α (List (Query × Reply α)) := do
  modify fun c => c.expecting (c.timeline.replies.push bytes)
  takeReplies (← get).timeline.replies.pending.length

def reset : Work α Unit := do
  let waiting := (← get).timeline.replies.pending
  unless waiting.isEmpty do modify (·.note (.queriesDropped waiting.length))
  modify (·.expecting {})

/-- Work that reads no replies. -/
def silent (w : Work α Unit) : Work α (List (Query × Reply α)) := do
  w
  return []

/-- A call, and the replies it read. -/
def work : Call α → Work α (List (Query × Reply α))
  | .holdSeconds s a b => silent (hold s a b)
  | .holdDistance d a b => silent (holdDistance d a b)
  | .holdAngle d a b => silent (holdAngle d a b)
  | .forward d s => silent (holdDistance d s.natAbs s.natAbs)
  | .backward d s => silent (holdDistance d (-s.natAbs) (-s.natAbs))
  | .forwardSeconds d s => silent (hold d s.natAbs s.natAbs)
  | .backwardSeconds d s => silent (hold d (-s.natAbs) (-s.natAbs))
  | .rotateLeft d s => silent (holdAngle d (-s.natAbs) s.natAbs)
  | .rotateRight d s => silent (holdAngle d s.natAbs (-s.natAbs))
  | .wait s => silent (wait s)
  | .stop => silent stop
  | .place x y d => silent (place x y d)
  | .query opcode => silent (query opcode)
  | .read bytes => read bytes
  | .reset => silent reset

/-- What a call comes to, if it returns. -/
def act (c : Client α) (call : Call α) :
    Option (Outcome (Client α) (Fault α) (List (Query × Reply α))) :=
  ((work call).run.run c).map fun (result, c) => ⟨c, result⟩

/-- The client after the calls, of which some may be refused, if all of them return. -/
def after (c : Client α) : List (Call α) → Option (Client α)
  | [] => some c
  | call :: rest => do
    let o ← c.act call
    o.state.after rest

end Client

end DifferentialDrive
