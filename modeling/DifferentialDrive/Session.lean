import DifferentialDrive.Link.Datagram
import DifferentialDrive.Link.Serial
import DifferentialDrive.Timeline

/-!
# Sessions

A station with everything that can act on it: a client's timeline, a keyboard and its links. A
session goes through actions one at a time; an action that is refused
leaves what it had done.
-/

namespace DifferentialDrive

open Wire

structure Session (α : Type) extends Station α where
  timeline : Timeline α
  keyboard : Keyboard := {}

inductive Session.Action (α : Type) where
  | start (now : α)
  | tick (now : α)
  | stop
  | push (bytes : List UInt8) (stamp : α)
  | drain
  | collisions
  /-- Registers set from outside, whatever they are set to. -/
  | poke (encoder1 encoder2 acceleration : Option Int)
  | peek (count : Nat)
  | clear
  | call (c : Call α)
  /-- The client reads what telemetry there is. -/
  | readTelemetry
  | key (key : String) (now : α)
  | toggle
  | commandFor (name : String)
  | lineWrite (bytes : List UInt8)
  | lineRead (count : Nat)
  | lineIngress (now : α)
  | lineEgress
  | lineClose
  /-- A datagram is sent to the socket from outside. -/
  | datagram (d : Datagram)
  | socketIngress (now : α)
  | socketEgress

/-- What an action answers. -/
inductive Session.Answer (α : Type) where
  | nothing
  | flag (b : Bool)
  | count (n : Nat)
  | bytes (bs : List UInt8)
  | places (ns : List Nat)
  | stamped (bs : List (Stamped α))
  | replies (rs : List (Query × Reply α))
  | action (a : Option DriveAction)
  | sent (count : Nat) (ds : List Datagram)

namespace Session

variable {α : Type} [Scalar α]

def note (s : Session α) (e : Event α) : Session α := { s with sim := s.sim.note e }

/-- Takes over what a call to the timeline came to. -/
def react (s : Session α) (r : Reaction α) : Session α :=
  let sim := r.events.foldl Simulation.note s.sim
  { s with timeline := r.timeline, sim := sim.receive r.stamped }

def call (s : Session α) (c : Call α) : Outcome (Session α) (Fault α) (Answer α) :=
  match s.timeline.perform c with
  | .error f => ⟨s, .error f⟩
  | .ok r =>
    let answer := match c with
      | .read _ => .replies r.replies
      | _ => .nothing
    ⟨s.react r, .ok answer⟩

def press (s : Session α) (key : String) (now : α) : Session α × Option DriveAction :=
  match s.keyboard.press key with
  | none => (s, none)
  | some a => ({ s with sim := s.sim.push a.bytes now }.note (.keyTaken key a), some a)

def poke (s : Session α) (encoder1 encoder2 acceleration : Option Int) : Session α :=
  let r := s.sim.robot.registers
  { s with sim.robot.registers := { r with
      encoder1 := encoder1.getD r.encoder1
      encoder2 := encoder2.getD r.encoder2
      acceleration := acceleration.getD r.acceleration } }

/-- What an action on a link comes to, if there is the link. -/
def onLink {β : Type} (s : Session α) (there : Bool) (o : Outcome (Station α) (Fault α) β)
    (answer : β → Answer α) : Outcome (Session α) (Fault α) (Answer α) :=
  if there then ⟨{ s with toStation := o.state }, o.result.map answer⟩
  else ⟨s, .error .linkMissing⟩

def perform (s : Session α) : Action α → Outcome (Session α) (Fault α) (Answer α)
  | .start now => ⟨{ s with sim := s.sim.start now }, .ok .nothing⟩
  | .tick now =>
    let o := s.sim.tick now
    ⟨{ s with sim := o.state }, o.result.map .flag⟩
  | .stop => ⟨{ s with sim := s.sim.stop }, .ok .nothing⟩
  | .push bytes stamp => ⟨{ s with sim := s.sim.push bytes stamp }, .ok .nothing⟩
  | .drain =>
    let (bytes, sim) := s.sim.drain
    ⟨{ s with sim := sim }, .ok (.bytes bytes)⟩
  | .collisions => ⟨s, s.sim.collisions.map .places⟩
  | .poke a b c => ⟨s.poke a b c, .ok .nothing⟩
  | .peek count => ⟨s, .ok (.stamped (s.sim.robot.queue.take count))⟩
  | .clear => ⟨{ s with sim.robot.queue := [] }, .ok .nothing⟩
  | .call c => s.call c
  | .readTelemetry =>
    let (bytes, sim) := s.sim.drain
    { s with sim := sim }.call (.read bytes)
  | .key key now =>
    let (s, a) := s.press key now
    ⟨s, .ok (.action a)⟩
  | .toggle =>
    let keyboard := s.keyboard.toggle
    ⟨{ s with keyboard := keyboard }, .ok (.flag keyboard.enabled)⟩
  | .commandFor name => ⟨s, (DriveAction.bytesOf name).map .bytes⟩
  | .lineWrite bytes =>
    s.onLink s.line (s.ask (·.write bytes)) fun _ => .count bytes.length
  | .lineRead count => s.onLink s.line (s.ask (·.read count)) .bytes
  | .lineIngress now => s.onLink s.line (s.lineIngress now) .count
  | .lineEgress => s.onLink s.line s.lineEgress .count
  | .lineClose => s.onLink s.line s.closeLine fun _ => .flag false
  | .datagram d => ⟨{ s with world := s.world.note (.arrival d) }, .ok .nothing⟩
  | .socketIngress now => s.onLink s.socket.isSome (s.socketIngress now) .count
  | .socketEgress =>
    let o := s.socketEgress
    s.onLink s.socket.isSome o fun count => .sent count (o.state.world.since s.world Passed.sent)

/-- What came of each of the actions in turn. -/
def outcomes (s : Session α) :
    List (Action α) → List (Outcome (Session α) (Fault α) (Answer α))
  | [] => []
  | a :: rest =>
    let o := s.perform a
    o :: o.state.outcomes rest

/-- The session after the actions. -/
def after (s : Session α) (actions : List (Action α)) : Session α :=
  actions.foldl (fun s a => (s.perform a).state) s

theorem after_append (s : Session α) (a b : List (Action α)) :
    s.after (a ++ b) = (s.after a).after b := by
  simp [after]

theorem outcomes_append (s : Session α) (a b : List (Action α)) :
    s.outcomes (a ++ b) = s.outcomes a ++ (s.after a).outcomes b := by
  induction a generalizing s with
  | nil => rfl
  | cons x rest ih => simp [outcomes, after, ih]

end Session

end DifferentialDrive
