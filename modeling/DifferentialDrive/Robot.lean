import DifferentialDrive.Journal
import DifferentialDrive.Outcome
import DifferentialDrive.Wire.Frame

/-!
# The robot

A robot takes timed command bytes and answers with telemetry bytes. Before a command is executed
the robot is moved, under the registers as they are, to the time the command arrived; `run` takes
everything that has arrived by a given time and moves the robot up to then.
-/

namespace DifferentialDrive

open Wire Scalar

structure Robot (α : Type) where
  chassis : Chassis α
  registers : Registers α
  track : Track α
  /-- How much faster than the clock the motion is. -/
  simSpeed : α
  /-- Up to when the motion has been followed. -/
  lastStep : α
  /-- When the last command to be executed arrived. -/
  commandTime : α
  /-- Bytes that wait, in arrival order. -/
  queue : List (Stamped α) := []
  /-- Bytes to be sent. -/
  telemetry : List UInt8 := []
  journal : Journal α := #[]

namespace Robot

variable {α : Type} [Scalar α]

def initial (chassis : Chassis α) (simSpeed start : α) (timeout : Bool) : Robot α where
  chassis := chassis
  registers := Registers.initial timeout start
  track := Track.start
  simSpeed := simSpeed
  lastStep := start
  commandTime := start

def note (r : Robot α) (e : Event α) : Robot α := { r with journal := r.journal.push e }

/-- Bytes that arrive in turn. -/
def receive (r : Robot α) (bytes : List (Stamped α)) : Robot α :=
  { r with queue := r.queue ++ bytes }

/-- Bytes that arrive together. -/
def push (r : Robot α) (bytes : List UInt8) (stamp : α) : Robot α :=
  r.receive (stampAll bytes stamp)

/-- All telemetry bytes, which are then gone. -/
def drain (r : Robot α) : List UInt8 × Robot α := (r.telemetry, { r with telemetry := [] })

/-! ## Motion -/

/-- How long no speed has been set at the time the motion has been followed to. -/
def silence (r : Robot α) : α := r.lastStep - r.registers.lastCommand

def overdue (r : Robot α) : Except (Fault α) Bool :=
  if r.registers.timeout then r.chassis.motorTimeout.isBelow r.silence else .ok false

/-- Stops the motors. -/
def halt (r : Robot α) : Robot α :=
  { r.note (.timedOut r.silence !r.registers.timedOut) with registers := r.registers.forceStop }

/-- Stops the motors if they are overdue. -/
def watch (r : Robot α) : Except (Fault α) (Robot α) := do
  if ← r.overdue then return r.halt else return r

/-- The motion up to an instant under the registers as they are. -/
def motion (r : Robot α) (stop : α) : Except (Fault α) (Travel α) :=
  travel r.chassis r.registers.decodeMode r.registers.speed1.toNat r.registers.speed2.toNat
    r.lastStep stop r.simSpeed r.track.pose

/-- The track after a stretch of motion. -/
def follow (r : Robot α) (t : Travel α) : Track α :=
  if t.duration == zero then r.track.stay else r.track.moveTo t.pose

/-- The encoder counts of a stretch of motion. -/
def counts (r : Robot α) (t : Travel α) : Except (Fault α) (Int × Int) := do
  let left ← r.chassis.counts t.left
  let right ← r.chassis.counts t.right
  return (left, right)

/-- Moves the robot up to an instant, unless it has been moved that far already. -/
def advance (r : Robot α) (limit : α) : Outcome (Robot α) (Fault α) Unit :=
  let stop := later limit r.lastStep
  match r.watch with
  | .error f => ⟨r, .error f⟩
  | .ok r =>
    match r.motion stop with
    | .error f => ⟨r, .error f⟩
    | .ok t =>
      let r := { r with track := r.follow t }
      match r.counts t with
      | .error f => ⟨r, .error f⟩
      | .ok (left, right) =>
        let r := r.note (.moved r.lastStep stop r.registers.units
          (r.track.pose.x, r.track.pose.y) (left, right))
        ⟨{ r with registers := r.registers.addCounts left right, lastStep := stop }, .ok ()⟩

/-! ## Commands -/

/-- A register as one byte. -/
def registerByte (n : Int) : Except (Fault α) (List UInt8) :=
  if 0 ≤ n ∧ n ≤ 255 then .ok [n.toNat.toUInt8] else .error .registerNotAByte

/-- A counter as four bytes. -/
def counterPayload (n : Int) : Except (Fault α) (List UInt8) :=
  if -0x80000000 ≤ n ∧ n < 0x80000000 then .ok (counterBytes n) else .error .counterTooWide

/-- The bytes that answer a query. Voltage, currents, version and error are fixed. -/
def answer (r : Robot α) : Query → Except (Fault α) (List UInt8)
  | .speed1 => .ok [r.registers.speed1]
  | .speed2 => .ok [r.registers.speed2]
  | .encoder1 => counterPayload r.registers.encoder1
  | .encoder2 => counterPayload r.registers.encoder2
  | .encoders => do
    let first ← counterPayload r.registers.encoder1
    let second ← counterPayload r.registers.encoder2
    return first ++ second
  | .volts => .ok [24]
  | .current1 | .current2 => .ok [10]
  | .version => .ok [1]
  | .acceleration => registerByte r.registers.acceleration
  | .mode => .ok [r.registers.mode.code]
  | .voltsAndCurrents => .ok [24, 10, 10]
  | .error => .ok [0]
  | .simSpeed => do
    let tenths ← toNearest (r.simSpeed * ofInt 10)
    return wordBytes (max 0 (min 65535 tenths)).toNat.toUInt16

/-- A speed command keeps the motors running from when it arrived. -/
def feedWatch (r : Robot α) : Robot α :=
  { r with registers.lastCommand := later r.commandTime r.registers.lastCommand }

/-- Tenths as a scalar. -/
def ofTenths (w : UInt16) : α := ofInt w.toNat / ofInt 10

/-- The effect of a command. The bytes that answer a query are made before any of them is put into
the telemetry. -/
def execute (r : Robot α) : Command → Outcome (Robot α) (Fault α) Unit
  | .query q =>
    match r.answer q with
    | .error f => ⟨r, .error f⟩
    | .ok reply => ⟨{ r.note (.replied q reply) with telemetry := r.telemetry ++ reply }, .ok ()⟩
  | .speed1 v => ⟨{ r with registers := r.registers.setSpeed1 v }.feedWatch, .ok ()⟩
  | .speed2 v => ⟨{ r with registers := r.registers.setSpeed2 v }.feedWatch, .ok ()⟩
  | .acceleration v => ⟨{ r with registers := r.registers.setAcceleration v.toNat }, .ok ()⟩
  | .mode code =>
    match Mode.ofCode? code.toNat with
    | some m => ⟨{ r with registers := r.registers.setMode m }, .ok ()⟩
    | none => ⟨r.note (.modeIgnored code), .ok ()⟩
  | .resetEncoders => ⟨{ r with registers := r.registers.resetEncoders }, .ok ()⟩
  | .regulator on => ⟨{ r with registers.regulator := on }, .ok ()⟩
  | .timeout on => ⟨{ r with registers.timeout := on }, .ok ()⟩
  | .placeX w => ⟨{ r with track := r.track.place (some (ofInt w.toNat)) none none }, .ok ()⟩
  | .placeY w => ⟨{ r with track := r.track.place none (some (ofInt w.toNat)) none }, .ok ()⟩
  | .placeHeading w =>
    ⟨{ r with track := r.track.place none none (some (ofTenths w)) }, .ok ()⟩
  | .simSpeed w => ⟨{ r with simSpeed := ofTenths w }.note (.simSpeedSet (ofTenths w)), .ok ()⟩

/-- Moves to the time a command arrived and executes it there. -/
def perform (r : Robot α) (c : Command) (stamp : α) : Outcome (Robot α) (Fault α) Unit :=
  match r.advance stamp with
  | ⟨r, .error f⟩ => ⟨r, .error f⟩
  | ⟨r, .ok ()⟩ =>
    match { r with commandTime := stamp }.execute c with
    | ⟨r, .error f⟩ => ⟨r, .error f⟩
    | ⟨r, .ok ()⟩ => ⟨r.note (.executed c stamp), .ok ()⟩

/-- Takes the frame at the front of the queue. A command leaves the queue once it has been
executed. The result says whether there was anything to take. -/
def takeFrame (r : Robot α) (now : α) : Outcome (Robot α) (Fault α) Bool :=
  match Frame.next now r.queue with
  | .waiting => ⟨r, .ok false⟩
  | .stray code rest => ⟨{ r.note (.strayByte code) with queue := rest }, .ok true⟩
  | .unknown code rest => ⟨{ r.note (.unknownOpcode code) with queue := rest }, .ok true⟩
  | .ready c stamp rest =>
    match r.perform c stamp with
    | ⟨r, .error f⟩ => ⟨r, .error f⟩
    | ⟨r, .ok ()⟩ => ⟨{ r with queue := rest }, .ok true⟩

theorem takeFrame_shortens (r s : Robot α) (now : α) (h : r.takeFrame now = ⟨s, .ok true⟩) :
    s.queue.length < r.queue.length := by
  have key := Frame.next_rest_lt now r.queue
  unfold takeFrame at h
  split at h
  · simp at h
  · simp_all [Frame.rest?]
    rw [← h]
    simpa using key
  · simp_all [Frame.rest?]
    rw [← h]
    simpa using key
  · split at h
    · simp at h
    · simp_all [Frame.rest?]
      rw [← h]
      simpa using key

/-- Takes all that has arrived and moves up to the given time. -/
def run (r : Robot α) (now : α) : Outcome (Robot α) (Fault α) Unit :=
  match _taken : r.takeFrame now with
  | ⟨s, .ok true⟩ => s.run now
  | ⟨s, .ok false⟩ => s.advance now
  | ⟨s, .error f⟩ => ⟨s, .error f⟩
termination_by r.queue.length
decreasing_by exact takeFrame_shortens r s now ‹_›

end Robot

end DifferentialDrive
