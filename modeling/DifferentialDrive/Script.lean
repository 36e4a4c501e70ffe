import DifferentialDrive.Config.Links
import DifferentialDrive.Log
import DifferentialDrive.Machine.Fed
import DifferentialDrive.Script.Line

/-!
# Scripted machines

A machine on which everything is laid down beforehand: time moves only by reading the clock, each
time by the same cost, and by sleeping; datagrams arrive at given times; a given number of sleeps
may end in an interruption; and lines that are opened are looped. A line of the log that cannot be
worded strikes the program.
-/

namespace DifferentialDrive

structure Script where
  time : Float := 0
  cost : Float := 0
  interruptAfter : Option Int := none
  /-- Datagrams to come, in order, with the times from which they are there. -/
  coming : List (Float × Datagram) := []
  /-- What a client has written to the line before anything is read. -/
  written : List UInt8 := []
  /-- The text of the file at a path. -/
  files : String → Except FileFault String := fun _ => .error .missing
  /-- The least level that is logged. -/
  threshold : Int := 0

namespace Script

/-! ## Time -/

/-- The time after what has passed. -/
def now (s : Script) (past : Past) : Float :=
  past.foldr (fun p time =>
    match p with
    | .clock _ => time + s.cost
    | .sleep pause _ => time + pause
    | _ => time) s.time

def sleeps (past : Past) : Nat := past.countP fun p => p matches .sleep ..

def sleep (s : Script) (past : Past) : Except Strike Unit :=
  if s.interruptAfter.any fun n => n ≤ Int.ofNat (sleeps past + 1) then .error .interrupted
  else .ok ()

/-! ## The log -/

/-- How a setting that has no words strikes the program. -/
def wordless (f : Failure) : Strike :=
  let cause := match f with
    | .badSetting => "type"
    | .fault .infinityToInteger => "overflow"
    | _ => "value"
  .refused ⟨cause, f.message⟩

/-- Whether there are words for what was opened just before. -/
def statement (s : Script) (past : Past) : Except Strike Unit :=
  if Level.info.number < s.threshold then .ok ()
  else
    match past with
    | .openLine l (.ok ()) :: _ =>
      (do let _ ← Config.shownNumber l.baud).mapError wordless
    | .bind a (.ok ()) :: _ =>
      (do let _ ← Config.shownText a.host; let _ ← Config.shownNumber a.number).mapError wordless
    | _ => .ok ()

/-! ## The links -/

/-- How the line that was opened last is set. -/
def line? (past : Past) : Option LineSettings :=
  past.findSome? fun p =>
    match p with
    | .openLine l (.ok ()) => some l
    | _ => none

/-- What a reader is given of bytes that wait. -/
def given (past : Past) (bytes : List UInt8) : Except Strike (List UInt8) :=
  match (line? past).map fun l => patience l.timeout with
  | some (.ok .hasty) => .ok (bytes.take 1)
  | some (.ok .boundless) =>
    let fault : Fault Float := .integerTooLarge
    .error (.refused ⟨"overflow", fault.message⟩)
  | _ => .ok bytes

def port (s : Script) : Port :=
  let looped := Port.fed fun past => s.written ++ past.written
  { looped with
    opens := fun _ l => (openLine s.files l).mapError fun f => .refused f.refusal
    read := fun past count => do given past (← looped.read past count) }

/-- What the socket was bound to, as far as there are words for it. -/
def bound (past : Past) : Address :=
  let address? := past.findSome? fun p =>
    match p with
    | .bind a (.ok ()) =>
      match Config.shownText a.host, Config.shownNumber a.number with
      | .ok host, .ok number => some ⟨host, number⟩
      | _, _ => none
    | _ => none
  address?.getD ⟨"", 0⟩

def net (s : Script) : Net where
  opens _ := .ok ()
  bind _ _ := .ok ()
  address past := .ok (bound past)
  receive past limit :=
    let rest := s.coming.drop past.received.length
    let here := rest.takeWhile fun d => d.1 ≤ s.now past
    (here.map fun d => d.2.cut limit, none)
  send _ _ := .ok ()
  closes _ := .ok ()

def machine (s : Script) : Machine where
  clock past := .ok (s.now past)
  sleep past _ := s.sleep past
  statement := s.statement
  cut _ r := r
  port := s.port
  net := s.net

end Script

end DifferentialDrive
