import DifferentialDrive.Launch
import DifferentialDrive.Script
import DifferentialDrive.Service

/-!
# The command line program

Runs the service on the system's clock and writes its log to the standard error stream. Its links
are those of a scripted machine.
-/

namespace DifferentialDrive.Main

def seconds : IO Float := return (Binary64.ofInt (← IO.monoNanosNow)) / 1e9

/-- Writes what the journal has gained. -/
def writeLog (threshold : Int) (seen : Nat) (s : Service) : IO Nat := do
  let journal := s.sim.robot.journal
  for line in Journal.lines (journal.extract seen journal.size) threshold do
    IO.eprintln line
  return journal.size

/-- Cycles until the time is over or a cycle fails. -/
partial def serve (l : Launch) (start : Float) (seen : Nat) (s : Service) :
    IO (Except (Fault Float) Unit) := do
  let finish (s : Service) (result : Except (Fault Float) Unit) := do
    let _ ← writeLog l.threshold seen (Service.wrapUp ⟨s, result⟩).state
    return result
  let now ← seconds
  match l.limit.isReached (now - start) with
  | .error f => finish s (.error f)
  | .ok true => finish s (.ok ())
  | .ok false =>
    match s.cycle now with
    | ⟨s, .error f⟩ => finish s (.error f)
    | ⟨s, .ok ()⟩ =>
      let seen ← writeLog l.threshold seen s
      let pause := s.intervals.tick - ((← seconds) - now)
      if 0 < pause then IO.sleep (pause * 1000).toUInt32
      serve l start seen s

def run (l : Launch) (files : String → Except FileFault String) : IO (Except Failure Unit) := do
  let script : Script := { time := ← seconds, files := files, threshold := l.threshold }
  match Service.build { machine := script.machine } l.config with
  | ⟨_, .error f⟩ => return .error f
  | ⟨_, .ok s⟩ =>
    let begun := s.statusAt
    match s.openLinks l.config with
    | ⟨_, .error f⟩ => return .error f
    | ⟨s, .ok ()⟩ =>
      match s.start begun with
      | ⟨_, .error f⟩ => return .error (.fault f)
      | ⟨s, .ok ()⟩ => return (← serve l begun 0 s).mapError .fault

/-- The text of a file, or why it cannot be read. -/
def readFile (name : String) : IO (Except FileFault String) := do
  try
    return .ok (← IO.FS.readFile name)
  catch
    | .inappropriateType .. => return .error .notADirectory
    | .invalidArgument .. => return .error .nul
    | _ => return .error .missing

end DifferentialDrive.Main

open DifferentialDrive in
def main (args : List String) : IO UInt32 := do
  let fail (p : Launch.Problem) : IO UInt32 := do
    match p with
    | .exit code => return code.toUInt32
    | p =>
      IO.eprintln p.message
      return 1
  match Options.parse args with
  | .error p => fail p
  | .ok options =>
    let path := match options.config with
      | .file path => path
      | _ => ""
    let text ← Main.readFile path
    let files (name : String) := if name == path then text else .error .missing
    match Launch.prepare files args with
    | .error p => fail p
    | .ok l =>
      match ← Main.run l files with
      | .ok () => return 0
      | .error f => fail (.failure f)
