import DifferentialDrive.Decimal.Fixed
import DifferentialDrive.Journal
import DifferentialDrive.Text.Hexadecimal

/-!
# The log

Which events are written to the log, at which level, by which part, and how they are worded.
-/

namespace DifferentialDrive

open Text

inductive Level where
  | debug | info | warning | error | critical
  deriving Repr, DecidableEq

namespace Level

def name : Level → String
  | debug => "DEBUG"
  | info => "INFO"
  | warning => "WARNING"
  | error => "ERROR"
  | critical => "CRITICAL"

def number : Level → Int
  | debug => 10
  | info => 20
  | warning => 30
  | error => 40
  | critical => 50

/-- The least number of the levels that a level's name, or one of its other names, lets pass. -/
def threshold? : String → Option Int
  | "NOTSET" => some 0
  | "DEBUG" => some 10
  | "INFO" => some 20
  | "WARNING" | "WARN" => some 30
  | "ERROR" => some 40
  | "CRITICAL" | "FATAL" => some 50
  | _ => none

end Level

structure LogEntry where
  level : Level
  source : String
  text : String
  deriving Repr, DecidableEq

namespace LogEntry

def line (e : LogEntry) : String := e.level.name ++ " " ++ e.source ++ " " ++ e.text

end LogEntry

/-- The code of a mode as a number. -/
def Mode.number (m : Mode) : Nat := m.code.toNat

def statusText (p : Pose Float) (r : Registers Float) : String :=
  let places := Decimal.fixed 1
  let head := "pose x=" ++ places p.x ++ " y=" ++ places p.y ++ " a=" ++ places p.heading
  let counts := s!" | enc={r.encoder1}/{r.encoder2} mode={r.mode.number}"
  let speeds := s!" speeds={r.speed1.toNat}/{r.speed2.toNat}"
  head ++ counts ++ speeds ++ (if r.timedOut then " [timeout]" else "")

/-- The log entry of an event, if it has one. -/
def Event.entry? : Event Float → Option LogEntry
  | strayByte code =>
    some ⟨.debug, "decoder", "dropping stray byte 0x" ++ hexadecimal 2 code.toNat⟩
  | unknownOpcode code =>
    some ⟨.debug, "decoder", "dropping prefix before unknown opcode 0x" ++
      hexadecimal 2 code.toNat⟩
  | modeIgnored code => some ⟨.warning, "decoder", s!"ignoring invalid mode {code.toNat}"⟩
  | simSpeedSet factor =>
    some ⟨.info, "decoder", "simulation speed set to " ++ Decimal.fixed 1 factor ++ "x"⟩
  | timedOut silence true =>
    some ⟨.info, "decoder", "motor timeout: no command for " ++ Decimal.fixed 2 silence ++
      "s, stopping"⟩
  | started now => some ⟨.info, "simulator", "simulation started at t=" ++ Decimal.fixed 3 now⟩
  | stopped => some ⟨.info, "simulator", "simulation stopped"⟩
  | holding t wheel1 wheel2 seconds =>
    some ⟨.debug, "controller", "t=" ++ Decimal.fixed 3 t ++ s!" hold {wheel1}/{wheel2} for " ++
      Decimal.fixed 3 seconds ++ "s"⟩
  | queriesDropped count => some ⟨.info, "controller", s!"dropping {count} unanswered queries"⟩
  | keyTaken key action => some ⟨.debug, "teleop", s!"teleop {key} -> {action.name}"⟩
  | lineOpened name baud =>
    some ⟨.info, "comm.serial_link", s!"serial link open on {name} @ {baud}"⟩
  | socketOpened host number =>
    some ⟨.info, "udp_link", s!"udp link listening on {host}:{number}"⟩
  | status pose registers => some ⟨.info, "sim", statusText pose registers⟩
  | overlapping obstacles =>
    some ⟨.info, "sim", "robot overlaps obstacle(s) [" ++
      ", ".intercalate (obstacles.map toString) ++ "]"⟩
  | shuttingDown => some ⟨.info, "sim", "shutting down"⟩
  | timedOut _ false | executed .. | replied .. | moved .. => none

/-- The lines of a journal at or above a threshold. -/
def Journal.lines (j : Journal Float) (threshold : Int) : List String :=
  j.toList.filterMap fun e => (e.entry?.filter (threshold ≤ ·.level.number)).map LogEntry.line

end DifferentialDrive
