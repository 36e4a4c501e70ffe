import DifferentialDrive.Keyboard
import DifferentialDrive.Track
import DifferentialDrive.Registers

/-!
# The journal

What happens to a robot, its clients and its links, in order. Some events are written to the log;
all of them are kept, so that the journal is the history a state came from.
-/

namespace DifferentialDrive

open Wire

inductive Event (α : Type) where
  | strayByte (code : UInt8)
  | unknownOpcode (code : UInt8)
  | executed (command : Command) (stamp : α)
  | replied (query : Query) (bytes : List UInt8)
  | modeIgnored (code : UInt8)
  | simSpeedSet (factor : α)
  /-- The motors were stopped after a silence; `first` says that they had not been before. -/
  | timedOut (silence : α) (first : Bool)
  /-- Motion between two instants, with the wheel units it was made at, the point it led to and
  the encoder counts of the two wheels. -/
  | moved (start stop : α) (units : Int × Int) (point : α × α) (counts : Int × Int)
  | started (now : α)
  | stopped
  | holding (t : α) (wheel1 wheel2 : Int) (seconds : α)
  | queriesDropped (count : Nat)
  | keyTaken (key : String) (action : DriveAction)
  | lineOpened (name : String) (baud : Int)
  | socketOpened (host : String) (number : Int)
  | status (pose : Pose α) (registers : Registers α)
  | overlapping (obstacles : List Nat)
  | shuttingDown
  deriving Repr

/-- The command an event says was executed. -/
def Event.command? {α : Type} : Event α → Option (Command × α)
  | executed c stamp => some (c, stamp)
  | _ => none

abbrev Journal (α : Type) := Array (Event α)

end DifferentialDrive
