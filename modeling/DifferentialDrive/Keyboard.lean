import DifferentialDrive.Fault
import DifferentialDrive.Wire.Command

/-!
# Driving by keyboard

Keys stand for five ways of driving. The commands of a key put the robot into mode 0 with the
timeout on and give both wheels their speeds. One key stops the robot even when the keyboard is
switched off.
-/

namespace DifferentialDrive

open Wire

inductive DriveAction where
  | forward | backward | rotateCw | rotateCcw | stop
  deriving Repr, DecidableEq

namespace DriveAction

def name : DriveAction → String
  | forward => "forward"
  | backward => "backward"
  | rotateCw => "rotate_cw"
  | rotateCcw => "rotate_ccw"
  | stop => "stop"

def all : List DriveAction := [forward, backward, rotateCw, rotateCcw, stop]

def ofName? (s : String) : Option DriveAction := all.find? fun a => a.name == s

/-- The speed bytes of the two wheels around the centre of 128. -/
def speeds : DriveAction → UInt8 × UInt8
  | forward => (148, 148)
  | backward => (108, 108)
  | rotateCw => (148, 108)
  | rotateCcw => (108, 148)
  | stop => (128, 128)

def commands (a : DriveAction) : List Command :=
  [.mode 0, .timeout true, .speed1 a.speeds.1, .speed2 a.speeds.2]

def bytes (a : DriveAction) : List UInt8 := a.commands.flatMap Command.bytes

/-- The bytes of the action with the given name. -/
def bytesOf {α : Type} (name : String) : Except (Fault α) (List UInt8) :=
  match ofName? name with
  | some a => .ok a.bytes
  | none => .error (.unknownAction name)

end DriveAction

/-- Which key drives which way. -/
structure Keyboard where
  forward : String := "up"
  backward : String := "down"
  rotateCw : String := "right"
  rotateCcw : String := "left"
  stop : String := "space"
  /-- Stops the robot whether or not the keyboard is on. -/
  globalStop : String := "escape"
  enabled : Bool := false
  deriving Repr, DecidableEq

namespace Keyboard

def key (k : Keyboard) : DriveAction → String
  | .forward => k.forward
  | .backward => k.backward
  | .rotateCw => k.rotateCw
  | .rotateCcw => k.rotateCcw
  | .stop => k.stop

/-- The action of a key; of two actions on one key the later in the list has it. -/
def action? (k : Keyboard) (key : String) : Option DriveAction :=
  DriveAction.all.reverse.find? fun a => k.key a == key

/-- Each key once with its action, in the order of the keys. -/
def keymap (k : Keyboard) : List (String × DriveAction) :=
  let pairs := DriveAction.all.filterMap fun a =>
    if k.action? (k.key a) = some a then some (k.key a, a) else none
  pairs.mergeSort fun a b => a.1 ≤ b.1

/-- What a pressed key does. -/
def press (k : Keyboard) (key : String) : Option DriveAction :=
  if key = k.globalStop then some .stop
  else if k.enabled then k.action? key
  else none

def toggle (k : Keyboard) : Keyboard := { k with enabled := !k.enabled }

end Keyboard

end DifferentialDrive
