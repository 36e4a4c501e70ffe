import DifferentialDrive.Config.Settings
import DifferentialDrive.Document.Source
import DifferentialDrive.Launch.Problem
import DifferentialDrive.Log

/-!
# Configurations

The configuration that is used without a file, the one that a text says, and the level it sets for
the log.
-/

namespace DifferentialDrive.Launch

open Config Document

/-- The settings that are used without a file. -/
def standard : Value :=
  let int (n : Int) : Draft := .datum (.int n)
  let float (x : Float) : Draft := .datum (.float x)
  let bool (b : Bool) : Draft := .datum (.bool b)
  let text (s : String) : Draft := .datum (.ofText s)
  Draft.finish <| .record [
    ("sim", .record [("update_hz", int 60), ("status_hz", int 1), ("sim_speed", float 1.0),
      ("timeout_enabled", bool true)]),
    ("robot", .record [("radius", float 250.0), ("wheel_diameter", float 125.0),
      ("counts_per_turn", int 980), ("speed_to_mmps", float 6.25), ("motor_timeout_s", float 2.0)]),
    ("serial", .record [("enabled", bool false), ("port", text "/dev/ttyS0"), ("baud", int 9600)]),
    ("udp", .record [("enabled", bool true), ("host", text "0.0.0.0"), ("port", int 5005)]),
    ("environment", .record [("width", int 5000), ("height", int 5000),
      ("obstacles", .list [
        .record [("x", int 1000), ("y", int 1000), ("width", int 400), ("height", int 400)],
        .record [("x", int (-2000)), ("y", int 500), ("width", int 100), ("height", int 1500),
          ("filled", bool false)]])]),
    ("logging", .record [("level", text "INFO")])]

/-- The value of a configuration text; an unset one stands for no settings at all. -/
def parse (name text : String) : Except Problem Value :=
  match Document.read text with
  | .ok v => .ok (if v.isSet then v else .empty)
  | .error f => .error (.document name f)

/-- The least level that is logged. -/
def thresholdOf (cfg : Value) : Except Problem Int := do
  let logging ← (part cfg "logging").mapError .failure
  let v := (← (get? logging "level").mapError .failure).getD (.ofText "INFO")
  match v.view with
  | .datum (.text name) =>
    ((Level.threshold? name.toString).map .ok).getD (.error (.unknownLevel name))
  | .datum (.int n) => return n
  | .datum (.bool b) => return if b then 1 else 0
  | .datum .null => return Level.warning.number
  | _ => throw (.failure (if v.shown?.isSome then .badSetting else .tooManyDigits))

end DifferentialDrive.Launch
