import DifferentialDrive.Decimal.Integer
import DifferentialDrive.Fault.Message

/-!
# Failures of the service

Why the service did not start or did not go on: a fault of the robot, its links or the machine, or
something wrong with its configuration.
-/

namespace DifferentialDrive

inductive Failure where
  | fault (f : Fault Float)
  /-- A setting that is missing, unknown or of the wrong kind. -/
  | badSetting
  /-- Settings were looked up in something that holds none. -/
  | noSettings
  /-- An entry of a list of settings that is no name with a value, by its length. -/
  | noPair (place length : Nat)
  /-- Text or bytes that write no number, as they are shown. -/
  | notANumber (shown : String)
  /-- An integer that has too many digits to be shown. -/
  | tooManyDigits
  deriving Repr

namespace Failure

def message : Failure → String
  | fault f => f.message
  | badSetting => "bad setting"
  | noSettings => "no settings"
  | noPair place length =>
    s!"dictionary update sequence element #{place} has length {length}; 2 is required"
  | notANumber shown => "could not convert string to float: " ++ shown
  | tooManyDigits => Decimal.limitText ""

end Failure

end DifferentialDrive
