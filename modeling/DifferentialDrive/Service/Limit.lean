import DifferentialDrive.Fault

/-!
# Limits of a run
-/

namespace DifferentialDrive.Service

/-- For how long a service is to run. -/
inductive Limit where
  | endless
  | after (seconds : Float)
  /-- Something that no time can be compared with. -/
  | unusable
  deriving Repr

/-- Whether a service that has run for a time has reached its limit. -/
def Limit.isReached (l : Limit) (time : Float) : Except (Fault Float) Bool :=
  match l with
  | endless => .ok false
  | after seconds => .ok (seconds ≤ time)
  | unusable => .error .notANumber

end DifferentialDrive.Service
