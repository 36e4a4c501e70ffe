import DifferentialDrive.Fault
import DifferentialDrive.Decimal.Shortest
import DifferentialDrive.Text.Quoted

/-!
# The wording of faults

One text per cause, over binary64 scalars: a scalar is written with its shortest digits, an opcode
in hexadecimal.
-/

namespace DifferentialDrive

open Text

def Fault.message : Fault Float → String
  | divisionByZero => "float division by zero"
  | infinityToInteger => "cannot convert float infinity to integer"
  | nanToInteger => "cannot convert float NaN to integer"
  | angleInfinite => "math domain error"
  | squareOverflow => "(34, 'Numerical result out of range')"
  | integerTooLarge => "int too large to convert to float"
  | wholeDivisionByZero => "division by zero"
  | quotientTooLarge => "integer division result too large for a float"
  | notANumber => "not a number"
  | unknownMode code => s!"unknown speed mode {code}"
  | modeRegister code => s!"mode must be one of (0, 1, 2, 3), got {code}"
  | modeArgument code => s!"mode must be 0..3: {code}"
  | accelerationArgument value => s!"acceleration must be 1..10: {value}"
  | outOfRange argument low high value => s!"{argument} out of range {low}..{high}: {value}"
  | negative argument value => s!"{argument} must be >= 0: " ++ Decimal.shortest value
  | keepaliveNotPositive value => "keepalive_s must be > 0: " ++ Decimal.shortest value
  | centreAtRest => "wheel speeds do not move the robot centre"
  | equalWheelSpeeds => "equal wheel speeds do not turn the robot"
  | endlessHold => "the hold never ends"
  | noReply opcode => "opcode 0x" ++ hexadecimal 2 opcode ++ " has no response"
  | replyLength wanted => s!"unpack requires a buffer of {wanted} bytes"
  | replyEmpty => "index out of range"
  | registerNotAByte => "bytes must be in range(0, 256)"
  | counterTooWide => "'i' format requires -2147483648 <= number <= 2147483647"
  | unknownAction name => quoted name
  | linkMissing => "no such link"
  | struck k => k.message

end DifferentialDrive
