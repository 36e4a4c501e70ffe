import DifferentialDrive.Wire.Reply

/-!
# Health of the driver

What the error flags say, in words.
-/

namespace DifferentialDrive.Wire.ErrorFlags

/-- The flags that are set, in words; voltages come first. -/
def problems (f : ErrorFlags) : List String :=
  [(f.voltsOver30, "Voltage is over 30 Volts!"),
    (f.voltsUnder16, "Voltage is under 16 Volts!"),
    (f.motor1Trip, "Motor 1 tripped!"),
    (f.motor2Trip, "Motor 2 tripped!"),
    (f.motor1Short, "Motor 1 is short-circuited!"),
    (f.motor2Short, "Motor 2 is short-circuited!")].filterMap fun (on, text) =>
      if on then some text else none

/-- Whether the driver is healthy, and what is wrong. -/
def health (f : ErrorFlags) : Bool × String := (f.healthy, " ".intercalate f.problems)

end DifferentialDrive.Wire.ErrorFlags
