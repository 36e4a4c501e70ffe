import DifferentialDrive.Document.Fault
import DifferentialDrive.Failure
import DifferentialDrive.FileFault

/-!
# Problems of a launch

Why a service was not launched or did not go on: a failure of its own, or something wrong with the
arguments or the file they name.
-/

namespace DifferentialDrive

open Text

inductive Launch.Problem where
  | failure (f : Failure)
  | file (name : Letters) (f : FileFault)
  /-- What is wrong in a named file. -/
  | document (name : String) (f : Document.Fault)
  | unknownLevel (name : Letters)
  /-- The arguments ended the program, with an exit code. -/
  | exit (code : Nat)
  deriving Repr

namespace Launch.Problem

def message : Problem → String
  | failure f => f.message
  | file name f => f.message name
  | document name f => f.message name
  | unknownLevel name => "Unknown level: " ++ quotedLetters name
  | exit code => s!"{code}"

end Launch.Problem

end DifferentialDrive
