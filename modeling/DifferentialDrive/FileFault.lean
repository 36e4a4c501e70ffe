import DifferentialDrive.Text.Quoted

/-!
# Faults of files

Why a path opens no file, and how that is worded.
-/

namespace DifferentialDrive

/-- Why a path opens no file. -/
inductive FileFault where
  | missing | notADirectory | aDirectory | nameTooLong
  /-- A device that is not at hand. -/
  | noDevice
  /-- A NUL, which no path holds. -/
  | nul
  /-- Letters that have no bytes, from a place on. -/
  | unwritable (first : Text.Letter) (place count : Nat)
  deriving Repr, DecidableEq

namespace FileFault

def number : FileFault → Nat
  | missing | nul | unwritable .. => 2
  | noDevice => 6
  | notADirectory => 20
  | aDirectory => 21
  | nameTooLong => 36

def text : FileFault → String
  | missing => "No such file or directory"
  | noDevice => "No such device or address"
  | notADirectory => "Not a directory"
  | aDirectory => "Is a directory"
  | nameTooLong => "File name too long"
  | nul => "embedded null byte"
  | unwritable first place count =>
    "'utf-8' codec can't encode " ++ Text.letterStretch first place count ++
      ": surrogates not allowed"

/-- Whether a fault is one of the path, for which no file was looked. -/
def isOfPath : FileFault → Bool
  | nul | unwritable .. => true
  | _ => false

def message (path : Text.Letters) (f : FileFault) : String :=
  if f.isOfPath then f.text
  else s!"[Errno {f.number}] " ++ f.text ++ ": " ++ Text.quotedLetters path

/-- The kind of a fault. -/
def cause : FileFault → String
  | missing => "missing file"
  | notADirectory => "no directory"
  | aDirectory => "directory"
  | nameTooLong | noDevice => "system"
  | nul => "value"
  | unwritable .. => "encoding"

end FileFault

end DifferentialDrive
