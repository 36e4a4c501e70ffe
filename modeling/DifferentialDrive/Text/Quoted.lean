import DifferentialDrive.Text.Hexadecimal
import DifferentialDrive.Text.Letter
import DifferentialDrive.Text.Unseen

/-!
# Quoted text

A text between quotes, single ones unless it holds a single quote and no double one. The quote and
the backslash are escaped, and so is every letter that shows nothing.
-/

namespace DifferentialDrive.Text

/-- A code point, in as few digits as are allowed. -/
def escapeCode (n : Nat) : String :=
  if n < 0x100 then "\\x" ++ (hexadecimal 2 n).toLower
  else if n < 0x10000 then "\\u" ++ (hexadecimal 4 n).toLower
  else "\\U" ++ (hexadecimal 8 n).toLower

def escape (quote c : Char) : String :=
  if c == quote || c == '\\' then "\\" ++ c.toString
  else if c == '\n' then "\\n"
  else if c == '\r' then "\\r"
  else if c == '\t' then "\\t"
  else if (' ' ≤ c && c ≤ '~') || isSeen c then c.toString
  else escapeCode c.toNat

def escapeLetter (quote : Char) : Letter → String
  | .char c => escape quote c
  | .half n => escapeCode n

def quotedLetters (s : Letters) : String :=
  let quote := if s.contains (.char '\'') && !s.contains (.char '"') then '"' else '\''
  quote.toString ++ String.join (s.map (escapeLetter quote)) ++ quote.toString

def quoted (s : String) : String := quotedLetters (.ofString s)

/-- A stretch of so many things of a text from a place on; a single one is described. -/
def stretch (thing single : String) (place count : Nat) : String :=
  if count = 1 then thing ++ " " ++ single ++ s!" in position {place}"
  else thing ++ s!"s in position {place}-{place + count - 1}"

/-- A stretch of letters that cannot be written, by the first of them. -/
def letterStretch (first : Letter) (place count : Nat) : String :=
  let code := match first with
    | .char c => c.toNat
    | .half n => n
  stretch "character" ("'" ++ escapeCode code ++ "'") place count

end DifferentialDrive.Text
