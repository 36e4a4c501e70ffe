import DifferentialDrive.Document.Fault

/-!
# Cursors

A place in the text of a document: what is left of it and how much of it has gone by. A document
holds no NUL, which therefore stands for the end of the text. A text may also be at fault from
some place on; then whoever looks further than there meets the fault, and moving on takes a look
at the character behind.
-/

namespace DifferentialDrive.Document

/-- The characters that end a line. -/
def isBreak (c : Char) : Bool := c == '\n' || c == '\x85' || c == '\u2028' || c == '\u2029'

/-- Whether a line ends at a character. -/
def isLineEnd (c : Char) : Bool := c == '\x00' || isBreak c

/-- Whether a name ends at a character. -/
def isSpaceOrEnd (c : Char) : Bool := c == ' ' || isLineEnd c

/-- Whether a mark of the notation that stands alone ends at a character. -/
def isGapOrEnd (c : Char) : Bool := c == '\t' || isSpaceOrEnd c

structure Cursor where
  rest : List Char
  /-- What is wrong behind the rest, if the text does not end there. -/
  beyond : Option Fault := none
  /-- How long the whole text is. -/
  size : Nat := rest.length
  index : Nat := 0
  line : Nat := 0
  column : Nat := 0
  deriving Repr

namespace Cursor

def mark (c : Cursor) : Mark := ⟨c.line, c.column⟩

/-- The cursor behind the next character. A byte order mark takes up no column. -/
def next (c : Cursor) : Cursor :=
  match c.rest with
  | [] => c
  | ch :: rest =>
    if isBreak ch then
      { c with rest := rest, index := c.index + 1, line := c.line + 1, column := 0 }
    else
      let column := if ch == '\ufeff' then c.column else c.column + 1
      { c with rest := rest, index := c.index + 1, column := column }

def advance (c : Cursor) : Nat → Cursor
  | 0 => c
  | n + 1 => c.next.advance n

end Cursor

/-- A piece of reading that moves the cursor. -/
abbrev Scan := StateT Cursor (Except Fault)

namespace Scan

/-- A complaint at the cursor about what began at `start`. -/
def complain {β : Type} (context : Context) (start : Mark) (problem : Problem) : Scan β := do
  throw (.complaint ⟨.tokens, some (context, some start), problem, (← get).mark⟩)

def mark : Scan Mark := return (← get).mark

/-- A bound for the characters that are left. -/
def bound : Scan Nat := return (← get).size + 1

/-- The character so many places on. -/
def peekAt (k : Nat) : Scan Char := do
  let c ← get
  match c.rest[k]?, c.beyond with
  | some ch, _ => return ch
  | none, none => return '\x00'
  | none, some f => throw f

def peek : Scan Char := peekAt 0

/-- So many characters from here on, or as many as there are. -/
def preview (n : Nat) : Scan (List Char) := do
  if 0 < n then
    let _ ← peekAt (n - 1)
  return (← get).rest.take n

/-- The characters from a place on up to the first that fails a test. -/
def spanAt (k : Nat) (p : Char → Bool) : Scan (List Char) := do
  let s := ((← get).rest.drop k).takeWhile p
  let _ ← peekAt (k + s.length)
  return s

def skip (n : Nat) : Scan Unit := do
  let _ ← peekAt n
  modify fun c => c.advance n

/-- Takes the characters up to the first that fails a test. -/
def takeWhile (p : Char → Bool) : Scan (List Char) := do
  let s ← spanAt 0 p
  skip s.length
  return s

def skipWhile (p : Char → Bool) : Scan Unit := do
  let _ ← takeWhile p

def skipSpaces : Scan Unit := skipWhile (· == ' ')

/-- Goes behind a comment, if one begins here. -/
def skipComment : Scan Unit := do
  if (← peek) == '#' then skipWhile fun ch => !isBreak ch

/-- Takes the line break that stands here, if one does, as the text it stands for. -/
def takeBreak : Scan (List Char) := do
  let ch ← peek
  if isBreak ch then
    skip 1
    return if ch == '\u2028' || ch == '\u2029' then [ch] else ['\n']
  else return []

/-- Whether three characters that separate documents stand here. -/
def isAtSeparator : Scan Bool := do
  let s ← preview 3
  if s == ['-', '-', '-'] || s == ['.', '.', '.'] then return isGapOrEnd (← peekAt 3)
  else return false

/-- The rest of a line, which may only be blank or a comment. -/
def finishLine (context : Context) (start : Mark) : Scan Unit := do
  skipSpaces
  skipComment
  let ch ← peek
  if !isLineEnd ch then
    complain context start (.expected "a comment or a line break" ch.toString)
  let _ ← takeBreak

end Scan

end DifferentialDrive.Document
