import DifferentialDrive.Document.Cursor

/-!
# Plain text

Text without quotes ends before a comment, at a colon with a gap behind it and, within braces and
brackets, at their marks. It may go on over lines that stand further in; a single line break
within it is a space, and of several the first does not count.
-/

namespace DifferentialDrive.Document.PlainText

/-- Whether a colon before a character ends plain text; `flow` says that it stands within braces
or brackets. -/
def isColonEnd (flow : Bool) (following : Char) : Bool :=
  isGapOrEnd following || (flow && ",[]\x7b\x7d".contains following)

/-- Whether plain text ends at a character that another follows. -/
def isEnd (flow : Bool) (c following : Char) : Bool :=
  isGapOrEnd c || (c == ':' && isColonEnd flow following) || (flow && ",?[]\x7b\x7d".contains c)

/-- The characters up to a gap or to the end. -/
def run (flow : Bool) : List Char → List Char
  | [] => []
  | c :: rest => if isEnd flow c (rest.headD '\x00') then [] else c :: run flow rest

/-- The characters from here on that are plain text. A colon behind them is looked behind. -/
def preview (flow : Bool) : Scan (List Char) := do
  let s := run flow (← get).rest
  if (← Scan.peekAt s.length) == ':' then
    let _ ← Scan.peekAt (s.length + 1)
  return s

/-- The line breaks that follow, among spaces; nothing if they lead to the next document. -/
def breaks : Nat → Scan (Option (List Char))
  | 0 => return some []
  | n + 1 => do
    let ch ← Scan.peek
    if ch == ' ' then
      Scan.skip 1
      breaks n
    else if isBreak ch then
      let text ← Scan.takeBreak
      if ← Scan.isAtSeparator then return none
      return (← breaks n).map (text ++ ·)
    else return some []

/-- What joins two lines: the first break is a space if it is alone and vanishes before others,
unless it is a break of its own kind. -/
def fold (first others : List Char) : List Char :=
  if first != ['\n'] then first ++ others else if others.isEmpty then [' '] else others

structure Gap where
  /-- What the gap stands for; nothing if the text ends before it. -/
  text : List Char
  /-- Whether the next character is on a line of its own. -/
  onNewLine : Bool

/-- The spaces and line breaks that follow. -/
def gap : Scan Gap := do
  let spaces ← Scan.takeWhile (· == ' ')
  if isBreak (← Scan.peek) then
    let first ← Scan.takeBreak
    if ← Scan.isAtSeparator then return ⟨[], true⟩
    match ← breaks (← Scan.bound) with
    | none => return ⟨[], true⟩
    | some others => return ⟨fold first others, true⟩
  else return ⟨spaces, false⟩

/-- Goes on behind the given characters, last first, and the gap after them, as long as lines have
at least the given indent. -/
def go (flow : Bool) (indent : Int) (read : List Char) (before : Gap) :
    Nat → Scan (List Char × Bool)
  | 0 => return (read.reverse, before.onNewLine)
  | n + 1 => do
    if (← Scan.peek) == '#' then return (read.reverse, before.onNewLine)
    let s ← preview flow
    if s.isEmpty then return (read.reverse, before.onNewLine)
    let read := s.reverse ++ (before.text.reverse ++ read)
    Scan.skip s.length
    let after ← gap
    if after.text.isEmpty then return (read.reverse, after.onNewLine)
    if (← Scan.peek) == '#' || (!flow && (← get).column < indent) then
      return (read.reverse, after.onNewLine)
    go flow indent read after n

/-- The plain text here, and whether what follows it is on a line of its own. -/
def scan (flow : Bool) (indent : Int) : Scan (List Char × Bool) := do
  go flow indent [] ⟨[], false⟩ (← Scan.bound)

/-- Whether plain text can begin at a character, whatever follows. -/
def isStart (ch : Char) : Bool :=
  !(isGapOrEnd ch || "-?:,[]\x7b\x7d#&*!|>'\"%@`".contains ch)

end DifferentialDrive.Document.PlainText
