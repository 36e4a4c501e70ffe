import DifferentialDrive.Document.PlainText

/-!
# Block text

Lines that stand further in than the indent around them, as they are or folded. What a final line
break counts for is said by a mark in the heading, which may also give the indent of the lines.
-/

namespace DifferentialDrive.Document.BlockText

/-- Which of the line breaks at the end count. -/
inductive Ending where
  | none | one | all
  deriving Repr, DecidableEq

structure Heading where
  ending : Ending := .one
  /-- How much further in the lines stand than the indent around them. -/
  increment : Option Nat := .none

def context : Context := .scanning "a block scalar"

def ending? : Scan (Option Ending) := do
  match ← Scan.peek with
  | '+' =>
    Scan.skip 1
    return some .all
  | '-' =>
    Scan.skip 1
    return some .none
  | _ => return none

def increment? (start : Mark) : Scan (Option Nat) := do
  let ch ← Scan.peek
  if ch == '0' then
    Scan.complain context start
      (.expectedKind "indentation indicator in the range 1-9" "0")
  else if ch.isDigit then
    Scan.skip 1
    return some (ch.toNat - 48)
  else return none

/-- The two marks of the heading, in either order. -/
def heading (start : Mark) : Scan Heading := do
  let h : Heading ← do
    match ← ending? with
    | some ending => pure { ending := ending, increment := ← increment? start }
    | none =>
      match ← increment? start with
      | none => pure {}
      | some n => pure { ending := (← ending?).getD .one, increment := some n }
  let ch ← Scan.peek
  if !isSpaceOrEnd ch then
    Scan.complain context start (.expected "chomping or indentation indicators" ch.toString)
  Scan.finishLine context start
  return h

/-- The empty lines that come first, and how far in the furthest space stands. -/
def leading (furthest : Nat) : Nat → Scan (List Char × Nat)
  | 0 => return ([], furthest)
  | n + 1 => do
    if (← Scan.peek) == ' ' then
      Scan.skip 1
      leading (max furthest (← get).column) n
    else
      let text ← Scan.takeBreak
      if text.isEmpty then return ([], furthest)
      let (more, furthest) ← leading furthest n
      return (text ++ more, furthest)

/-- Skips the spaces of an indent. -/
def skipIndent (indent : Nat) : Nat → Scan Unit
  | 0 => return
  | n + 1 => do
    if (← get).column < indent then
      if (← Scan.peek) == ' ' then
        Scan.skip 1
        skipIndent indent n

/-- The empty lines that follow, up to the indent of a line that is not empty. -/
def breaks (indent : Nat) : Nat → Scan (List Char)
  | 0 => return []
  | n + 1 => do
    skipIndent indent (← Scan.bound)
    let text ← Scan.takeBreak
    if text.isEmpty then return []
    return text ++ (← breaks indent n)

def isAtLine (indent : Nat) : Scan Bool := do
  if (← get).column == indent then return (← Scan.peek) != '\x00' else return false

def isBlank (c : Char) : Bool := c == ' ' || c == '\t'

/-- The lines from here on behind the given characters, last first, and the empty lines `before`;
the text of a line is joined to the next by its break, which folds between lines that begin with
no blank. -/
def lines (folded : Bool) (ending : Ending) (indent : Nat) (read before : List Char) :
    Nat → Scan (List Char)
  | 0 => return read.reverse
  | n + 1 => do
    let first ← Scan.peek
    let line ← Scan.takeWhile fun c => !isBreak c
    let read := line.reverse ++ (before.reverse ++ read)
    let joint ← Scan.takeBreak
    let after ← breaks indent (← Scan.bound)
    if ← isAtLine indent then
      let folds := folded && joint == ['\n'] && !isBlank first && !isBlank (← Scan.peek)
      let joint := if !folds then joint else if after.isEmpty then [' '] else []
      lines folded ending indent (joint ++ read) after n
    else
      return read.reverse ++ match ending with
        | .none => []
        | .one => joint
        | .all => joint ++ after

/-- The block text whose mark stands here, within a given indent. -/
def scan (folded : Bool) (around : Int) : Scan (List Char) := do
  let start ← Scan.mark
  Scan.skip 1
  let h ← heading start
  let least := max 1 (around + 1).toNat
  let n ← Scan.bound
  let (before, indent) ←
    match h.increment with
    | some increment =>
      let indent := least + increment - 1
      pure (← breaks indent n, indent)
    | none =>
      let (before, furthest) ← leading 0 n
      pure (before, max least furthest)
  if ← isAtLine indent then lines folded h.ending indent [] before n
  else return if h.ending = .all then before else []

end DifferentialDrive.Document.BlockText
