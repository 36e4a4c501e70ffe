import DifferentialDrive.Document.PlainText

/-!
# Quoted text

Within single quotes only the quote itself is written in its own way, twice. Within double ones a
backslash begins an escape. Line breaks fold as they do in plain text.
-/

namespace DifferentialDrive.Document.QuotedText

open DifferentialDrive.Text

/-- The character that a letter stands for behind a backslash. -/
def escaped? : Char → Option Char
  | '0' => some '\x00'
  | 'a' => some '\x07'
  | 'b' => some '\x08'
  | 't' | '\t' => some '\t'
  | 'n' => some '\n'
  | 'v' => some '\x0b'
  | 'f' => some '\x0c'
  | 'r' => some '\r'
  | 'e' => some '\x1b'
  | ' ' => some ' '
  | '"' => some '"'
  | '\\' => some '\\'
  | '/' => some '/'
  | 'N' => some '\x85'
  | '_' => some '\xa0'
  | 'L' => some '\u2028'
  | 'P' => some '\u2029'
  | _ => none

/-- How many digits of a code point follow a letter behind a backslash. -/
def digits? : Char → Option Nat
  | 'x' => some 2
  | 'u' => some 4
  | 'U' => some 8
  | _ => none

def doubleQuoted : Context := .scanning "a double-quoted scalar"

def quoted : Context := .scanning "a quoted scalar"

/-- The breaks that follow, among blanks; the document may not end there. -/
def breaks (start : Mark) : Nat → Scan (List Char)
  | 0 => return []
  | n + 1 => do
    if ← Scan.isAtSeparator then Scan.complain quoted start .documentSeparator
    Scan.skipWhile fun c => c == ' ' || c == '\t'
    let text ← Scan.takeBreak
    if text.isEmpty then return []
    return text ++ (← breaks start n)

def ofDigits (digits : List Char) : Nat :=
  digits.foldl (fun n d => 16 * n + (hexValue? d).getD 0) 0

/-- The letter with the code point that so many digits write. -/
def codePoint (start : Mark) (count : Nat) : Scan Letter := do
  let digits ← (List.range count).mapM fun k => do
    let d ← Scan.peekAt k
    if (hexValue? d).isNone then
      Scan.complain doubleQuoted start
        (.expected s!"escape sequence of {count} hexadecimal numbers" d.toString)
    return d
  let n := ofDigits digits
  if 0x80000000 ≤ n then throw (.value .codePointTooLarge)
  if 0x110000 ≤ n then throw (.value .codePoint)
  Scan.skip count
  return Letter.ofCode n

/-- What stands behind a backslash. -/
def escape (start : Mark) : Scan Letters := do
  let ch ← Scan.peek
  match escaped? ch, digits? ch with
  | some c, _ =>
    Scan.skip 1
    return [.char c]
  | none, some count =>
    Scan.skip 1
    return [← codePoint start count]
  | none, none =>
    if isBreak ch then
      let _ ← Scan.takeBreak
      return .ofChars (← breaks start (← Scan.bound))
    else Scan.complain doubleQuoted start (.unknownEscape ch)

/-- The next piece without blanks, unless a blank, a break, the end or the closing quote follows. -/
def piece? (double : Bool) (start : Mark) : Scan (Option Letters) := do
  let s ← Scan.takeWhile fun c => !(isGapOrEnd c || c == '\'' || c == '"' || c == '\\')
  if !s.isEmpty then return some (.ofChars s)
  let ch ← Scan.peek
  if double && ch == '\\' then
    Scan.skip 1
    return some (← escape start)
  else if (double && ch == '\'') || (!double && (ch == '"' || ch == '\\')) then
    Scan.skip 1
    return some [.char ch]
  else if !double && ch == '\'' then
    if (← Scan.peekAt 1) != '\'' then return none
    Scan.skip 2
    return some [.char '\'']
  else return none

/-- The blanks and breaks that follow. -/
def gap (start : Mark) : Scan (List Char) := do
  let blanks ← Scan.takeWhile fun c => c == ' ' || c == '\t'
  let ch ← Scan.peek
  if ch == '\x00' then Scan.complain quoted start .streamEnd
  else if isBreak ch then
    let first ← Scan.takeBreak
    return PlainText.fold first (← breaks start (← Scan.bound))
  else return blanks

/-- Goes on behind the given letters, last first. -/
def go (double : Bool) (start : Mark) (read : Letters) : Nat → Scan Letters
  | 0 => return read.reverse
  | n + 1 => do
    match ← piece? double start with
    | some s => go double start (s.reverse ++ read) n
    | none =>
      if (← Scan.peek) == (if double then '"' else '\'') then
        Scan.skip 1
        return read.reverse
      else
        let s := Letters.ofChars (← gap start)
        go double start (s.reverse ++ read) n

/-- The quoted text that begins here. -/
def scan (double : Bool) : Scan Letters := do
  let start ← Scan.mark
  let n ← Scan.bound
  Scan.skip 1
  go double start [] n

end DifferentialDrive.Document.QuotedText
