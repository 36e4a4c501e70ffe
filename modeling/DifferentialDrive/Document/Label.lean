import DifferentialDrive.Document.Cursor

/-!
# Labels

What stands before a node: the name of an anchor, or of an alias in the place of a node, and a
tag. A tag is written out between angle brackets or as the rest behind a handle.
-/

namespace DifferentialDrive.Document.Label

open DifferentialDrive.Text

def isNameChar (c : Char) : Bool := c.isAlphanum || c == '-' || c == '_'

/-- A name of letters, digits, dashes and underscores, which ends at a given set of characters. -/
def name (context : Context) (start : Mark) (isEnd : Char → Bool) : Scan String := do
  let s ← Scan.takeWhile isNameChar
  let ch ← Scan.peek
  if s.isEmpty || !isEnd ch then
    Scan.complain context start (.expected "alphabetic or numeric character" ch.toString)
  return String.ofList s

/-- The name of an anchor or an alias, behind the mark that stands here. -/
def anchor (kind : String) : Scan String := do
  let start ← Scan.mark
  Scan.skip 1
  name (.scanning ("an " ++ kind)) start fun c => isGapOrEnd c || "?:,]\x7d%@`".contains c

/-- A handle: an exclamation mark, or a name between two of them. A single mark is a handle of its
own before a space. -/
def handle (kind : String) (start : Mark) : Scan String := do
  let fail (ch : Char) : Scan String :=
    Scan.complain (.scanning ("a " ++ kind)) start (.expected "'!'" ch.toString)
  let ch ← Scan.peek
  if ch != '!' then fail ch
  else
    let second ← Scan.peekAt 1
    if second == ' ' then
      Scan.skip 1
      return "!"
    else
      let s ← Scan.spanAt 1 isNameChar
      Scan.skip (1 + s.length)
      let ch ← Scan.peek
      if ch != '!' then fail ch
      else
        Scan.skip 1
        return "!" ++ String.ofList s ++ "!"

def isUriChar (c : Char) : Bool := c.isAlphanum || "-;/?:@&=+$,_.!~*'()[]".contains c

/-- The byte of an escape whose percent sign has gone by. -/
def escape (context : Context) (start : Mark) : Scan Nat := do
  let digit (k : Nat) : Scan Nat := do
    let ch ← Scan.peekAt k
    match hexValue? ch with
    | some n => return n
    | none =>
      Scan.complain context start
        (.expected "URI escape sequence of 2 hexadecimal numbers" ch.toString)
  let high ← digit 0
  let low ← digit 1
  Scan.skip 2
  return 16 * high + low

/-- The bytes of the escapes that follow. -/
def escapes (context : Context) (start : Mark) : Nat → Scan (List Nat)
  | 0 => return []
  | n + 1 => do
    if (← Scan.peek) != '%' then return []
    Scan.skip 1
    let byte ← escape context start
    return byte :: (← escapes context start n)

def uriPieces (context : Context) (start : Mark) : Nat → Scan (List Char)
  | 0 => return []
  | n + 1 => do
    let s ← Scan.takeWhile isUriChar
    let c ← get
    if (← Scan.peek) != '%' then return s
    let bytes ← escapes context start (c.size + 1)
    match Utf8.decode bytes with
    | .ok text => return s ++ text ++ (← uriPieces context start n)
    | .error flaw =>
      set c
      Scan.complain context start (.notUtf8 (bytes[flaw.place]?.getD 0) flaw)

/-- The characters of a tag that name it, with their escapes undone. -/
def uri (kind : String) (start : Mark) : Scan String := do
  let index := (← get).index
  let s ← uriPieces (.scanning ("a " ++ kind)) start (← Scan.bound)
  if (← get).index = index then
    let ch ← Scan.peek
    Scan.complain (.parsing ("a " ++ kind)) start (.expected "URI" ch.toString)
  return String.ofList s

/-- Whether a tag has a handle with a second mark in it. -/
def hasHandle : Scan Bool := do
  let s ← Scan.spanAt 1 fun ch => !isSpaceOrEnd ch && ch != '!'
  return (← Scan.peekAt (1 + s.length)) == '!'

/-- A tag between angle brackets. -/
def written (start : Mark) : Scan (Option String × String) := do
  Scan.skip 2
  let text ← uri "tag" start
  let ch ← Scan.peek
  if ch != '>' then
    Scan.complain (.parsing "a tag") start (.expected "'>'" ch.toString)
  Scan.skip 1
  return (none, text)

/-- A tag behind a handle, or behind a single mark that is one. -/
def handled (start : Mark) : Scan (Option String × String) := do
  if ← hasHandle then
    let h ← handle "tag" start
    return (some h, ← uri "tag" start)
  else
    Scan.skip 1
    return (some "!", ← uri "tag" start)

/-- The handle of a tag, if it has one, and the rest of it. -/
def tag : Scan (Option String × String) := do
  let start ← Scan.mark
  let second ← Scan.peekAt 1
  let found : Option String × String ←
    if second == '<' then written start
    else if isGapOrEnd second then
      Scan.skip 1
      pure (none, "!")
    else handled start
  let ch ← Scan.peek
  if !isSpaceOrEnd ch then
    Scan.complain (.scanning "a tag") start (.expected "' '" ch.toString)
  return found

end DifferentialDrive.Document.Label
