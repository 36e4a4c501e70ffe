import DifferentialDrive.Decimal.Integer
import DifferentialDrive.Text.Quoted

/-!
# Reading a pattern

A pattern is read in pieces: characters, and characters with a backslash before them. The piece
that comes next is known ahead, so that a backslash at the end is met as soon as what stands
before it has been taken.
-/

namespace DifferentialDrive.Text.Pattern

/-- What is wrong with a pattern. -/
inductive Flaw where
  /-- Something wrong at a place. -/
  | at (what : String) (place : Nat)
  /-- Something wrong that has no place of its own. -/
  | whole (what : String)
  /-- Two ways to tell letters apart at once. -/
  | alphabets
  /-- More repetitions than are counted. -/
  | repetitions
  /-- No character has such a number. -/
  | number (fault : Decimal.IntegerFault)
  deriving Repr, DecidableEq

/-- The wording of a flaw in a pattern; in one of several lines a place is one of a line, too. -/
def Flaw.message (pattern : List Char) : Flaw → String
  | .at what place =>
    let before := pattern.take place
    let line := before.count '\n' + 1
    let column := (before.reverse.takeWhile (· != '\n')).length + 1
    what ++ s!" at position {place}" ++
      if pattern.contains '\n' then s!" (line {line}, column {column})" else ""
  | whole what => what
  | alphabets => "ASCII and UNICODE flags are incompatible"
  | repetitions => "the repetition number is too large"
  | number fault => fault.message 10 ""

/-- The least and the most characters that something matches. -/
structure Width where
  least : Nat
  most : Nat
  deriving Repr, DecidableEq

namespace Width

/-- Wider than any text. -/
def unbounded : Nat := 0x10000000000000000

def none : Width := ⟨0, 0⟩
def one : Width := ⟨1, 1⟩

def capped (w : Width) : Width := ⟨min w.least unbounded, min w.most unbounded⟩

def either (v w : Width) : Width := ⟨min v.least w.least, max v.most w.most⟩

end Width

/-- How far a pattern has been read, and its groups so far. -/
structure Reader where
  rest : List Char
  /-- How many characters have been taken into pieces. -/
  taken : Nat := 0
  next : Option (List Char) := .none
  /-- The widths of the groups, by number; one that is open has none yet. -/
  groups : Array (Option Width) := #[.none]
  names : List (String × Nat) := []
  /-- How many groups there were where a look behind began. -/
  behind : Option Nat := .none
  /-- Numbers of groups that may yet come, and where they are asked for. -/
  wanted : List (Nat × Nat) := []
  /-- The letters of the flags for the whole pattern. -/
  flags : List Char := []
  /-- The widths of what is looked for behind a place. -/
  lookBehinds : List Width := []

abbrev Reads := StateT Reader (Except Flaw)

/-- The place of the next piece. -/
def place : Reads Nat := do
  let r ← get
  return r.taken - (r.next.getD []).length

/-- A flaw so many characters before the next piece. -/
def flaw {β : Type} (what : String) (back : Nat) : Reads β := do
  throw (.at what ((← place) - back))

def flawAt {β : Type} (what : String) (place : Nat) : Reads β := throw (.at what place)

/-- Goes on to the next piece. -/
def advance : Reads Unit := do
  let r ← get
  match r.rest with
  | [] => set { r with next := .none }
  | ['\\'] => throw (.at "bad escape (end of pattern)" r.taken)
  | '\\' :: c :: rest => set { r with rest := rest, taken := r.taken + 2, next := some ['\\', c] }
  | c :: rest => set { r with rest := rest, taken := r.taken + 1, next := some [c] }

def peek : Reads (Option (List Char)) := return (← get).next

def isNext (c : Char) : Reads Bool := return (← peek) == some [c]

def take : Reads (Option (List Char)) := do
  let piece ← peek
  advance
  return piece

def takeIf (c : Char) : Reads Bool := do
  if ← isNext c then
    advance
    return true
  else return false

/-- At most so many characters of a kind. -/
def takeSome (p : Char → Bool) : Nat → Reads (List Char)
  | 0 => return []
  | n + 1 => do
    match ← peek with
    | some [c] =>
      if p c then
        advance
        return c :: (← takeSome p n)
      else return []
    | _ => return []

/-- Reads on until a character; `what` stands before it, and must not be empty. -/
def takeUntil (mark : Char) (what : String) (read : List Char) : Nat → Reads (List Char)
  | 0 => return read
  | n + 1 => do
    match ← take with
    | .none =>
      if read.isEmpty then flaw ("missing " ++ what) 0
      else flaw ("missing " ++ mark.toString ++ ", unterminated name") read.length
    | some piece =>
      if piece == [mark] then
        if read.isEmpty then flaw ("missing " ++ what) 1
        return read
      else takeUntil mark what (read ++ piece) n

/-- A bound for the pieces that are left. -/
def bound : Reads Nat := return (← get).rest.length + 2

/-! ## Escapes -/

def isOctal (c : Char) : Bool := '0' ≤ c && c ≤ '7'

def octal (digits : List Char) : Nat := Decimal.ofDigitsIn 8 digits

def hexNumber (digits : List Char) : Nat := Decimal.ofDigitsIn 16 digits

def badEscape {β : Type} (escape : List Char) : Reads β :=
  flaw ("bad escape " ++ String.ofList escape) escape.length

/-- The code point that so many digits write behind a backslash and a letter. -/
def coded (escape : List Char) (count : Nat) : Reads Nat := do
  let digits ← takeSome (fun c => (hexValue? c).isSome) count
  let escape := escape ++ digits
  if digits.length < count then
    flaw ("incomplete escape " ++ String.ofList escape) escape.length
  else if 0x110000 ≤ hexNumber digits then badEscape escape
  else return hexNumber digits

/-- The code point of a character that is named between braces, as far as names can be told. -/
def named : Reads Nat := do
  if !(← takeIf '\x7b') then flaw "missing \x7b" 0
  let name ← takeUntil '\x7d' "character name" [] (← bound)
  let isName := name.head?.any Char.isAlpha &&
    name.all fun c => c.isAlphanum || c == ' ' || c == '-'
  if isName then return 0
  else flaw ("undefined character name " ++ quoted (String.ofList name)) (name.length + 4)

/-- The code point of an octal escape of three digits. -/
def octalEscape (escape : List Char) : Reads Nat := do
  let n := octal escape.tail
  if n ≤ 0o377 then return n
  else
    flaw ("octal escape value " ++ String.ofList escape ++ " outside of range 0-0o377")
      escape.length

/-- The code point of an escape that means the same everywhere. -/
def common? (escape : List Char) : Reads (Option Nat) := do
  match escape with
  | [_, 'x'] => return some (← coded escape 2)
  | [_, 'u'] => return some (← coded escape 4)
  | [_, 'U'] => return some (← coded escape 8)
  | [_, 'N'] => return some (← named)
  | [_, 'a'] => return some 7
  | [_, 'f'] => return some 12
  | [_, 'n'] => return some 10
  | [_, 'r'] => return some 13
  | [_, 't'] => return some 9
  | [_, 'v'] => return some 11
  | [_, c] => if c.isAlphanum then return .none else return some c.toNat
  | _ => return .none

/-- The letters of escapes for kinds of characters. -/
def kindLetters : List Char := "dDsSwW".toList

/-- The code point of an escape in a set, if it is no kind of characters. -/
def setEscape (escape : List Char) : Reads (Option Nat) := do
  match ← common? escape, escape with
  | some n, _ => return some n
  | .none, [_, 'b'] => return some 8
  | .none, [_, c] =>
    if kindLetters.contains c then return .none
    else if isOctal c then return some (← octalEscape (escape ++ (← takeSome isOctal 2)))
    else badEscape escape
  | .none, _ => badEscape escape

/-! ## Groups -/

/-- The width of a group that is closed. -/
def closedWidth? (group : Nat) : Reads (Option Width) := return ((← get).groups[group]?).join

/-- Within a look behind only groups from before it can be meant. -/
def checkBehind (group : Nat) : Reads Unit := do
  if let some first := (← get).behind then
    if (← closedWidth? group).isNone then flaw "cannot refer to an open group" 0
    if first ≤ group then
      flaw "cannot refer to group defined in the same lookbehind subpattern" 0

/-- A group that is meant by its number. -/
def backReference (group back : Nat) : Reads Width := do
  match ← closedWidth? group with
  | .none => flaw "cannot refer to an open group" back
  | some w =>
    checkBehind group
    return w

def openGroup (name : Option (List Char)) : Reads Nat := do
  let r ← get
  let group := r.groups.size
  if let some name := name then
    let text := String.ofList name
    if let some former := r.names.lookup text then
      flaw (s!"redefinition of group name {quoted text} as group {group}; was group {former}")
        (name.length + 1)
    set { r with groups := r.groups.push .none, names := (text, group) :: r.names }
  else set { r with groups := r.groups.push .none }
  return group

def closeGroup (group : Nat) (w : Width) : Reads Unit :=
  modify fun r => { r with groups := r.groups.setIfInBounds group (some w) }

/-- Whether letters, digits and underscores name a group. -/
def isName (s : List Char) : Bool :=
  s.all (fun c => c.isAlphanum || c == '_' || '\x80' ≤ c) && !s.head?.any Char.isDigit

def badName {β : Type} (name : List Char) : Reads β :=
  flaw ("bad character in group name " ++ quoted (String.ofList name)) (name.length + 1)

/-- The group of a name that is there. -/
def groupNamed (name : List Char) : Reads Nat := do
  match (← get).names.lookup (String.ofList name) with
  | some group => return group
  | .none => flaw ("unknown group name " ++ quoted (String.ofList name)) (name.length + 1)

end DifferentialDrive.Text.Pattern
