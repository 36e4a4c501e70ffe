import DifferentialDrive.Script.Pattern.Reader

/-!
# Checking a pattern

Whether a text is a pattern to search with, and where it fails to be one: alternatives of items,
which may be repeated, and groups within parentheses. `Pattern.check` tells what is wrong.
-/

namespace DifferentialDrive.Text.Pattern

inductive Kind where
  /-- A place between characters. -/
  | boundary
  | repeated
  | other
  deriving Repr, DecidableEq

structure Item where
  kind : Kind
  width : Width

def oneCharacter : Item := ⟨.other, .one⟩

/-! ## Items without others in them -/

/-- An escape outside sets: a place, a character, a kind of characters or a group. -/
def escape (piece : List Char) : Reads Item := do
  match ← common? piece, piece with
  | some _, _ => return oneCharacter
  | .none, [_, c] =>
    if "AbBZ".contains c then return ⟨.boundary, .none⟩
    else if kindLetters.contains c then return oneCharacter
    else if c == '0' then
      let _ ← takeSome isOctal 2
      return oneCharacter
    else if c.isDigit then reference piece
    else badEscape piece
  | .none, _ => badEscape piece
where
  /-- The number of a group, unless three octal digits write a character. -/
  reference (piece : List Char) : Reads Item := do
    let piece := piece ++ (← takeSome Char.isDigit 1)
    if piece.length == 3 && piece.tail.all isOctal then
      let third ← takeSome isOctal 1
      if !third.isEmpty then
        let _ ← octalEscape (piece ++ third)
        return oneCharacter
    let group := Decimal.ofDigitsIn 10 piece.tail
    if (← get).groups.size ≤ group then
      flaw s!"invalid group reference {group}" (piece.length - 1)
    return ⟨.other, ← backReference group piece.length⟩

/-- The code point of a piece of a set, if it is no kind of characters. -/
def member (piece : List Char) : Reads (Option Nat) :=
  match piece with
  | [c] => return some c.toNat
  | _ => setEscape piece

/-- A range up to the piece that comes next, behind its dash; whether the set ends instead. -/
def rangeEnd (start : Nat) (first : List Char) (low : Option Nat) : Reads Bool := do
  match ← take with
  | .none => flawAt "unterminated character set" start
  | some [']'] => return true
  | some last =>
    let high ← member last
    let isRange := match low, high with
      | some low, some high => low ≤ high
      | _, _ => false
    if !isRange then
      flaw ("bad character range " ++ String.ofList first ++ "-" ++ String.ofList last)
        (first.length + 1 + last.length)
    return false

/-- The members of a set, up to its end. -/
def members (start : Nat) (isFirst : Bool) : Nat → Reads Unit
  | 0 => return
  | n + 1 => do
    match ← take with
    | .none => flawAt "unterminated character set" start
    | some piece =>
      if piece == [']'] && !isFirst then return
      let low ← member piece
      if ← takeIf '-' then
        if ← rangeEnd start piece low then return
      members start false n

/-- A set, behind its bracket. -/
def characterSet : Reads Item := do
  let start := (← place) - 1
  let _ ← takeIf '^'
  members start true (← bound)
  return oneCharacter

/-! ## Repetition -/

/-- The bound for how often something is repeated, which also stands for no bound. -/
def mostRepeats : Nat := 0xffffffff

def repeatNumber (digits : List Char) (default : Nat) : Reads Nat := do
  if digits.isEmpty then return default
  match Decimal.readInteger 10 digits with
  | .error fault => throw (.number fault)
  | .ok n => if mostRepeats ≤ n.toNat then throw .repetitions else return n.toNat

/-- The numbers between braces, if there are such numbers. -/
def braces? : Reads (Option (Nat × Nat)) := do
  let start ← get
  let here ← place
  let count ← bound
  let low ← takeSome Char.isDigit count
  let high ← if ← takeIf ',' then takeSome Char.isDigit count else pure low
  if here == (← place) && (← isNext '\x7d') || !(← takeIf '\x7d') then
    set start
    return .none
  let least ← repeatNumber low 0
  let most ← repeatNumber high mostRepeats
  if !high.isEmpty && most < least then flawAt "min repeat greater than max repeat" here
  return some (least, most)

/-- How often what stands before a character is repeated, if that says so. -/
def repetition? (c : Char) : Reads (Option (Nat × Nat)) :=
  match c with
  | '?' => return some (0, 1)
  | '*' => return some (0, mostRepeats)
  | '+' => return some (1, mostRepeats)
  | _ => braces?

def Width.times (w : Width) (least most : Nat) : Width :=
  ⟨w.least * least, if most = mostRepeats && w.most ≠ 0 then unbounded else w.most * most⟩

/-- Repeats the last of the items, which are given last first. -/
def repeatLast (here : Nat) (items : List Item) (least most : Nat) : Reads (List Item) := do
  match items with
  | [] => flawAt "nothing to repeat" here
  | item :: others =>
    match item.kind with
    | .boundary => flawAt "nothing to repeat" here
    | .repeated => flawAt "multiple repeat" here
    | .other =>
      if !(← takeIf '?') then
        let _ ← takeIf '+'
      return ⟨.repeated, item.width.times least most⟩ :: others

/-! ## Flags -/

def flagLetters : List Char := "iLmsxatu".toList

/-- Flags that tell letters apart, of which there is at most one. -/
def alphabetFlags : List Char := "Lau".toList

def unknownFlag {β : Type} (piece : List Char) (missing : String) : Reads β :=
  let isLetter := piece.all fun c => c.isAlpha || '\x80' ≤ c
  flaw (if isLetter then "unknown flag" else missing) piece.length

/-- The next flag, or the character that ends them. -/
def nextFlag (ends missing : String) : Reads Char := do
  match ← take with
  | .none => flaw missing 0
  | some [c] =>
    if ends.contains c || flagLetters.contains c then return c else unknownFlag [c] missing
  | some piece => unknownFlag piece missing

/-- Flags that are turned on, from one on, and what ends them. -/
def flagsOn (flags : List Char) (c : Char) : Nat → Reads (List Char × Char)
  | 0 => return (flags, c)
  | n + 1 => do
    if c == 'L' then flaw "bad inline flags: cannot use 'L' flag with a str pattern" 0
    let flags := c :: flags
    if alphabetFlags.contains c && flags.any fun f => alphabetFlags.contains f && f != c then
      flaw "bad inline flags: flags 'a', 'u' and 'L' are incompatible" 0
    let next ← nextFlag ")-:" "missing -, : or )"
    if flagLetters.contains next then flagsOn flags next n else return (flags, next)

def flagsOff (flags : List Char) (c : Char) : Nat → Reads (List Char)
  | 0 => return flags
  | n + 1 => do
    if alphabetFlags.contains c then
      flaw "bad inline flags: cannot turn off flags 'a', 'u' and 'L'" 0
    let next ← nextFlag ":" "missing :"
    if next == ':' then return c :: flags else flagsOff (c :: flags) next n

/-- What flags stand for. -/
inductive Flags where
  /-- For the whole pattern. -/
  | everywhere (on : List Char)
  | within (on off : List Char)

/-- Flags from the first, or from the dash before those that are turned off. -/
def readFlags (c : Char) : Reads Flags := do
  let count ← bound
  let (on, last) ← if c == '-' then pure ([], '-') else flagsOn [] c count
  if last == ')' then return .everywhere on
  if on.contains 't' then flaw "bad inline flags: cannot turn on global flag" 1
  let off ←
    if last == '-' then
      let first ← nextFlag "" "missing flag"
      flagsOff [] first count
    else pure []
  if off.contains 't' then flaw "bad inline flags: cannot turn off global flag" 1
  if on.any off.contains then flaw "bad inline flags: flag turned on and off" 1
  return .within on off

/-! ## Groups -/

/-- What stands behind the opening of a parenthesis. -/
inductive Opening where
  | group (name : Option (List Char))
  /-- A group that is not counted; with other flags within it. -/
  | plain (on off : List Char)
  | comment
  /-- The group of a name, once more. -/
  | again (w : Width)
  | flags (on : List Char)
  | look (behind : Bool)
  | condition

/-- What stands between angle brackets or behind an equals sign. -/
def namedOpening : Reads Opening := do
  let count ← bound
  if ← takeIf '<' then
    let name ← takeUntil '>' "group name" [] count
    if !isName name then badName name
    return .group (some name)
  else if ← takeIf '=' then
    let name ← takeUntil ')' "group name" [] count
    if !isName name then badName name
    return .again (← backReference (← groupNamed name) (name.length + 1))
  else
    match ← take with
    | .none => flaw "unexpected end of pattern" 0
    | some piece =>
      flaw ("unknown extension ?P" ++ String.ofList piece) (piece.length + 2)

/-- The opening behind a parenthesis and a question mark. -/
def extension : Reads Opening := do
  match ← take with
  | .none => flaw "unexpected end of pattern" 0
  | some ['P'] => namedOpening
  | some [':'] | some ['>'] => return .plain [] []
  | some ['#'] => return .comment
  | some ['='] | some ['!'] => return .look false
  | some ['<'] =>
    match ← take with
    | .none => flaw "unexpected end of pattern" 0
    | some ['='] | some ['!'] => return .look true
    | some piece => flaw ("unknown extension ?<" ++ String.ofList piece) (piece.length + 2)
  | some ['('] => return .condition
  | some [c] =>
    if flagLetters.contains c || c == '-' then
      match ← readFlags c with
      | .everywhere on => return .flags on
      | .within on off => return .plain on off
    else flaw ("unknown extension ?" ++ c.toString) 2
  | some piece => flaw ("unknown extension ?" ++ String.ofList piece) (piece.length + 1)

def skipComment (start : Nat) : Nat → Reads Unit
  | 0 => return
  | n + 1 => do
    match ← take with
    | .none => flawAt "missing ), unterminated comment" start
    | some [')'] => return
    | some _ => skipComment start n

def close (start : Nat) : Reads Unit := do
  if !(← takeIf ')') then flawAt "missing ), unterminated subpattern" start

/-- The group that a condition asks for, which need not be there yet if it is given by number. -/
def conditionGroup : Reads Nat := do
  let name ← takeUntil ')' "group name" [] (← bound)
  let back := name.length + 1
  let group ←
    if isName name then groupNamed name
    else
      match (Decimal.readInteger 10 name).toOption.filter (0 ≤ ·) with
      | .none => badName name
      | some n =>
        if n = 0 then flaw "bad group number" back
        if 0x3fffffff ≤ n then flaw s!"invalid group reference {n}" back
        let first := (← place) - back
        modify fun r =>
          if (r.wanted.lookup n.toNat).isSome then r
          else { r with wanted := r.wanted ++ [(n.toNat, first)] }
        pure n.toNat
  checkBehind group
  return group

/-- Skips what does not count where a pattern is spread out with blanks and comments. -/
def skipSpread (piece : List Char) : Reads Bool := do
  match piece with
  | [c] =>
    if " \t\n\r\x0b\x0c".contains c then return true
    else if c == '#' then
      skipLine (← bound)
      return true
    else return false
  | _ => return false
where
  skipLine : Nat → Reads Unit
    | 0 => return
    | n + 1 => do
      match ← take with
      | .none | some ['\n'] => return
      | some _ => skipLine n

def total (items : List Item) : Width :=
  let w := items.foldl (fun w i => ⟨w.least + i.width.least, w.most + i.width.most⟩) Width.none
  w.capped

mutual

/-- Alternatives, up to the end of the group around them. `spread` says that blanks do not count,
and `isOutermost` that there is no such group. -/
def alternatives (spread isOutermost isFirst : Bool) : Nat → Reads Width
  | 0 => return .none
  | n + 1 => do
    let w := total (← sequence spread (isOutermost && isFirst) [] n)
    if ← takeIf '|' then
      let flags := (← get).flags
      let spread := if isOutermost then flags.contains 'x' else spread
      return w.either (← alternatives spread isOutermost false n)
    else return w

/-- Items in a row behind the given ones, last first. `mayFlag` says that flags for the whole
pattern may begin it. -/
def sequence (spread mayFlag : Bool) (items : List Item) : Nat → Reads (List Item)
  | 0 => return items
  | n + 1 => do
    match ← peek with
    | .none | some ['|'] | some [')'] => return items
    | some piece =>
      advance
      if spread then
        if ← skipSpread piece then
          return ← sequence spread mayFlag items n
      match piece with
      | ['['] => sequence spread mayFlag ((← characterSet) :: items) n
      | ['('] =>
        let (item, spread) ← group spread (mayFlag && items.isEmpty) n
        sequence spread mayFlag (item.toList ++ items) n
      | ['^'] | ['$'] => sequence spread mayFlag (⟨.boundary, .none⟩ :: items) n
      | [c] =>
        let here := (← place) - 1
        let repeats ← if "*+?\x7b".contains c then repetition? c else pure .none
        match repeats with
        | some (least, most) =>
          sequence spread mayFlag (← repeatLast here items least most) n
        | .none => sequence spread mayFlag (oneCharacter :: items) n
      | _ => sequence spread mayFlag ((← escape piece) :: items) n

/-- A group behind its parenthesis, if it is an item, and whether blanks count less behind it. -/
def group (spread mayFlag : Bool) : Nat → Reads (Option Item × Bool)
  | 0 => return (.none, spread)
  | n + 1 => do
    let start := (← place) - 1
    let opening ← if ← takeIf '?' then extension else pure (.group .none)
    match opening with
    | .comment =>
      skipComment start (← bound)
      return (.none, spread)
    | .again w => return (some ⟨.other, w⟩, spread)
    | .flags on =>
      modify fun r => { r with flags := on ++ r.flags }
      if !mayFlag then flawAt "global flags not at the start of the expression" start
      return (.none, (← get).flags.contains 'x')
    | .look behind =>
      let before := (← get).behind
      if behind then modify fun r => { r with behind := before.or (some r.groups.size) }
      let w ← alternatives spread false true n
      if behind then
        modify fun r => { r with behind := before, lookBehinds := r.lookBehinds ++ [w] }
      close start
      return (some ⟨.other, .none⟩, spread)
    | .condition =>
      let _ ← conditionGroup
      let met := total (← sequence spread false [] n)
      let other ← if ← takeIf '|' then some <$> sequence spread false [] n else pure .none
      if other.isSome && (← isNext '|') then
        flaw "conditional backref with more than two branches" 0
      close start
      return (some ⟨.other, met.either ((other.map total).getD .none)⟩, spread)
    | .plain on off =>
      let inner := (spread || on.contains 'x') && !off.contains 'x'
      let w ← alternatives inner false true n
      close start
      return (some ⟨.other, w⟩, spread)
    | .group name =>
      let number ← openGroup name
      let w ← alternatives spread false true n
      close start
      closeGroup number w
      return (some ⟨.other, w⟩, spread)

end

/-- What is looked for behind a place has to have one width. -/
def checkLookBehind (w : Width) : Except Flaw Unit :=
  if mostRepeats < w.least then .error (.whole "looks too much behind")
  else if w.least ≠ w.most then .error (.whole "look-behind requires fixed-width pattern")
  else .ok ()

def whole (count : Nat) : Reads Unit := do
  advance
  let _ ← alternatives false true true (4 * count + 8)
  let r ← get
  if r.flags.contains 'a' && r.flags.contains 'u' then throw .alphabets
  if r.next.isSome then flaw "unbalanced parenthesis" 0
  if let some (n, place) := r.wanted.find? fun p => r.groups.size ≤ p.1 then
    flawAt s!"invalid group reference {n}" place
  for w in r.lookBehinds do
    (checkLookBehind w : Except Flaw Unit)

/-- Checks that a text is a pattern. -/
def check (pattern : List Char) : Except Flaw Unit :=
  (whole pattern.length).run' { rest := pattern }

example : check "a(b".toList = .error (.at "missing ), unterminated subpattern" 1) := by
  cbv

end DifferentialDrive.Text.Pattern
