import DifferentialDrive.Document.BlockText
import DifferentialDrive.Document.QuotedText
import DifferentialDrive.Document.Token

/-!
# The tokens of a text

Tokens are handed on as soon as nothing that follows can put a token in front of them. What may do
so is a colon: it makes a key of a token before it on the same line, and a key that is the first
of its map also opens the map. `Tokens.ofText` gives the tokens that are handed on, and the fault
that stands in the way of the next one if there is one.
-/

namespace DifferentialDrive.Document

/-- A token that a colon may still make a key of. -/
structure Candidate where
  /-- The nesting in braces and brackets where it stands. -/
  level : Nat
  /-- Its place among all tokens. -/
  number : Nat
  /-- Whether it stands where only a key can stand. -/
  required : Bool
  index : Nat
  mark : Mark

structure Tokenizer where
  cursor : Cursor
  level : Nat := 0
  /-- The column of the innermost list or map in block notation; -1 outside all. -/
  indent : Int := -1
  /-- The columns of the ones around it. -/
  outer : List Int := []
  /-- Whether a key may stand here. -/
  allowsKey : Bool := true
  candidates : List Candidate := []
  /-- Tokens that are not handed on yet. -/
  waiting : List Token := []
  handedOn : Nat := 0
  isDone : Bool := false

abbrev Tokenizing := StateT Tokenizer (Except Fault)

namespace Tokenizer

/-- Moves the cursor. -/
def scan {β : Type} (s : Scan β) : Tokenizing β := do
  let t ← get
  match s.run t.cursor with
  | .error f => throw f
  | .ok (b, cursor) =>
    set { t with cursor := cursor }
    return b

/-- A complaint at the cursor. -/
def complain {β : Type} (context : Option (Context × Option Mark)) (problem : Problem) :
    Tokenizing β := do
  throw (.complaint ⟨.tokens, context, problem, (← get).cursor.mark⟩)

def refuse {β : Type} (c : Candidate) : Tokenizing β :=
  complain (some (.scanning "a simple key", some c.mark)) .noColon

/-- A key stands on one line and is not longer than 1024 characters. -/
def isStale (cursor : Cursor) (c : Candidate) : Bool :=
  c.mark.line != cursor.line || 1024 < cursor.index - c.index

def dropStale : Tokenizing Unit := do
  let t ← get
  match t.candidates.find? fun c => isStale t.cursor c && c.required with
  | some c => refuse c
  | none => set { t with candidates := t.candidates.filter fun c => !isStale t.cursor c }

/-- The candidate of this nesting gives way. -/
def dropCandidate : Tokenizing Unit := do
  let t ← get
  match t.candidates.find? (·.level == t.level) with
  | none => return
  | some c =>
    if c.required then refuse c
    set { t with candidates := t.candidates.filter (·.level != t.level) }

/-- The next token may become a key. -/
def addCandidate : Tokenizing Unit := do
  let t ← get
  if t.allowsKey then
    dropCandidate
    let c : Candidate :=
      { level := t.level, number := t.handedOn + t.waiting.length
        required := t.level == 0 && t.indent == t.cursor.column
        index := t.cursor.index, mark := t.cursor.mark }
    modify fun t => { t with candidates := t.candidates ++ [c] }

def append (kind : TokenKind) (start stop : Mark) : Tokenizing Unit :=
  modify fun t => { t with waiting := t.waiting ++ [⟨kind, start, stop⟩] }

/-- A token that takes up no room, at the cursor. -/
def appendHere (kind : TokenKind) : Tokenizing Unit := do
  let m ← scan Scan.mark
  append kind m m

/-- A token of so many characters. -/
def appendMarks (kind : TokenKind) (count : Nat) : Tokenizing Unit := do
  let start ← scan Scan.mark
  scan (Scan.skip count)
  append kind start (← scan Scan.mark)

/-- A token that a scan of its own reads. -/
def appendScanned {β : Type} (s : Scan β) (kind : β → TokenKind) : Tokenizing β := do
  let start ← scan Scan.mark
  let b ← scan s
  append (kind b) start (← scan Scan.mark)
  return b

def allowKey (allow : Bool) : Tokenizing Unit := modify fun t => { t with allowsKey := allow }

/-- The tokens that end the lists and maps which stand further in than a column. -/
def closeBlocks (column : Int) (mark : Mark) : Int → List Int → List Token × Int × List Int
  | indent, [] => ([], indent, [])
  | indent, o :: outer =>
    if column < indent then
      let (ends, indent, outer) := closeBlocks column mark o outer
      (⟨.blockEnd, mark, mark⟩ :: ends, indent, outer)
    else ([], indent, o :: outer)

def unwind (column : Int) : Tokenizing Unit := do
  let t ← get
  if t.level = 0 then
    let (ends, indent, outer) := closeBlocks column t.cursor.mark t.indent t.outer
    set { t with waiting := t.waiting ++ ends, indent := indent, outer := outer }

/-- Opens a list or map at a column, if it stands further in than the one around it. -/
def openBlock (column : Int) : Tokenizing Bool :=
  modifyGet fun t =>
    if t.indent < column then
      (true, { t with indent := column, outer := t.indent :: t.outer })
    else (false, t)

def nothingElse : Tokenizing Unit := do
  dropCandidate
  allowKey false

def streamEnd : Tokenizing Unit := do
  unwind (-1)
  nothingElse
  appendHere .streamEnd
  modify fun t => { t with candidates := [], isDone := true }

def directive : Tokenizing Unit := do
  unwind (-1)
  nothingElse
  let _ ← appendScanned Directive.scan .directive

def separator (kind : TokenKind) : Tokenizing Unit := do
  unwind (-1)
  nothingElse
  appendMarks kind 3

def flowStart (kind : TokenKind) : Tokenizing Unit := do
  addCandidate
  modify fun t => { t with level := t.level + 1, allowsKey := true }
  appendMarks kind 1

/-- The end of braces or brackets. One too many leaves the nesting at none. -/
def flowEnd (kind : TokenKind) : Tokenizing Unit := do
  nothingElse
  modify fun t => { t with level := t.level - 1 }
  appendMarks kind 1

def comma : Tokenizing Unit := do
  allowKey true
  dropCandidate
  appendMarks .comma 1

/-- Outside braces and brackets, opens a list or map at the cursor. A new one has to stand where a
key may. -/
def ensureBlock (what : String) (kind : TokenKind) : Tokenizing Unit := do
  let t ← get
  if t.level = 0 then
    if !t.allowsKey then complain none (.notAllowed what)
    if ← openBlock t.cursor.column then appendHere kind

def entry : Tokenizing Unit := do
  ensureBlock "sequence entries" .blockListStart
  allowKey true
  dropCandidate
  appendMarks .entry 1

def key : Tokenizing Unit := do
  ensureBlock "mapping keys" .blockMapStart
  allowKey ((← get).level == 0)
  dropCandidate
  appendMarks .key 1

/-- Makes a key of a candidate, by a token in front of it. -/
def makeKey (c : Candidate) : Tokenizing Unit := do
  modify fun t => { t with candidates := t.candidates.filter (·.level != c.level) }
  let t ← get
  let place := c.number - t.handedOn
  let opens ← if t.level = 0 then openBlock c.mark.column else pure false
  let tokens := (if opens then [⟨.blockMapStart, c.mark, c.mark⟩] else []) ++
    [⟨.key, c.mark, c.mark⟩]
  modify fun t =>
    { t with waiting := t.waiting.take place ++ tokens ++ t.waiting.drop place, allowsKey := false }

def value : Tokenizing Unit := do
  let t ← get
  match t.candidates.find? (·.level == t.level) with
  | some c => makeKey c
  | none =>
    ensureBlock "mapping values" .blockMapStart
    allowKey (t.level == 0)
  appendMarks .value 1

def label (s : Scan TokenKind) : Tokenizing Unit := do
  addCandidate
  allowKey false
  let _ ← appendScanned s id

def blockText (folded : Bool) : Tokenizing Unit := do
  allowKey true
  dropCandidate
  let around := (← get).indent
  let _ ← appendScanned (BlockText.scan folded around) fun s => .text (.ofChars s) false

def quotedText (double : Bool) : Tokenizing Unit := do
  addCandidate
  allowKey false
  let _ ← appendScanned (QuotedText.scan double) fun s => .text s false

def plainText : Tokenizing Unit := do
  addCandidate
  let t ← get
  let (_, onNewLine) ← appendScanned (PlainText.scan (t.level != 0) (t.indent + 1))
    fun s => .text (.ofChars s.1) true
  allowKey onNewLine

/-- Skips spaces, comments and line breaks; behind a line break a key may stand. -/
def skipGaps : Nat → Tokenizing Unit
  | 0 => return
  | n + 1 => do
    scan Scan.skipSpaces
    scan Scan.skipComment
    let text ← scan Scan.takeBreak
    if !text.isEmpty then
      modify fun t => { t with allowsKey := t.allowsKey || t.level == 0 }
      skipGaps n

/-- A byte order mark may begin the text. -/
def skipOrderMark : Scan Unit := do
  if (← get).index = 0 then
    if (← Scan.peek) == '\ufeff' then Scan.skip 1

/-- Whether the mark that stands here stands alone. -/
def isAlone : Scan Bool := return isGapOrEnd (← Scan.peekAt 1)

/-- Refuses a character, after a look at the one behind it. -/
def noToken (ch : Char) : Tokenizing Unit := do
  let _ ← scan isAlone
  complain (some (.scanning "for the next token", none)) (.noTokenStart ch)

/-- Whether a separator of documents stands here, at the beginning of a line. -/
def isAtSeparator : Tokenizing Bool := do
  if (← get).cursor.column = 0 then scan Scan.isAtSeparator else return false

/-- Reads the token that begins with a character. -/
def token (ch : Char) : Tokenizing Unit := do
  let t ← get
  let flow := t.level != 0
  match ch with
  | '\x00' => streamEnd
  | '%' => if t.cursor.column = 0 then directive else noToken ch
  | '[' => flowStart .flowListStart
  | '\x7b' => flowStart .flowMapStart
  | ']' => flowEnd .flowListEnd
  | '\x7d' => flowEnd .flowMapEnd
  | ',' => comma
  | '*' => label (.mention <$> Label.anchor "alias")
  | '&' => label (.anchor <$> Label.anchor "anchor")
  | '!' => label ((fun (h, s) => .tag h s) <$> Label.tag)
  | '|' => if flow then noToken ch else blockText false
  | '>' => if flow then noToken ch else blockText true
  | '\'' => quotedText false
  | '"' => quotedText true
  | '.' => if ← isAtSeparator then separator .documentEnd else plainText
  | '-' =>
    if ← isAtSeparator then separator .documentStart
    else if ← scan isAlone then entry
    else plainText
  | '?' => if flow then key else if ← scan isAlone then key else plainText
  | ':' => if flow then value else if ← scan isAlone then value else plainText
  | ch => if PlainText.isStart ch then plainText else noToken ch

/-- Reads the next token, and what it brings with it. -/
def fetch : Tokenizing Unit := do
  scan skipOrderMark
  skipGaps (← scan Scan.bound)
  dropStale
  unwind (← get).cursor.column
  token (← scan Scan.peek)

/-- The least place of a token that may still become a key. -/
def firstCandidate? (t : Tokenizer) : Option Nat := (t.candidates.map (·.number)).min?

/-- The tokens that nothing can come in front of any more. -/
def ready (t : Tokenizer) : List Token × Tokenizer :=
  let count :=
    match t.firstCandidate? with
    | some n => n - t.handedOn
    | none => t.waiting.length
  let tokens := t.waiting.take count
  (tokens, { t with waiting := t.waiting.drop count, handedOn := t.handedOn + tokens.length })

/-- What is handed on next, as far as the waiting tokens let that be told. -/
def handOn : Tokenizing (List Token) := do
  let t ← get
  if !t.waiting.isEmpty && !t.isDone then dropStale
  modifyGet ready

end Tokenizer

/-- Tokens, and what is wrong behind them. -/
structure Tokens where
  list : List Token
  fault : Option Fault
  deriving Repr, DecidableEq

namespace Tokens

/-- Reads on behind tokens that are handed on, given last first. -/
def go (found : List Token) : Nat → Tokenizer → Tokens
  | 0, _ => ⟨found.reverse, none⟩
  | n + 1, t =>
    match Tokenizer.handOn.run t with
    | .error f => ⟨found.reverse, some f⟩
    | .ok (tokens, t) =>
      let found := tokens.reverse ++ found
      if t.isDone then ⟨found.reverse, none⟩
      else
        match Tokenizer.fetch.run t with
        | .error f => ⟨found.reverse, some f⟩
        | .ok ((), t) => go found n t

/-- The tokens of a text that is at fault behind its end, or else ends there. -/
def ofText (s : List Char) (beyond : Option Fault) : Tokens :=
  let cursor : Cursor := { rest := s, beyond := beyond }
  go [] (cursor.size + 3) { cursor := cursor }

end Tokens

end DifferentialDrive.Document
