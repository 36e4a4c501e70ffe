import DifferentialDrive.Document.Tag
import DifferentialDrive.Document.Tokens

/-!
# Nodes

What the tokens of a document form. The nodes are numbered as they are found, and one that holds
others holds their numbers; an alias is the number that its anchor stands for, also within the
node of the anchor. `Graph.ofTokens` reads the one document of a stream, or none if the stream is
empty.
-/

namespace DifferentialDrive.Document

inductive Content where
  | text (s : Text.Letters)
  | list (items : List Nat)
  | map (fields : List (Nat × Nat))
  deriving Repr

structure Node where
  tag : Tag
  start : Mark
  content : Content
  deriving Repr

/-- What a node is, in a complaint. -/
def Node.kind (n : Node) : String :=
  match n.content with
  | .text _ => "scalar"
  | .list _ => "sequence"
  | .map _ => "mapping"

abbrev Nodes := Array Node

namespace Nodes

/-- The node of a number. -/
def nodeAt (ns : Nodes) (k : Nat) : Node := ns[k]?.getD ⟨.null, ⟨0, 0⟩, .text []⟩

def fields (ns : Nodes) (k : Nat) : List (Nat × Nat) :=
  match (ns.nodeAt k).content with
  | .map fields => fields
  | _ => []

def fill (ns : Nodes) (k : Nat) (c : Content) : Nodes :=
  ns.modify k fun n => { n with content := c }

end Nodes

/-- Nodes with the number of the one that holds the others. -/
structure Graph where
  nodes : Nodes
  root : Nat

/-- How far the tokens have been read, the nodes so far, and what labels stand for. -/
structure Reading where
  tokens : List Token
  /-- What stands in the way of the token after the last. -/
  fault : Option Fault
  nodes : Nodes := #[]
  anchors : List (String × Nat) := []
  handles : List (String × String) := []
  /-- How many lists and maps are open. -/
  around : Nat := 0

abbrev Reads := StateT Reading (Except Fault)

namespace Reads

def complain {β : Type} (stage : Stage) (context : Option (Context × Mark)) (problem : Problem)
    (m : Mark) : Reads β :=
  throw (.complaint ⟨stage, context.map fun c => (c.1, some c.2), problem, m⟩)

/-- The end of the stream, should the tokens run out before it. -/
def ended (fault : Option Fault) : Fault :=
  fault.getD (.complaint ⟨.layout, none, .streamEnd, ⟨0, 0⟩⟩)

def peek : Reads Token := do
  let r ← get
  match r.tokens with
  | t :: _ => return t
  | [] => throw (ended r.fault)

def peekKind : Reads TokenKind := return (← peek).kind

def take : Reads Token := do
  let t ← peek
  modify fun r => { r with tokens := r.tokens.tail }
  return t

/-- Takes the next token if it is the given one. -/
def takeIf (kind : TokenKind) : Reads (Option Token) := do
  if (← peekKind) == kind then return some (← take) else return none

/-- An anchor and a tag before a node, in either order. -/
structure Labels where
  anchor : Option String := none
  /-- The handle of the tag, the rest of it and where it stands. -/
  tag : Option (Option String × String × Mark) := none
  /-- Where the first of them stands. -/
  start : Option Mark := none

/-- The labels before a node; at most one of each kind. -/
def labels (l : Labels) : Nat → Reads Labels
  | 0 => return l
  | n + 1 => do
    match l, ← peekKind with
    | ⟨none, tag, start⟩, .anchor name =>
      let t ← take
      labels ⟨some name, tag, start.or (some t.start)⟩ n
    | ⟨anchor, none, start⟩, .tag handle rest =>
      let t ← take
      labels ⟨anchor, some (handle, rest, t.start), start.or (some t.start)⟩ n
    | _, _ => return l

/-- The name of the tag among the labels. -/
def tagName? (l : Labels) : Reads (Option String) := do
  match l.tag with
  | none => return none
  | some (none, rest, _) => return some rest
  | some (some handle, rest, m) =>
    match (← get).handles.lookup handle with
    | some stem => return some (stem ++ rest)
    | none =>
      complain .layout (some (.parsing "a node", l.start.getD m)) (.unknownHandle handle) m

def startOf (node : Nat) : Reads Mark := return ((← get).nodes.nodeAt node).start

/-- A new node. -/
def make (tag : Tag) (start : Mark) (c : Content) : Reads Nat :=
  modifyGet fun r => (r.nodes.size, { r with nodes := r.nodes.push ⟨tag, start, c⟩ })

def fill (node : Nat) (c : Content) : Reads Unit :=
  modify fun r => { r with nodes := r.nodes.fill node c }

/-- A node that is not written, at a place where there could be one. -/
def missing (m : Mark) : Reads Nat := make .null m (.text [])

/-- Refuses an anchor that there is already. -/
def checkAnchor (anchor : Option String) (m : Mark) : Reads Unit := do
  if let some name := anchor then
    if let some first := (← get).anchors.lookup name then
      complain .nodes (some (.repeatedAnchor name, ← startOf first)) .secondAnchor m

def setAnchor (anchor : Option String) (node : Nat) : Reads Unit := do
  if let some name := anchor then
    modify fun r => { r with anchors := (name, node) :: r.anchors }

/-- The node that an anchor names. -/
def mentioned (name : String) (m : Mark) : Reads Nat := do
  match (← get).anchors.lookup name with
  | some node => return node
  | none => complain .nodes none (.unknownAlias name) m

/-- The most lists and maps that stand within each other. -/
def deepest : Nat := 490

/-- Reads what a list or map holds. -/
def within {β : Type} (r : Reads β) : Reads β := do
  let around := (← get).around
  if deepest ≤ around then throw .tooDeep
  modify fun r => { r with around := around + 1 }
  let held ← r
  modify fun r => { r with around := around }
  return held

/-- Where a node stands. -/
inductive Place where
  | flow
  | block
  /-- In a map in block notation, where a list need not stand further in. -/
  | field
  deriving Repr, DecidableEq

inductive Style where
  | flow | block
  /-- A list that does not stand further in than the map around it. -/
  | bare
  deriving Repr, DecidableEq

/-- What a node is found to be before the nodes within it are read; for a list or map, where it
opens. -/
inductive Form where
  | text (tag : Tag) (s : Text.Letters)
  | list (tag : Tag) (opening : Mark) (style : Style)
  | map (tag : Tag) (opening : Mark) (style : Style)

/-- The form of the node that stands here behind its labels, and where the node begins. A tag
that is a single exclamation mark leaves it to the text. -/
def form (place : Place) (l : Labels) : Reads (Mark × Form) := do
  let name ← tagName? l
  let next ← peek
  let start := l.start.getD next.start
  let tagOr (t : Tag) : Tag := ((name.filter (· != "!")).map Tag.ofName).getD t
  let opened (s : Form) : Reads (Mark × Form) := do
    let _ ← take
    return (start, s)
  match next.kind, place with
  | .entry, .field => return (start, .list (tagOr .list) next.start .bare)
  | .text s plain, _ =>
    opened (.text (tagOr (if plain || name == some "!" then Tag.ofPlain s.toString else .text)) s)
  | .flowListStart, _ => opened (.list (tagOr .list) next.start .flow)
  | .flowMapStart, _ => opened (.map (tagOr .map) next.start .flow)
  | .blockListStart, .block | .blockListStart, .field =>
    opened (.list (tagOr .list) next.start .block)
  | .blockMapStart, .block | .blockMapStart, .field =>
    opened (.map (tagOr .map) next.start .block)
  | kind, place =>
    if l.start.isSome then return (start, .text (tagOr .null) [])
    else
      let what := if place = .flow then "a flow node" else "a block node"
      complain .layout (some (.parsing what, start))
        (.expected "the node content" kind.name) next.start

/-- Reads on with a node, unless a token follows that leaves it out. -/
def orMissing (ends : TokenKind → Bool) (m : Mark) (read : Reads Nat) : Reads Nat := do
  if ends (← peekKind) then missing m else read

/-- A node that is left out before the next token. -/
def missingHere : Reads Nat := do missing (← peek).start

def endsField : TokenKind → Bool
  | .key | .value | .blockEnd => true
  | _ => false

def endsIn (closing : TokenKind) (k : TokenKind) : Bool := k == .comma || k == closing

/-- The comma between two items or fields. -/
def separate (what wanted : String) (start : Mark) : Reads Unit := do
  let t ← take
  if t.kind != .comma then
    complain .layout (some (.parsing what, start)) (.expectedSeparator wanted t.kind.name)
      t.start

/-- The end of a list or map in block notation. -/
def close (what : String) (start : Mark) : Reads Unit := do
  let t ← take
  if t.kind != .blockEnd then
    complain .layout (some (.parsing what, start)) (.expected "<block end>" t.kind.name) t.start

mutual

/-- The node that stands here. -/
def node (place : Place) : Nat → Reads Nat
  | 0 => missingHere
  | n + 1 => do
    let t ← peek
    if let .mention name := t.kind then
      let _ ← take
      mentioned name t.start
    else
      let l ← labels {} 2
      let (m, form) ← form place l
      checkAnchor l.anchor m
      content l.anchor m n form

/-- The node of a form, with what it holds; its anchor stands for it from its beginning. -/
def content (anchor : Option String) (m : Mark) : Nat → Form → Reads Nat
  | 0, _ => missingHere
  | _, .text tag s => do
    let node ← make tag m (.text s)
    setAnchor anchor node
    return node
  | n + 1, .list tag opening style => do
    let node ← make tag m (.list [])
    setAnchor anchor node
    let held ← within <|
      match style with
      | .flow => flowItems opening true n
      | .block => items opening n
      | .bare => bareItems n
    fill node (.list held)
    return node
  | n + 1, .map tag opening style => do
    let node ← make tag m (.map [])
    setAnchor anchor node
    let held ← within <| if style = .flow then flowFields opening true n else fields opening n
    fill node (.map held)
    return node

/-- The items of a list in block notation, up to its end. -/
def items (start : Mark) : Nat → Reads (List Nat)
  | 0 => return []
  | n + 1 => do
    match ← takeIf .entry with
    | some t =>
      let v ← orMissing (fun k => k == .entry || k == .blockEnd) t.stop (node .block n)
      return v :: (← items start n)
    | none =>
      close "a block collection" start
      return []

/-- The items of a list that does not stand further in than the map around it. -/
def bareItems : Nat → Reads (List Nat)
  | 0 => return []
  | n + 1 => do
    match ← takeIf .entry with
    | some t =>
      let v ← orMissing (fun k => k == .entry || endsField k) t.stop (node .block n)
      return v :: (← bareItems n)
    | none => return []

/-- The fields of a map in block notation, up to its end. -/
def fields (start : Mark) : Nat → Reads (List (Nat × Nat))
  | 0 => return []
  | n + 1 => do
    match ← takeIf .key with
    | some t =>
      let k ← orMissing endsField t.stop (node .field n)
      let v ←
        match ← takeIf .value with
        | some t => orMissing endsField t.stop (node .field n)
        | none => missingHere
      return (k, v) :: (← fields start n)
    | none =>
      close "a block mapping" start
      return []

/-- A field within braces or brackets behind the mark of its key. -/
def flowField (closing : TokenKind) (m : Mark) : Nat → Reads (Nat × Nat)
  | 0 => return (← missing m, ← missing m)
  | n + 1 => do
    let k ← orMissing (fun k => k == .value || endsIn closing k) m (node .flow n)
    let v ←
      match ← takeIf .value with
      | some t => orMissing (endsIn closing) t.stop (node .flow n)
      | none => missingHere
    return (k, v)

/-- The items within brackets, up to the closing one. A field among them is a map of its own. -/
def flowItems (start : Mark) (first : Bool) : Nat → Reads (List Nat)
  | 0 => return []
  | n + 1 => do
    if (← takeIf .flowListEnd).isSome then return []
    if !first then separate "a flow sequence" "',' or ']'" start
    let t ← peek
    match t.kind with
    | .flowListEnd =>
      let _ ← take
      return []
    | .key =>
      let _ ← take
      let f ← within <| flowField .flowListEnd t.stop n
      let v ← make .map t.start (.map [f])
      return v :: (← flowItems start false n)
    | _ =>
      let v ← node .flow n
      return v :: (← flowItems start false n)

/-- The fields within braces, up to the closing one. A node alone is a key without a value. -/
def flowFields (start : Mark) (first : Bool) : Nat → Reads (List (Nat × Nat))
  | 0 => return []
  | n + 1 => do
    if (← takeIf .flowMapEnd).isSome then return []
    if !first then separate "a flow mapping" "',' or '\x7d'" start
    let t ← peek
    match t.kind with
    | .flowMapEnd =>
      let _ ← take
      return []
    | .key =>
      let _ ← take
      let f ← flowField .flowMapEnd t.stop n
      return f :: (← flowFields start false n)
    | _ =>
      let k ← node .flow n
      let v ← missingHere
      return (k, v) :: (← flowFields start false n)

end

/-- The handles that every document has. -/
def commonHandles : List (String × String) := [("!", "!"), ("!!", Tag.stem)]

/-- The directives before a document. -/
def directives (versioned : Bool) (handles : List (String × String)) : Nat → Reads Unit
  | 0 => return
  | n + 1 => do
    let t ← peek
    match t.kind with
    | .directive d =>
      let _ ← take
      match d with
      | .version major _ =>
        if versioned then complain .layout none .repeatedVersion t.start
        if major != 1 then complain .layout none .otherVersion t.start
        directives true handles n
      | .handle name stem =>
        if (handles.lookup name).isSome then
          complain .layout none (.repeatedHandle name) t.start
        directives versioned (handles ++ [(name, stem)]) n
      | .other => directives versioned handles n
    | _ => modify fun r => { r with handles := handles ++ commonHandles }

/-- The start of a document that is marked as one, with the directives before it. -/
def marked (n : Nat) : Reads Unit := do
  directives false [] n
  let t ← take
  if t.kind != .documentStart then
    complain .layout none (.expected "'<document start>'" t.kind.name) t.start

def endsDocument : TokenKind → Bool
  | .directive _ | .documentStart | .documentEnd | .streamEnd => true
  | _ => false

def skipEnds : Nat → Reads Unit
  | 0 => return
  | n + 1 => do
    if (← peekKind) == .documentEnd then
      let _ ← take
      skipEnds n

/-- The root of the document, if there is one. Nothing may follow it. -/
def document (n : Nat) : Reads (Option Nat) := do
  let t ← peek
  let root ←
    match t.kind with
    | .streamEnd => return none
    | .directive _ | .documentStart =>
      marked n
      let m := (← peek).start
      orMissing endsDocument m (node .block n)
    | _ =>
      modify fun r => { r with handles := commonHandles }
      node .block n
  skipEnds n
  let next ← peek
  if next.kind == .streamEnd then return some root
  marked n
  complain .nodes (some (.oneDocument, ← startOf root)) .anotherDocument next.start

end Reads

def Graph.ofTokens (ts : Tokens) : Except Fault (Option Graph) := do
  let n := 4 * ts.list.length + 8
  let (root, r) ← (Reads.document n).run { tokens := ts.list, fault := ts.fault }
  return root.map fun root => ⟨r.nodes, root⟩

end DifferentialDrive.Document
