import DifferentialDrive.Document.Arrangement
import DifferentialDrive.Document.Merge
import DifferentialDrive.Document.Reading
import DifferentialDrive.Document.Value

/-!
# The value of a document

Each node has one value, wherever it stands. The value of a list or map is there before what it
holds, so that it may stand within itself; what it holds is found level by level: all that stands
directly in the root before anything that stands deeper.
-/

namespace DifferentialDrive.Document

open DifferentialDrive.Text

/-- The values so far. -/
structure Making where
  nodes : Nodes
  cells : Cells := #[]
  /-- The places of the values of nodes. -/
  made : Array (Option Nat)
  /-- The lists and maps that have a value, in the order in which they are to be filled. -/
  opened : Array Nat := #[]
  /-- The place of what is not a number, where a word of its own says so. -/
  nan : Option Nat := none

abbrev Makes := StateT Making (Except Fault)

namespace Makes

def fault {β : Type} (context : Option (Context × Mark)) (problem : Problem) (m : Mark) :
    Makes β := valueFault context problem m

/-- What the text of a node says. -/
def said {β : Type} : Except ValueFault β → Makes β
  | .ok b => return b
  | .error f => throw (.value f)

def nodeAt (k : Nat) : Makes Node := return (← get).nodes.nodeAt k

/-- A new cell. -/
def add (s : Shape Nat) : Makes Nat :=
  modifyGet fun m => (m.cells.size, { m with cells := m.cells.push s })

def put (place : Nat) (s : Shape Nat) : Makes Unit :=
  modify fun m => { m with cells := m.cells.setIfInBounds place s }

/-- The text of a node. That of a map is the text of its own value. -/
def textOf : Nat → Nat → Makes Letters
  | 0, _ => throw (.value .ownText)
  | depth + 1, node => do
    let n ← nodeAt node
    let other := fault none (.expectedKind "a scalar node" n.kind) n.start
    match n.content with
    | .text s => return s
    | .list _ => other
    | .map fields =>
      let nodes := (← get).nodes
      match fields.find? fun f => (nodes.nodeAt f.1).tag == .value with
      | some f => textOf depth f.2
      | none => other

def isText (n : Node) : Bool := n.content matches .text _

/-- The datum of a node whose tag is no collection. -/
def datum (node : Nat) : Makes Datum := do
  let n ← nodeAt node
  let text := textOf ((← get).nodes.size + 1) node
  let read {β : Type} (make : β → Datum) (value : Letters → Except ValueFault β) : Makes Datum := do
    return make (← said (value (← text)))
  match n.tag with
  | .null =>
    let _ ← text
    return .null
  | .bool => read .bool readTruth
  | .int => read .int readInt
  | .float => read .float readFloat
  | .binary =>
    match readBytes (← text) with
    | .ok bs => return .bytes bs
    | .error problem => fault none problem n.start
  | .moment =>
    let s ← text
    if isText n then return .moment (← said (readMoment s))
    else throw (.value .notText)
  | .text => return .text (← text)
  | t => fault none (.unknownTag t.name) n.start

/-- Whether a node is one of the words for what is not a number. -/
def isNaNNode (node : Nat) : Makes Bool := do
  let n ← nodeAt node
  if n.tag = .float then return writesNaN (← textOf ((← get).nodes.size + 1) node)
  else return false

/-- The value of a datum's node. -/
def addDatum (node : Nat) : Makes Nat := do
  let d ← datum node
  if ← isNaNNode node then
    match (← get).nan with
    | some place => return place
    | none =>
      let place ← add (.datum d)
      modify fun m => { m with nan := some place }
      return place
  else add (.datum d)

/-- The value of a list's or map's node, with nothing in it. -/
def addOpen (tag : Tag) (node : Nat) : Makes Nat := do
  modify fun m => { m with opened := m.opened.push node }
  match tag with
  | .map => add (.map [])
  | .set => add (.set [])
  | _ => add (.list [])

/-- The place of a node's value. -/
def valueOf (node : Nat) : Makes Nat := do
  match ((← get).made[node]?).join with
  | some place => return place
  | none =>
    let tag := (← nodeAt node).tag
    let place ← if tag.isCollection then addOpen tag node else addDatum node
    modify fun m => { m with made := m.made.setIfInBounds node (some place) }
    return place

/-! ## Lists and maps -/

def items (n : Node) : Makes (List Nat) :=
  match n.content with
  | .list items => return items
  | _ => fault none (.expectedKind "a sequence node" n.kind) n.start

/-- The fields of a map with those that it takes over. -/
def fields (node : Nat) (n : Node) : Makes (List (Nat × Nat)) := do
  match n.content with
  | .map _ =>
    let m ← get
    let ((), nodes) ← (Nodes.flatten node m.nodes.mergeBound).run m.nodes
    set { m with nodes := nodes }
    return nodes.fields node
  | _ => fault none (.expectedKind "a mapping node" n.kind) n.start

/-- A datum as a key: the place of its value and the datum. -/
structure Key where
  place : Nat
  datum : Datum

/-- Whether two keys are one: the same value, or data that are one key. -/
def Key.isSame (k l : Key) : Bool := k.place == l.place || k.datum.isSameKey l.datum

/-- The fields with one more; a field of the same key is replaced where it stands and keeps its
key. -/
def insert (fields : List (Key × Nat)) (f : Key × Nat) : List (Key × Nat) :=
  if fields.any (·.1.isSame f.1) then
    fields.map fun g => if g.1.isSame f.1 then (g.1, f.2) else g
  else fields ++ [f]

/-- The key that a node of a map is. -/
def key (map node : Nat) : Makes Key := do
  let place ← valueOf node
  match (← get).cells[place]? with
  | some (.datum d) => return ⟨place, d⟩
  | _ =>
    let context := some (Context.constructing "a mapping", (← nodeAt map).start)
    fault context .noKey (← nodeAt node).start

/-- The values of a map's fields by their keys. -/
def keyed (node : Nat) (n : Node) : Makes (List (Key × Nat)) := do
  let fs ← (← fields node n).mapM fun f => do
    let k ← key node f.1
    return (k, ← valueOf f.2)
  return fs.foldl insert []

/-- The values of the only fields of the maps in a list. -/
def singles (what : String) (n : Node) : Makes (List Nat) := do
  let context := some (Context.constructing what, n.start)
  match n.content with
  | .list items => items.mapM fun item => do
    let i ← nodeAt item
    match i.content with
    | .map [f] =>
      let k ← valueOf f.1
      add (.pair k (← valueOf f.2))
    | .map fields =>
      fault context (.expectedKind "a single mapping item" s!"{fields.length} items") i.start
    | _ => fault context (.expectedKind "a mapping of length 1" i.kind) i.start
  | _ => fault context (.expectedKind "a sequence" n.kind) n.start

/-- What the list or map of a node holds. -/
def held (node : Nat) : Makes (Shape Nat) := do
  let n ← nodeAt node
  match n.tag with
  | .list => return .list (← (← items n).mapM valueOf)
  | .map => return .map ((← keyed node n).map fun f => (f.1.datum, f.2))
  | .set => return .set (arranged ((← keyed node n).map (·.1.datum)))
  | .pairs => return .list (← singles "pairs" n)
  | _ => return .list (← singles "an ordered map" n)

/-- Fills the lists and maps from the one that was opened as the given one on. -/
def fillFrom (next : Nat) : Nat → Makes Unit
  | 0 => return
  | n + 1 => do
    match (← get).opened[next]? with
    | none => return
    | some node =>
      let shape ← held node
      put (← valueOf node) shape
      fillFrom (next + 1) n

/-- The place of the value of a node with all that it holds. -/
def whole (node : Nat) : Makes Nat := do
  let place ← valueOf node
  fillFrom 0 ((← get).nodes.size + 1)
  return place

end Makes

/-- The value of the node that holds the others. -/
def Graph.meaning (g : Graph) : Except Fault Value := do
  let made := Array.replicate g.nodes.size none
  let (place, m) ← (Makes.whole g.root).run { nodes := g.nodes, made := made }
  return ⟨m.cells, place⟩

end DifferentialDrive.Document
