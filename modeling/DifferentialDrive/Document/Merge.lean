import DifferentialDrive.Document.Node

/-!
# Merged fields

A map may take over the fields of another or of several. They come before its own, so that a field
of its own replaces one that it takes over; of several maps the first comes last. What is taken
over is written into the map, once and for all its places.
-/

namespace DifferentialDrive.Document

/-- A step that may change nodes. -/
abbrev Edits := StateT Nodes (Except Fault)

def valueFault {β : Type} (context : Option (Context × Mark)) (problem : Problem) (m : Mark) :
    Except Fault β :=
  .error (.complaint ⟨.values, context.map fun c => (c.1, some c.2), problem, m⟩)

namespace Nodes

/-- Takes out the first field of a map that asks for others, and gives what it names. -/
def takeMerge? (map : Nat) : Edits (Option Nat) :=
  modifyGet fun ns =>
    let asks (f : Nat × Nat) : Bool := (ns.nodeAt f.1).tag == .merge
    let fields := ns.fields map
    match fields.find? asks with
    | none => (none, ns)
    | some f => (some f.2, ns.fill map (.map (fields.eraseP asks)))

/-- The key of a map's own value is text wherever the map is read for its fields. -/
def nameKey (ns : Nodes) (key : Nat) : Nodes :=
  ns.modify key fun n => if n.tag = .value then { n with tag := .text } else n

/-- Puts fields in front of those of a map, which are then its own. -/
def takeOver (map : Nat) (taken : List (Nat × Nat)) : Edits Unit :=
  modify fun ns =>
    let fields := taken ++ ns.fields map
    (fields.map (·.1)).foldl nameKey (ns.fill map (.map fields))

mutual

/-- Writes into a map the fields that it takes over. -/
def flatten (map : Nat) : Nat → Edits Unit
  | 0 => return
  | n + 1 => do takeOver map (← taken map n)

/-- The fields that a map takes over. -/
def taken (map : Nat) : Nat → Edits (List (Nat × Nat))
  | 0 => return []
  | n + 1 => do
    match ← takeMerge? map with
    | none => return []
    | some source =>
      let here ← given map source n
      return here ++ (← taken map n)

/-- The fields that a map gives, or each map of a list. -/
def given (map source : Nat) : Nat → Edits (List (Nat × Nat))
  | 0 => return []
  | n + 1 => do
    let context := some (Context.constructing "a mapping", ((← get).nodeAt map).start)
    let node := (← get).nodeAt source
    match node.content with
    | .map _ =>
      flatten source n
      return (← get).fields source
    | .list items =>
      let parts ← items.mapM fun item => do
        let node := (← get).nodeAt item
        match node.content with
        | .map _ =>
          flatten item n
          return (← get).fields item
        | _ => valueFault context (.expectedKind "a mapping for merging" node.kind) node.start
      return parts.reverse.flatten
    | .text _ =>
      valueFault context (.expectedKind "a mapping or list of mappings for merging" node.kind)
        node.start

end

/-- A bound for how deep maps take over fields from others: each time one field fewer asks for
it. -/
def mergeBound (ns : Nodes) : Nat :=
  let fields := ns.toList.flatMap fun n =>
    match n.content with
    | .map fields => fields
    | _ => []
  3 * fields.length + 3

end Nodes

end DifferentialDrive.Document
