import DifferentialDrive.Document.Datum

/-!
# Values of a document

What a document says is made up of maps, lists and sets over plain data. A value may stand in
several places and also within itself, so it is a place among numbered cells: `Value.view` says
what stands there. A map keeps its fields in the order of their first appearance.
-/

namespace DifferentialDrive.Document

/-- What a value is, over what stands within it. -/
inductive Shape (ρ : Type) where
  | datum (d : Datum)
  | list (items : List ρ)
  | pair (first second : ρ)
  | set (items : List Datum)
  | map (fields : List (Datum × ρ))
  deriving Inhabited

namespace Shape

variable {ρ σ : Type}

def mapWithin (f : ρ → σ) : Shape ρ → Shape σ
  | datum d => datum d
  | list items => list (items.map f)
  | pair a b => pair (f a) (f b)
  | set items => set items
  | map fields => map (fields.map fun p => (p.1, f p.2))

end Shape

abbrev Cells := Array (Shape Nat)

structure Value where
  cells : Cells
  place : Nat
  deriving Inhabited

/-- A value that is being laid out: its place among the cells so far and its own. -/
abbrev Draft := StateM Cells Nat

namespace Draft

def cell (s : Shape Nat) : Draft := modifyGet fun cells => (cells.size, cells.push s)

def datum (d : Datum) : Draft := cell (.datum d)

def list (items : List Draft) : Draft := do cell (.list (← items.mapM id))

def map (fields : List (Datum × Draft)) : Draft := do
  cell (.map (← fields.mapM fun f => return (f.1, ← f.2)))

/-- The map of fields that are named by text. -/
def record (fields : List (String × Draft)) : Draft :=
  map (fields.map fun f => (.ofText f.1, f.2))

def finish (d : Draft) : Value :=
  let (place, cells) := d.run #[]
  ⟨cells, place⟩

end Draft

namespace Value

def ofDatum (d : Datum) : Value := (Draft.datum d).finish

def ofText (s : String) : Value := ofDatum (.ofText s)

def empty : Value := (Draft.map []).finish

def view (v : Value) : Shape Value :=
  (v.cells[v.place]?.getD (.datum .null)).mapWithin fun place => ⟨v.cells, place⟩

/-- Whether a value counts as set: neither zero nor empty. -/
def isSet (v : Value) : Bool :=
  match v.view with
  | .datum d => d.isSet
  | .list items => !items.isEmpty
  | .pair _ _ => true
  | .set items => !items.isEmpty
  | .map fields => !fields.isEmpty

end Value

variable {ρ : Type}

/-- The field that is named by a text. -/
def named? (fields : List (Datum × ρ)) (name : String) : Option ρ :=
  (fields.find? (·.1.isNamed name)).map (·.2)

end DifferentialDrive.Document
