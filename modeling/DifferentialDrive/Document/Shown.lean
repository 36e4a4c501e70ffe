import DifferentialDrive.Decimal.Integer
import DifferentialDrive.Decimal.Shortest
import DifferentialDrive.Document.Value
import DifferentialDrive.Text.Quoted

/-!
# Values as text

How a value is shown in a message: text in quotes, a list in brackets, a map in braces, and marks
for a value that is met again within itself. Integers beyond the limit on digits are not shown.
-/

namespace DifferentialDrive.Document

open DifferentialDrive.Text

/-- A byte between quotes: itself if it is a visible plain character. -/
def shownByte (quote : Char) (b : UInt8) : String :=
  if b.toNat < 0x7f then escape quote (Char.ofNat b.toNat) else escapeCode b.toNat

def shownBytes (bs : List UInt8) : String :=
  let quote := if bs.contains 39 && !bs.contains 34 then '"' else '\''
  "b" ++ quote.toString ++ String.join (bs.map (shownByte quote)) ++ quote.toString

/-- The text of a datum, unless it is an integer of too many digits. -/
def Datum.shown? : Datum → Option String
  | null => some "None"
  | bool b => some (if b then "True" else "False")
  | int n => Decimal.integerText? n
  | float x => some (Decimal.shortest x)
  | text s => some (quotedLetters s)
  | bytes bs => some (shownBytes bs)
  | moment m => some m.shown

/-- A datum as text of its own: text and moments stand as they are. -/
def Datum.plain? : Datum → Option String
  | text s => some s.toString
  | moment m => some m.text
  | d => d.shown?

namespace Cells

/-- What stands for a value within itself. -/
def again : Shape Nat → String
  | .list _ => "[...]"
  | .pair _ _ => "(...)"
  | .set _ => "set(...)"
  | _ => "\x7b...\x7d"

def commas (texts : List String) : String := ", ".intercalate texts

/-- The text of a value within values at other places; at most so deep. -/
def shown? (cells : Cells) (around : List Nat) : Nat → Nat → Option String
  | 0, _ => none
  | depth + 1, place => do
    let inner := shown? cells (place :: around) depth
    match cells[place]? with
    | none => none
    | some (.datum d) => d.shown?
    | some shape =>
      if around.contains place then return again shape
      match shape with
      | .list items => return "[" ++ commas (← items.mapM inner) ++ "]"
      | .pair a b => return "(" ++ commas [← inner a, ← inner b] ++ ")"
      | .set [] => return "set()"
      | .set items => return "\x7b" ++ commas (← items.mapM Datum.shown?) ++ "\x7d"
      | .map fields =>
        let texts ← fields.mapM fun f => return (← f.1.shown?) ++ ": " ++ (← inner f.2)
        return "\x7b" ++ commas texts ++ "\x7d"
      | .datum d => d.shown?

end Cells

namespace Value

/-- The text of a value. No value stands within more others than there are. -/
def shown? (v : Value) : Option String := Cells.shown? v.cells [] (v.cells.size + 2) v.place

/-- A value as text of its own. -/
def plain? (v : Value) : Option String :=
  match v.view with
  | .datum d => d.plain?
  | _ => v.shown?

/-- The name of a value's type. -/
def typeName (v : Value) : String :=
  match v.view with
  | .datum .null => "NoneType"
  | .datum (.bool _) => "bool"
  | .datum (.int _) => "int"
  | .datum (.float _) => "float"
  | .datum (.text _) => "str"
  | .datum (.bytes _) => "bytes"
  | .datum (.moment m) => if m.clock.isNone then "datetime.date" else "datetime.datetime"
  | .list _ => "list"
  | .pair _ _ => "tuple"
  | .set _ => "set"
  | .map _ => "dict"

end Value

end DifferentialDrive.Document
