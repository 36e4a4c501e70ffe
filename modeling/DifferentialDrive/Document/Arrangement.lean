import DifferentialDrive.Document.Datum

/-!
# The order of a set

The items of a set stand in a table, each at a place that follows from its number, or near to it
where that place is taken. They are gone through from place to place. Only numbers have a place of
their own; other items stay in the order of their appearance.
-/

namespace DifferentialDrive.Document

/-- Numbers of one remainder by this prime have one place. -/
def placeModulus : Nat := 0x1fffffffffffffff

/-- The number of an infinity. -/
def infinityPlace : Int := 314159

/-- A remainder with its sign. The number -1 is not given. -/
def signedPlace (negative : Bool) (remainder : Nat) : Int :=
  let n : Int := if negative then -remainder else remainder
  if n = -1 then -2 else n

/-- The number that a datum has its place by. Numbers of one value have one: half of a number is
its product with `2 ^ 60`, whose double leaves the remainder 1. -/
def Datum.place? : Datum → Option Int
  | bool b => some (if b then 1 else 0)
  | int n => some (signedPlace (n < 0) (n.natAbs % placeModulus))
  | float x =>
    match Binary64.Parts.ofFloat x with
    | .nan => none
    | .infinite negative => some (if negative then -infinityPlace else infinityPlace)
    | .finite negative significand exponent =>
      some (signedPlace negative (significand * Nat.pow 2 (exponent % 61).toNat % placeModulus))
  | _ => none

namespace Arrangement

/-- The size of a table for so many items: a power of two beyond their double, if there are more
than the smallest table takes. -/
def sizeFor (count : Nat) : Nat := if count ≤ 4 then 8 else Nat.pow 2 ((2 * count).log2 + 1)

/-- How many places behind one are tried before another part of the table. -/
def reach : Nat := 9

abbrev Table := Array (Option Datum)

/-- The first free place of a few. -/
def free? (table : Table) (first : Nat) : Nat → Option Nat
  | 0 => none
  | n + 1 => if table[first]?.any Option.isNone then some first else free? table (first + 1) n

/-- A free place for an item, from a place on. What is left of its number leads on from there. -/
def findFree (table : Table) (place left : Nat) : Nat → Option Nat
  | 0 => none
  | n + 1 =>
    let count := if place + reach < table.size then reach + 1 else 1
    match free? table place count with
    | some found => some found
    | none =>
      let left := left / 32
      findFree table ((5 * place + 1 + left) % table.size) left n

/-- The item in the table; its number is taken as a word of 64 bits. -/
def add (table : Table) (item : Datum × Int) : Table :=
  let word := (item.2 % 0x10000000000000000).toNat
  match findFree table (word % table.size) word (table.size + 64) with
  | some place => table.setIfInBounds place (some item.1)
  | none => table

end Arrangement

/-- Distinct items in the order in which they are gone through. -/
def arranged (items : List Datum) : List Datum :=
  match items.mapM fun d => d.place?.map (d, ·) with
  | none => items
  | some numbered =>
    let table := Array.replicate (Arrangement.sizeFor items.length) none
    (numbered.foldl Arrangement.add table).toList.reduceOption

example : arranged [.int 9, .int 1, .int 8] = [.int 8, .int 9, .int 1] := by
  rfl

end DifferentialDrive.Document
