import DifferentialDrive.Binary64.Parts
import DifferentialDrive.Document.Moment
import DifferentialDrive.Text.Letter

/-!
# Data

The values of a document that hold no others, which are also what the fields of a map are named
by. Numbers of one value are one key, whatever they are written as; a float that is not a number
is never the key it is compared with.
-/

namespace DifferentialDrive.Document

open Text

inductive Datum where
  | null
  | bool (b : Bool)
  | int (n : Int)
  | float (x : Float)
  | text (s : Letters)
  | bytes (bs : List UInt8)
  | moment (m : Moment)
  deriving Inhabited

namespace Datum

def ofText (s : String) : Datum := .text (.ofString s)

/-- Whether a datum counts as set: neither zero nor empty. -/
def isSet : Datum → Bool
  | null => false
  | bool b => b
  | int n => n != 0
  | float x => x != 0
  | text s => !s.isEmpty
  | bytes bs => !bs.isEmpty
  | moment _ => true

/-- A number that is whole. -/
def whole? : Datum → Option Int
  | bool b => some (if b then 1 else 0)
  | int n => some n
  | float x =>
    match Binary64.Parts.ofFloat x with
    | .finite negative significand exponent =>
      let (num, den) := Binary64.scaled significand 1 exponent
      if num % den = 0 then some (if negative then -(num / den : Nat) else (num / den : Nat))
      else none
    | _ => none
  | _ => none

/-- Whether two data are one key. -/
def isSameKey : Datum → Datum → Bool
  | null, null => true
  | text s, text t => s == t
  | bytes bs, bytes cs => bs == cs
  | moment m, moment n => m.isSame n
  | v, w =>
    match whole? v, whole? w with
    | some m, some n => m == n
    | none, none =>
      match v, w with
      | float x, float y => x == y
      | _, _ => false
    | _, _ => false

def isNamed (name : String) : Datum → Bool
  | text s => s.isText name
  | _ => false

end Datum

end DifferentialDrive.Document
