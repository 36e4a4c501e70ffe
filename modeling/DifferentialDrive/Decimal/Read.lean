import DifferentialDrive.Binary64.Parts
import DifferentialDrive.Text.Blank
import DifferentialDrive.Text.Digit

/-!
# Reading decimal text

`read?` accepts the decimal notation of a number: an optional sign, digits with at most one point
among them, an optional exponent, single underscores between digits, blanks around the whole, and
the names of the infinity and of the value that is not a number. Digits and blanks may be those of
any script. The number is rounded once.
-/

namespace DifferentialDrive.Decimal

open Binary64

/-- A decimal numeral: `digits * 10 ^ exponent` with a sign. -/
structure Numeral where
  negative : Bool
  digits : Nat
  exponent : Int

def digitValue (c : Char) : Nat := c.toNat - '0'.toNat

/-- The leading digits of a text and the rest after them. An underscore is let through between
two digits; `between` says whether a digit came before. -/
def digitRun (between : Bool) : List Char → List Char × List Char
  | [] => ([], [])
  | c :: rest =>
    if c.isDigit then
      let (ds, tail) := digitRun true rest
      (c :: ds, tail)
    else if between && c == '_' && rest.head?.any Char.isDigit then digitRun false rest
    else ([], c :: rest)

def ofDigits (ds : List Char) : Nat := ds.foldl (fun n c => 10 * n + digitValue c) 0

def splitSign : List Char → Bool × List Char
  | '-' :: rest => (true, rest)
  | '+' :: rest => (false, rest)
  | rest => (false, rest)

/-- The exponent that ends a numeral; nothing stands for zero. -/
def exponent? : List Char → Option Int
  | [] => some 0
  | c :: rest =>
    if c == 'e' || c == 'E' then
      let (negative, rest) := splitSign rest
      match digitRun false rest with
      | ([], _) => none
      | (ds, []) => some (if negative then -(ofDigits ds : Int) else ofDigits ds)
      | _ => none
    else none

/-- An unsigned numeral with digits before or after its point. -/
def numeral? (negative : Bool) (s : List Char) : Option Numeral :=
  let (whole, rest) := digitRun false s
  let (fraction, rest) :=
    match rest with
    | '.' :: rest => digitRun false rest
    | rest => ([], rest)
  if whole.isEmpty && fraction.isEmpty then none
  else (exponent? rest).map fun e =>
    ⟨negative, ofDigits (whole ++ fraction), e - fraction.length⟩

/-- The number nearest to a numeral. Beyond a thousand places either way only the infinity and
zero are near, so the power of ten is not computed there. -/
def Numeral.toFloat (n : Numeral) : Float :=
  let places : Int := (toString n.digits).length + n.exponent
  if n.digits == 0 || places < -1000 then nearest n.negative 0 1
  else if places > 1000 then Float.ofBits (signBit n.negative + infinityBits).toUInt64
  else if n.exponent < 0 then nearest n.negative n.digits (Nat.pow 10 n.exponent.natAbs)
  else nearest n.negative (n.digits * Nat.pow 10 n.exponent.natAbs) 1

/-- The plain character for one of another script: a blank for a blank, and a digit for a digit. -/
def plainChar? (c : Char) : Option Char :=
  if c.toNat < 127 then some c
  else if Text.isBlank c then some ' '
  else (Text.digit? c).map fun d => Char.ofNat (48 + d)

/-- Text with plain digits and blanks in place of those of other scripts. It ends at a character
that is neither, which is replaced by one that no number holds. -/
def plainForm (s : List Char) : List Char :=
  if s.all fun c => c.toNat < 128 then s else go s
where
  go : List Char → List Char
    | [] => []
    | c :: rest =>
      match plainChar? c with
      | some d => d :: go rest
      | none => ['?']

def readChars? (s : List Char) : Option Float :=
  let (negative, body) := splitSign (Text.trimPlain s)
  let name := String.ofList (body.map Char.toLower)
  if name == "inf" || name == "infinity" then
    some (Float.ofBits (signBit negative + infinityBits).toUInt64)
  else if name == "nan" then some (Float.ofBits 0x7ff8000000000000)
  else (numeral? negative body).map Numeral.toFloat

def read? (s : String) : Option Float := readChars? (plainForm s.toList)

end DifferentialDrive.Decimal
