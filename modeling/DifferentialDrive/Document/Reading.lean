import DifferentialDrive.Binary64.Scalar
import DifferentialDrive.Document.Fault
import DifferentialDrive.Document.Tag
import DifferentialDrive.Scalar
import DifferentialDrive.Text.Lowercase

/-!
# Reading data

What the text of a node says, by the tag of the node: integers and floats with signs, underscores
and sexagesimal places, the words for true and false, moments and bytes.
-/

namespace DifferentialDrive.Document

open DifferentialDrive.Text

def dropUnderscores (s : Letters) : Letters := s.filter (· != .char '_')

/-- The sign before a number and what stands behind it. -/
def signed (s : Letters) : Except ValueFault (Bool × Letters) :=
  match s with
  | [] => .error .noDigits
  | .char '-' :: rest => .ok (true, rest)
  | .char '+' :: rest => .ok (false, rest)
  | s => .ok (false, s)

def splitColons : Letters → List Letters
  | [] => [[]]
  | c :: rest =>
    match splitColons rest with
    | part :: parts => if c == .char ':' then [] :: part :: parts else (c :: part) :: parts
    | [] => [[c]]

def hasColon (s : Letters) : Bool := s.contains (.char ':')

def integerIn (base : Nat) (s : Letters) : Except ValueFault Int :=
  (Decimal.readInteger base (Letters.chars s)).mapError (.integer base s)

def readInt (s : Letters) : Except ValueFault Int := do
  let (negative, body) ← signed (dropUnderscores s)
  let n ←
    match body with
    | [] => .error .noDigits
    | .char '0' :: .char 'b' :: digits => integerIn 2 digits
    | .char '0' :: .char 'x' :: digits => integerIn 16 digits
    | .char '0' :: _ :: _ => integerIn 8 body
    | _ =>
      if hasColon body then do
        let parts ← (splitColons body).mapM (integerIn 10)
        pure (parts.foldl (fun n d => 60 * n + d) 0)
      else integerIn 10 body
  return if negative then -n else n

def floatIn (s : Letters) : Except ValueFault Float :=
  ((Decimal.readChars? (Decimal.plainForm (Letters.chars s))).map .ok).getD (.error (.float s))

/-- The sum of digits in base sixty, the least of which comes first; the next stands for `unit`. -/
def sixties (sum : Float) (unit : Int) : List Float → Except ValueFault Float
  | [] => .ok sum
  | d :: rest => do
    let unitScalar ← (Scalar.ofInteger unit : Except (DifferentialDrive.Fault Float) Float).mapError
      fun _ => .numberTooLarge
    sixties (sum + d * unitScalar) (60 * unit) rest

/-- The word for what is not a number, behind its point. It is the same float wherever it is
written. -/
def isNaNWord (s : Letters) : Bool := s.isText ".nan"

def readFloat (s : Letters) : Except ValueFault Float := do
  let (negative, body) ← signed (lowercase (dropUnderscores s))
  let x ←
    if body.isText ".inf" || isNaNWord body then floatIn body.tail
    else if hasColon body then do
      let parts ← (splitColons body).mapM floatIn
      sixties 0 1 parts.reverse
    else floatIn body
  return if negative then -x else x

/-- Whether a text is one of the ways to write what is not a number. -/
def writesNaN (s : Letters) : Bool :=
  match signed (lowercase (dropUnderscores s)) with
  | .ok (_, body) => isNaNWord body
  | .error _ => false

def readTruth (s : Letters) : Except ValueFault Bool :=
  let word := lowercase s
  if Tag.isTrue word.toString then .ok true
  else if Tag.isFalse word.toString then .ok false
  else .error (.truth word)

def readMoment (s : Letters) : Except ValueFault Moment :=
  let cs := Letters.chars s
  match Moment.parse? (if cs.getLast? == some '\n' then cs.dropLast else cs) with
  | none => .error .noMoment
  | some m =>
    match m.limit? with
    | some limit => .error (.moment limit)
    | none => .ok m

def readBytes (s : Letters) : Except Problem (List UInt8) :=
  let isPlain (l : Letter) : Bool := l.shape.toNat < 128
  match s.dropWhile isPlain with
  | l :: rest =>
    let count := 1 + (rest.takeWhile fun l => !isPlain l).length
    .error (.notPlain l (s.takeWhile isPlain).length count)
  | [] => (Base64.decode (Letters.chars s)).mapError .notBase64

end DifferentialDrive.Document
