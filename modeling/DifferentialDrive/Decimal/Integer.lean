import DifferentialDrive.Decimal.Read
import DifferentialDrive.Text.Hexadecimal
import DifferentialDrive.Text.Quoted

/-!
# Reading and writing integers

Text of an integer in a base of at most sixteen: an optional sign, digits with single underscores
between them and blanks around the whole. In base ten the number of digits is limited, whether a
number is read or written; a number too long is refused before what stands behind its digits.
-/

namespace DifferentialDrive.Decimal

open Text

def isDigitIn (base : Nat) (c : Char) : Bool := (hexValue? c).any (· < base)

/-- Digits without the mark of their base. -/
def dropMark (base : Nat) : List Char → List Char
  | '0' :: c :: rest =>
    let marked := (base == 16 && (c == 'x' || c == 'X')) || (base == 8 && (c == 'o' || c == 'O')) ||
      (base == 2 && (c == 'b' || c == 'B'))
    if !marked then '0' :: c :: rest
    else if rest.head? == some '_' then rest.tail
    else rest
  | s => s

/-- Whether each underscore stands behind a digit and before one; `between` says whether a digit
came before. -/
def isSpaced (between : Bool) : List Char → Bool
  | [] => between
  | '_' :: rest => between && isSpaced false rest
  | _ :: rest => isSpaced true rest

def ofDigitsIn (base : Nat) (s : List Char) : Nat :=
  s.foldl (fun n c => n * base + (hexValue? c).getD 0) 0

/-- The most digits that are read or written in base ten. -/
def mostDigits : Nat := 4300

inductive IntegerFault where
  | invalid
  | tooLong (digits : Nat)
  deriving Repr, DecidableEq

/-- The wording of a limit on digits that something goes beyond. -/
def limitText (excess : String) : String :=
  s!"Exceeds the limit ({mostDigits} digits) for integer string conversion" ++ excess ++
    "; use sys.set_int_max_str_digits() to increase the limit"

/-- The wording for a text, as it is shown, that was read in a base; of a long one only the
beginning is shown. -/
def IntegerFault.message (base : Nat) (shown : String) : IntegerFault → String
  | invalid =>
    s!"invalid literal for int() with base {base}: " ++ String.ofList (shown.toList.take 200)
  | tooLong digits => limitText s!": value has {digits} digits"

def readInteger (base : Nat) (s : List Char) : Except IntegerFault Int :=
  let (negative, body) := splitSign (trimPlain (plainForm s))
  let body := dropMark base body
  let run := body.takeWhile fun c => isDigitIn base c || c == '_'
  let digits := run.filter (· != '_')
  if !isSpaced false run then .error .invalid
  else if base == 10 && mostDigits < digits.length then .error (.tooLong digits.length)
  else if run.length < body.length then .error .invalid
  else
    let n := ofDigitsIn base digits
    .ok (if negative then -(n : Int) else n)

/-- The digits of an integer, unless they are too many. -/
def integerText? (n : Int) : Option String :=
  let digits := toString n.natAbs
  if mostDigits < digits.length then none else some (toString n)

example : (readInteger 10 " -1_0 ".toList).toOption = some (-10) := by decide +kernel

end DifferentialDrive.Decimal
