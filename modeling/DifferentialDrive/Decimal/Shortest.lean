import DifferentialDrive.Decimal.Fixed

/-!
# Shortest decimal text

The fewest significant digits that read back as the same binary64 number, the nearest such
decimal where several have that many digits. `shortest` lays them out positionally where the
leading digit stands between the fourth place after the point and the sixteenth before it, and
with an exponent of two digits or more elsewhere.
-/

namespace DifferentialDrive.Decimal

open Binary64

/-- The numbers that read back as `significand * 2 ^ exponent`, in units of a quarter of its last
bit: from `low` to `high`, with the ends where the significand is even. -/
structure Interval where
  low : Nat
  value : Nat
  high : Nat
  closed : Bool

def Interval.of (significand : Nat) (exponent : Int) : Interval where
  low := 4 * significand - (if significand == hiddenBit && exponent > -1074 then 1 else 2)
  value := 4 * significand
  high := 4 * significand + 2
  closed := significand % 2 == 0

/-- `2 ^ binary / 10 ^ decimal` as a quotient of naturals. -/
def grid (binary decimal : Int) : Nat × Nat :=
  let (n, d) := scaled 1 1 binary
  let power := Nat.pow 10 decimal.natAbs
  if decimal < 0 then (n * power, d) else (n, d * power)

/-- A multiple of `10 ^ unit` that reads back as the number, the nearest if there are two. -/
def Interval.point? (i : Interval) (exponent unit : Int) : Option Nat :=
  let (n, d) := grid (exponent - 2) unit
  let within (c : Nat) : Bool :=
    if i.closed then i.low * n ≤ c * d && c * d ≤ i.high * n
    else i.low * n < c * d && c * d < i.high * n
  let below := i.value * n / d
  let above := below + 1
  let downward := 2 * (i.value * n % d)
  match within below, within above with
  | true, true =>
    if downward < d || (downward == d && below % 2 == 0) then some below else some above
  | true, false => some below
  | false, true => some above
  | false, false => none

/-- The power of ten of the leading digit of `num / den`, searched upward from a lower bound. -/
def leading (num den : Nat) : Int :=
  let start : Int := ((num.log2 : Int) - (den.log2 : Int) - 1) * 30103 / 100000 - 1
  let reaches (k : Int) : Bool :=
    let power := Nat.pow 10 k.natAbs
    if k < 0 then num * power ≥ den else num ≥ den * power
  [3, 2, 1].foldr (fun (step : Nat) k => if reaches (start + step) then start + step else k) start

/-- Digits without trailing zeros, and the power of ten of the last one. -/
def stripZeros : Nat → Nat → Int → Nat × Int
  | 0, digits, unit => (digits, unit)
  | fuel + 1, digits, unit =>
    if digits % 10 == 0 then stripZeros fuel (digits / 10) (unit + 1) else (digits, unit)

/-- The shortest digits of a positive number and the power of ten of the last of them. -/
def digits (significand : Nat) (exponent : Int) : Nat × Int :=
  let (n, d) := scaled significand 1 exponent
  let top := leading n d
  let interval := Interval.of significand exponent
  let found := (List.range 17).findSome? fun (count : Nat) =>
    let unit := top - Int.ofNat count
    (interval.point? exponent unit).map fun c => (c, unit)
  let (c, unit) := found.getD (0, 0)
  stripZeros 20 c unit

/-- Digits with the point where the power of ten of the last digit puts it. -/
def positional (text : String) (unit : Int) : String :=
  if unit ≥ 0 then text ++ "".pushn '0' unit.toNat ++ ".0"
  else
    let places := unit.natAbs
    let text := "".pushn '0' (places + 1 - text.length) ++ text
    let whole := text.length - places
    (text.take whole).toString ++ "." ++ (text.drop whole).toString

/-- Digits with the point after the first and an exponent. -/
def exponential (text : String) (power : Int) : String :=
  let rest := (text.drop 1).toString
  let mantissa := (text.take 1).toString ++ (if rest.isEmpty then "" else "." ++ rest)
  mantissa ++ "e" ++ (if power < 0 then "-" else "+") ++ padded 2 power.natAbs

def shortest (x : Float) : String :=
  match Parts.ofFloat x with
  | .nan => "nan"
  | .infinite negative => minus negative ++ "inf"
  | .finite negative 0 _ => minus negative ++ "0.0"
  | .finite negative m e =>
    let (c, unit) := digits m e
    let text := toString c
    let power := unit + text.length - 1
    minus negative ++
      (if -4 ≤ power && power < 16 then positional text unit else exponential text power)

end DifferentialDrive.Decimal
