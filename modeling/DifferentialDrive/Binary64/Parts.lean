/-!
# Binary64 numbers as integers

A finite binary64 number is an integer times a power of two. `Parts.ofFloat` reads that form from
the bits and `nearest` goes back from any quotient of naturals, rounding once, to the nearest
number and on a tie to the one with the even significand.
-/

namespace DifferentialDrive.Binary64

/-- What the bits of a binary64 number say; a finite one is `significand * 2 ^ exponent`. -/
inductive Parts where
  | nan
  | infinite (negative : Bool)
  | finite (negative : Bool) (significand : Nat) (exponent : Int)
  deriving Repr, DecidableEq

/-- The bit of a significand above its 52 bits of fraction. It is not written: it is there unless
the exponent is the least. -/
def hiddenBit : Nat := 0x10000000000000

def Parts.ofFloat (x : Float) : Parts :=
  let bits : Nat := x.toBits.toNat
  let negative := bits / 0x8000000000000000 == 1
  let field : Nat := bits / hiddenBit % 2048
  let fraction := bits % hiddenBit
  if field == 2047 then
    if fraction == 0 then .infinite negative else .nan
  else if field == 0 then .finite negative fraction (-1074)
  else .finite negative (fraction + hiddenBit) (Int.ofNat field - 1075)

/-- The nearest natural to `num / den`, a half going to the even neighbour. -/
def roundDiv (num den : Nat) : Nat :=
  let q := num / den
  let twice := 2 * (num % den)
  if twice > den || (twice == den && q % 2 == 1) then q + 1 else q

/-- `num / den` as a quotient with the factor `2 ^ exponent` moved to where it is an integer. -/
def scaled (num den : Nat) (exponent : Int) : Nat × Nat :=
  if exponent < 0 then (num, den * Nat.pow 2 exponent.natAbs)
  else (num * Nat.pow 2 exponent.natAbs, den)

/-- The sign bit and the bits of the infinity. -/
def signBit (negative : Bool) : Nat := if negative then 0x8000000000000000 else 0
def infinityBits : Nat := 2047 * hiddenBit

/-- The binary64 number nearest to `num / den`, with the given sign. -/
def nearest (negative : Bool) (num den : Nat) : Float :=
  if num == 0 then Float.ofBits (signBit negative).toUInt64
  else
    let guess : Int := (num.log2 : Int) - (den.log2 : Int) - 53
    let (n, d) := scaled num den (-guess)
    let exponent := max (if n / d ≥ 2 * hiddenBit then guess + 1 else guess) (-1074)
    let (n, d) := scaled num den (-exponent)
    let bits := (exponent + 1074).toNat * hiddenBit + roundDiv n d
    Float.ofBits (signBit negative + min bits infinityBits).toUInt64

/-- The number nearest to `significand * 2 ^ exponent`. -/
def ofScaled (negative : Bool) (significand : Nat) (exponent : Int) : Float :=
  let (n, d) := scaled significand 1 exponent
  nearest negative n d

def ofInt (n : Int) : Float := nearest (n < 0) n.natAbs 1

end DifferentialDrive.Binary64
