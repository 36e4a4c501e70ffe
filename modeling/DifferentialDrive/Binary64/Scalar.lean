import DifferentialDrive.Binary64.Parts
import DifferentialDrive.Scalar

/-!
# Binary64 scalars

Binary64 as the scalars the robot runs on. Sums, products and quotients are the machine's; the
remainder and the conversions to integers are computed exactly on the integers of `Parts` and
rounded once; the length of a vector carries along what each step lost.
-/

namespace DifferentialDrive.Binary64

def nan : Float := Float.ofBits 0x7ff8000000000000

/-- The integer part of `significand * 2 ^ exponent`. -/
def wholePart (significand : Nat) (exponent : Int) : Nat :=
  let (n, d) := scaled significand 1 exponent
  n / d

def signed (negative : Bool) (n : Nat) : Int := if negative then -(n : Int) else n

def truncate (x : Float) : Int :=
  match Parts.ofFloat x with
  | .finite negative m e => signed negative (wholePart m e)
  | _ => 0

def nearestInt (x : Float) : Int :=
  match Parts.ofFloat x with
  | .finite negative m e =>
    let (n, d) := scaled m 1 e
    signed negative (roundDiv n d)
  | _ => 0

/-- The remainder toward zero; it is exact, so no rounding takes place. -/
def remainder (x y : Float) : Float :=
  match Parts.ofFloat x, Parts.ofFloat y with
  | .finite negative m e, .finite _ k f =>
    if k == 0 then nan
    else
      let g := min e f
      ofScaled negative (m * Nat.pow 2 (e - g).toNat % (k * Nat.pow 2 (f - g).toNat)) g
  | .finite .., .infinite _ => x
  | _, _ => nan

/-! ## The length of a vector -/

/-- A number as the sum of two with half as many significand bits. -/
def split (x : Float) : Float × Float :=
  let t := x * 134217729.0
  let high := t - (t - x)
  (high, x - high)

/-- A product and what its rounding lost. -/
def product (x y : Float) : Float × Float :=
  let (a, b) := split x
  let (c, d) := split y
  let high := a * c
  let middle := a * d + b * c
  let z := high + middle
  (z, high - z + middle + b * d)

/-- A sum of a number and a smaller one, and what its rounding lost. -/
def sum (x y : Float) : Float × Float :=
  let z := x + y
  (z, x - z + y)

/-- The least `k` with `x < 2 ^ k`, for a positive number. -/
def binade (x : Float) : Int :=
  match Parts.ofFloat x with
  | .finite _ m e => e + (m.log2 : Int) + 1
  | _ => 0

/-- A running sum that began at one, and two sums of what rounding lost. -/
structure Carried where
  total : Float := 1
  lostSquaring : Float := 0
  lostAdding : Float := 0

def Carried.add (c : Carried) (x y : Float) : Carried :=
  let (square, lost) := product x y
  let (total, rest) := sum c.total square
  ⟨total, c.lostSquaring + lost, c.lostAdding + rest⟩

def Carried.value (c : Carried) : Float := c.total - 1 + (c.lostSquaring + c.lostAdding)

/-- The length of a vector whose components are less than one. The root is corrected once by what
is left of the sum when its square is taken away. -/
def scaledLength (x y : Float) : Float :=
  let squares := (({} : Carried).add x x).add y y
  let root := squares.value.sqrt
  root + (squares.add (-root) root).value / (2 * root)

/-- The length of a vector whose longer component has no full significand. -/
def tinyLength (x y longer : Float) : Float :=
  let add (total : Float × Float) (x : Float) : Float × Float :=
    let square := x / longer * (x / longer)
    let next := total.1 + square
    (next, total.2 + (total.1 - next + square))
  let (total, lost) := add (add (1, 0) x) y
  longer * (total - 1 + lost).sqrt

/-- The length of the vector `(x, y)`; an infinite component outweighs one that is not a
number. The components are scaled by a power of two, which is exact. -/
def hypot (x y : Float) : Float :=
  let x := x.abs
  let y := y.abs
  if x.isInf || y.isInf then Float.ofBits infinityBits.toUInt64
  else if x.isNaN || y.isNaN then nan
  else
    let longer := if x < y then y else x
    if longer == 0 then longer
    else
      let k := binade longer
      if k < -1023 then tinyLength x y longer
      else
        let scale := ofScaled false 1 (-k)
        scaledLength (x * scale) (y * scale) / scale

/-- The machine's power function. Squares go through it because its last bit need not be that of
the product; it stays a call, so that it is not turned into one. -/
@[noinline] def power (x : Float) (exponent : Nat) : Float := x.pow (ofInt exponent)

instance : Scalar Float where
  decidableLT := inferInstance
  decidableLE := inferInstance
  ofInt := ofInt
  ratio m n := nearest ((m < 0) != (n < 0)) m.natAbs n.natAbs
  pi := Float.ofBits 0x400921fb54442d18
  abs := Float.abs
  sin := Float.sin
  cos := Float.cos
  square x := power x 2
  hypot := hypot
  remainder := remainder
  truncate := truncate
  nearest := nearestInt
  isNaN := Float.isNaN
  isInfinite := Float.isInf

end DifferentialDrive.Binary64
