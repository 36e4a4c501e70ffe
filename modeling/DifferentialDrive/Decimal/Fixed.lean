import DifferentialDrive.Binary64.Parts

/-!
# Decimal text with fixed places

`fixed places x` is the value of `x` rounded to that many places after the point, a half going to
the even neighbour, with every digit before the point written out.
-/

namespace DifferentialDrive.Decimal

open Binary64

/-- The digits of `n`, with leading zeros where it has fewer than `width`. -/
def padded (width n : Nat) : String :=
  let digits := toString n
  "".pushn '0' (width - digits.length) ++ digits

def minus (negative : Bool) : String := if negative then "-" else ""

def fixed (places : Nat) (x : Float) : String :=
  match Parts.ofFloat x with
  | .nan => "nan"
  | .infinite negative => minus negative ++ "inf"
  | .finite negative m e =>
    let power := Nat.pow 10 places
    let (n, d) := scaled (m * power) 1 e
    let units := roundDiv n d
    let whole := toString (units / power)
    let fraction := if places == 0 then "" else "." ++ padded places (units % power)
    minus negative ++ whole ++ fraction

end DifferentialDrive.Decimal
