/-!
# Hexadecimal text
-/

namespace DifferentialDrive.Text

/-- Hexadecimal digits in capitals, at least `width` characters with the sign. -/
def hexadecimal (width : Nat) (n : Int) : String :=
  let digits := String.ofList ((Nat.toDigits 16 n.natAbs).map Char.toUpper)
  let sign := if n < 0 then "-" else ""
  sign ++ "".pushn '0' (width - sign.length - digits.length) ++ digits

/-- The value of a hexadecimal digit. -/
def hexValue? (c : Char) : Option Nat :=
  if c.isDigit then some (c.toNat - 48)
  else if 'a' ≤ c && c ≤ 'f' then some (c.toNat - 87)
  else if 'A' ≤ c && c ≤ 'F' then some (c.toNat - 55)
  else none

end DifferentialDrive.Text
