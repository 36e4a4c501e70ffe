/-!
# Bytes in base sixty-four

Four characters stand for three bytes; the last group may be filled up with equals signs.
Characters outside the alphabet do not count.
-/

namespace DifferentialDrive.Text.Base64

inductive Flaw where
  /-- The last group lacks characters. -/
  | unfilled
  /-- One character is left over, the last of so many. -/
  | leftOver (count : Nat)
  deriving Repr, DecidableEq

def value? (c : Char) : Option Nat :=
  if c.isUpper then some (c.toNat - 65)
  else if c.isLower then some (c.toNat - 71)
  else if c.isDigit then some (c.toNat + 4)
  else if c == '+' then some 62
  else if c == '/' then some 63
  else none

/-- The values up to the signs that fill up the last group, and whether there are enough of
them. -/
def values (place pads : Nat) : List Char → List Nat × Bool
  | [] => ([], false)
  | c :: rest =>
    if c == '=' then
      if 2 ≤ place % 4 && 4 ≤ place % 4 + pads + 1 then ([], true)
      else values place (pads + if 2 ≤ place % 4 then 1 else 0) rest
    else
      match value? c with
      | none => values place pads rest
      | some v =>
        let (vs, filled) := values (place + 1) 0 rest
        (v :: vs, filled)

def bytes : List Nat → List UInt8
  | a :: b :: c :: d :: rest =>
    let n := ((a * 64 + b) * 64 + c) * 64 + d
    (n / 65536).toUInt8 :: (n / 256).toUInt8 :: n.toUInt8 :: bytes rest
  | [a, b, c] =>
    let n := (a * 64 + b) * 64 + c
    [(n / 1024).toUInt8, (n / 4).toUInt8]
  | [a, b] => [((a * 64 + b) / 16).toUInt8]
  | _ => []

def decode (s : List Char) : Except Flaw (List UInt8) :=
  let (vs, filled) := values 0 0 s
  if filled || vs.length % 4 = 0 then .ok (bytes vs)
  else if vs.length % 4 = 1 then .error (.leftOver vs.length)
  else .error .unfilled

example : (decode "YWJj".toList).toOption = some [97, 98, 99] := by decide +kernel

end DifferentialDrive.Text.Base64
