/-!
# Bytes of text

Each character is one to four bytes: a leading byte says how many, and within which bounds the
second one lies. `decode` gives the text of bytes or the first place where they are none.
-/

namespace DifferentialDrive.Text.Utf8

inductive Reason where
  | badStart | badTail | cutOff
  deriving Repr, DecidableEq

/-- Where bytes are no text: from `place` on, for `count` bytes. -/
structure Flaw where
  place : Nat
  count : Nat
  reason : Reason
  deriving Repr, DecidableEq

/-- What a leading byte gives of the character, and the bounds of the bytes after it. -/
def lead? (b : Nat) : Option (Nat × List (Nat × Nat)) :=
  let tail := (0x80, 0xbf)
  if b < 0x80 then some (b, [])
  else if b < 0xc2 then none
  else if b < 0xe0 then some (b - 0xc0, [tail])
  else if b < 0xf0 then
    let second := if b = 0xe0 then (0xa0, 0xbf) else if b = 0xed then (0x80, 0x9f) else tail
    some (b - 0xe0, [second, tail])
  else if b < 0xf5 then
    let second := if b = 0xf0 then (0x90, 0xbf) else if b = 0xf4 then (0x80, 0x8f) else tail
    some (b - 0xf0, [second, tail, tail])
  else none

/-- The code point that goes on from `n`, and how many bytes it took. -/
def tails (n taken : Nat) : List (Nat × Nat) → List Nat → Except (Nat × Reason) (Nat × Nat)
  | [], _ => .ok (n, taken)
  | _ :: _, [] => .error (taken, .cutOff)
  | (low, high) :: bounds, b :: rest =>
    if low ≤ b && b ≤ high then tails (n * 64 + (b - 0x80)) (taken + 1) bounds rest
    else .error (taken, .badTail)

/-- Goes through the bytes from a place on; `skip` of them belong to the character before. -/
def go (place skip : Nat) : List Nat → Except Flaw (List Char)
  | [] => .ok []
  | b :: rest =>
    match skip with
    | skip + 1 => go (place + 1) skip rest
    | 0 =>
      match lead? b with
      | none => .error ⟨place, 1, .badStart⟩
      | some (n, bounds) =>
        match tails n 1 bounds rest with
        | .error (count, reason) => .error ⟨place, count, reason⟩
        | .ok (n, taken) => (go (place + 1) (taken - 1) rest).map (Char.ofNat n :: ·)

def decode (bytes : List Nat) : Except Flaw (List Char) := go 0 0 bytes

/-- The text of bytes with a replacement for each flaw. -/
def decodeAnyway (bytes : List Nat) : List Char := mend bytes.length bytes
where
  mend : Nat → List Nat → List Char
    | 0, _ => []
    | n + 1, bytes =>
      match decode bytes with
      | .ok s => s
      | .error flaw =>
        let sound := (decode (bytes.take flaw.place)).toOption.getD []
        sound ++ '\ufffd' :: mend n (bytes.drop (flaw.place + flaw.count))

example : (decode [0x61, 0xe2, 0x82, 0xac]).toOption = some [Char.ofNat 97, Char.ofNat 0x20ac] := by
  decide

end DifferentialDrive.Text.Utf8
