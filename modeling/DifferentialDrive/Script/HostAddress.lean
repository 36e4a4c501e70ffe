import DifferentialDrive.Text.Hexadecimal

/-!
# Addresses of hosts

The numeric addresses: four numbers between points, or eight groups of hexadecimal digits between
colons, where two colons in a row stand for groups of zero and the last two groups may be written
with points.
-/

namespace DifferentialDrive.Text.HostAddress

/-- The pieces of a text between a character. -/
def pieces (mark : Char) : List Char → List (List Char)
  | [] => [[]]
  | c :: rest =>
    match pieces mark rest with
    | [] => [[c]]
    | piece :: more => if c == mark then [] :: piece :: more else (c :: piece) :: more

/-- A number below 256 without leading zeros. -/
def isOctet (s : List Char) : Bool :=
  !s.isEmpty && s.length ≤ 3 && s.all Char.isDigit && (s == ['0'] || s.head? != some '0') &&
    s.foldl (fun n c => 10 * n + (c.toNat - 48)) 0 ≤ 255

def isPointed (s : List Char) : Bool :=
  let octets := pieces '.' s
  octets.length == 4 && octets.all isOctet

/-- Up to four hexadecimal digits. -/
def isGroup (s : List Char) : Bool := s.length ≤ 4 && s.all fun c => (hexValue? c).isSome

/-- Whether groups make up an address. One of them may be empty, for as many zeros as are missing;
one that is empty at either end has to stand next to it. -/
def isWhole (groups : List (List Char)) : Bool :=
  let inner := (groups.drop 1).dropLast
  let gaps := inner.countP List.isEmpty
  let firstEmpty := groups.head?.any List.isEmpty
  let lastEmpty := groups.getLast?.any List.isEmpty
  let filled := groups.countP fun g => !g.isEmpty
  groups.all isGroup &&
    if gaps = 0 then groups.length == 8 && !firstEmpty && !lastEmpty
    else
      gaps == 1 && filled < 8 && (!firstEmpty || inner.head?.any List.isEmpty) &&
        (!lastEmpty || inner.getLast?.any List.isEmpty)

/-- The address without its zone, which follows a percent sign. -/
def withoutZone? (s : List Char) : Option (List Char) :=
  let zone := s.dropWhile (· != '%')
  if zone.isEmpty || (zone.length != 1 && !zone.tail.contains '%') then
    some (s.takeWhile (· != '%'))
  else none

def isGrouped (s : List Char) : Bool :=
  (withoutZone? s).any fun s =>
    let groups := pieces ':' s
    let last := groups.getLast?.getD []
    3 ≤ groups.length &&
      if last.contains '.' then
        isPointed last && groups.length ≤ 8 && isWhole (groups.dropLast ++ [['0'], ['0']])
      else groups.length ≤ 9 && isWhole groups

example : isGrouped "::1".toList ∧ ¬ isGrouped "1:::2".toList := by decide +kernel

end DifferentialDrive.Text.HostAddress
