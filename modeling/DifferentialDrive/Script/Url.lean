import DifferentialDrive.Script.HostAddress
import DifferentialDrive.Text.Letter
import DifferentialDrive.Text.Lowercase
import DifferentialDrive.Text.Utf8

/-!
# Addresses with a scheme

An address is taken apart at the marks between its parts: the scheme, the authority with the host,
the path, and the query with its options. Within a query a plus sign stands for a space, and a
percent sign with two digits for a byte.
-/

namespace DifferentialDrive.Text

structure Url where
  scheme : Letters
  authority : Letters
  path : Letters
  query : Letters
  deriving Repr, DecidableEq

namespace Url

inductive Flaw where
  | brackets
  /-- An address of a version to come that has no such form. -/
  | version
  /-- Four numbers where brackets ask for groups. -/
  | pointed
  /-- No address between brackets. -/
  | noAddress (host : Letters)
  /-- Another writing of one of the marks. -/
  | disguised (authority : Letters)
  deriving Repr, DecidableEq

/-- The text before the first of a character, and what stands behind it. -/
def cut (c : Char) (s : Letters) : Letters × Option Letters :=
  let before := s.takeWhile (· != .char c)
  (before, if before.length < s.length then some (s.drop (before.length + 1)) else none)

/-- What stands behind the last of a character, or everything. -/
def behindLast (c : Char) (s : Letters) : Letters :=
  (s.reverse.takeWhile (· != .char c)).reverse

/-- Characters that other characters are made up of in part, and that would be taken for marks. -/
def disguises : List Char :=
  ['\u2047', '\u2048', '\u2049', '\u2100', '\u2101', '\u2105', '\u2106', '\u2a74', '\ufe13',
    '\ufe16', '\ufe55', '\ufe56', '\ufe5f', '\ufe6b', '\uff03', '\uff0f', '\uff1a', '\uff1f',
    '\uff20']

/-- Checks a version, a point and anything else. -/
def checkVersion (s : List Char) : Except Flaw Unit :=
  let digits := s.tail.takeWhile fun c => (hexValue? c).isSome
  match s.drop (1 + digits.length) with
  | '.' :: _ :: _ => if digits.isEmpty then .error .version else .ok ()
  | _ => .error .version

/-- Checks what stands between brackets. -/
def checkBracketed (host : Letters) : Except Flaw Unit :=
  let s := Letters.chars host
  if s.head? == some 'v' then checkVersion s
  else if HostAddress.isPointed s then .error .pointed
  else if HostAddress.isGrouped s then .ok ()
  else .error (.noAddress host)

/-- The host of an authority and the number behind it, without the name of a user. -/
def hostAndNumber (authority : Letters) : Letters × Letters :=
  let s := behindLast '@' authority
  match (cut '[' s).2 with
  | some bracketed =>
    let (host, after) := cut ']' bracketed
    (host, ((cut ':' (after.getD [])).2).getD [])
  | none =>
    let (host, number) := cut ':' s
    (host, number.getD [])

/-- Checks an authority with brackets in it. Nothing stands before them, and behind them only a
number. -/
def checkBrackets (authority : Letters) : Except Flaw Unit := do
  let (before, bracketed) := cut '[' (behindLast '@' authority)
  if let some bracketed := bracketed then
    let after := ((cut ']' bracketed).2).getD []
    if !before.isEmpty || !(after.isEmpty || after.head? == some (.char ':')) then throw .brackets
  checkBracketed (hostAndNumber authority).1

def checkAuthority (authority : Letters) : Except Flaw Unit := do
  let opens := authority.contains (.char '[')
  if opens != authority.contains (.char ']') then throw .brackets
  if opens then checkBrackets authority

def checkDisguises (authority : Letters) : Except Flaw Unit :=
  if authority.any fun l => disguises.contains l.shape then .error (.disguised authority)
  else .ok ()

def isSchemeChar (c : Char) : Bool := c.isAlphanum || "+-.".contains c

/-- The scheme and what stands behind its colon. -/
def splitScheme (s : Letters) : Letters × Letters :=
  match cut ':' s with
  | (name, some rest) =>
    let cs := Letters.chars name
    if cs.head?.any Char.isAlpha && cs.all isSchemeChar then (lowercase name, rest) else ([], s)
  | _ => ([], s)

/-- The authority, which two slashes open, and what stands behind it. -/
def splitAuthority (s : Letters) : Letters × Letters :=
  match s with
  | .char '/' :: .char '/' :: rest =>
    let isPart (l : Letter) : Bool := !"/?#".contains l.shape
    (rest.takeWhile isPart, rest.dropWhile isPart)
  | s => ([], s)

/-- An address in parts. Controls before it do not count, nor do tabulators and ends of lines. -/
def split (s : Letters) : Except Flaw Url := do
  let s := s.dropWhile fun l => l.shape ≤ ' '
  let s := s.filter fun l => !"\t\r\n".contains l.shape
  let (scheme, s) := splitScheme s
  let (authority, s) := splitAuthority s
  checkAuthority authority
  let (path, query) := cut '?' (cut '#' s).1
  checkDisguises authority
  return ⟨scheme, authority, path, query.getD []⟩

/-! ## Options -/

/-- The bytes of plain text with its escapes undone. -/
def unescapedBytes : List Char → List Nat
  | [] => []
  | '%' :: a :: b :: rest =>
    match hexValue? a, hexValue? b with
    | some high, some low => (16 * high + low) :: unescapedBytes rest
    | _, _ => 0x25 :: unescapedBytes (a :: b :: rest)
  | c :: rest => c.toNat :: unescapedBytes rest

def isPlain (l : Letter) : Bool := l.shape.toNat < 128

/-- Text with its escapes undone, each plain stretch by itself; `plain` is the one before, last
letter first. -/
def unescaped (plain : List Char) : Letters → Letters
  | [] => flush plain
  | l :: rest =>
    if isPlain l then unescaped (l.shape :: plain) rest else flush plain ++ l :: unescaped [] rest
where
  flush (plain : List Char) : Letters :=
    .ofChars (Utf8.decodeAnyway (unescapedBytes plain.reverse))

/-- What a piece of a query says. -/
def said (s : Letters) : Letters :=
  unescaped [] (s.map fun l => if l == .char '+' then .char ' ' else l)

def pieces (c : Char) : Letters → List Letters
  | [] => [[]]
  | l :: rest =>
    match pieces c rest with
    | [] => [[l]]
    | piece :: more => if l == .char c then [] :: piece :: more else (l :: piece) :: more

/-- The options of a query with their values, in order. Of one that stands there twice the first
value counts. -/
def options (query : Letters) : List (Letters × Letters) :=
  let all := ((pieces '&' query).filter (!·.isEmpty)).map fun s =>
    let (name, value) := cut '=' s
    (said name, said (value.getD []))
  all.foldl (fun seen o => if seen.any (·.1 == o.1) then seen else seen ++ [o]) []

end Url

end DifferentialDrive.Text
