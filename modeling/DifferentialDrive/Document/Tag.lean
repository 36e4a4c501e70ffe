import DifferentialDrive.Document.Moment

/-!
# Tags

The type of a node, written out or told from plain text: the words for nothing, true and false,
integers in base two, eight, ten, sixteen and sixty, floats, which need a point, moments, and the
marks for merging and for a default value. All other plain text is text.
-/

namespace DifferentialDrive.Document

inductive Tag where
  | null | bool | int | float | binary | moment
  | text | list | map | orderedMap | pairs | set
  /-- The key of fields to be taken over. -/
  | merge
  /-- The key of a map's own value. -/
  | value
  | other (name : String)
  deriving Repr, DecidableEq

namespace Tag

/-- What the tags that every document knows begin with. -/
def stem : String := "tag:yaml.org,2002:"

def names : List (String × Tag) :=
  [("null", null), ("bool", bool), ("int", int), ("float", float), ("binary", binary),
    ("timestamp", moment), ("str", text), ("seq", list), ("map", map), ("omap", orderedMap),
    ("pairs", pairs), ("set", set), ("merge", merge), ("value", value)]

def ofName (s : String) : Tag :=
  ((names.find? fun n => stem ++ n.1 == s).map (·.2)).getD (other s)

def name : Tag → String
  | other s => s
  | t => stem ++ ((names.find? fun n => n.2 == t).map (·.1)).getD ""

/-- Whether a node of the tag holds others. -/
def isCollection : Tag → Bool
  | list | map | orderedMap | pairs | set => true
  | _ => false

/-! ## Plain text -/

def isNull (s : String) : Bool := ["", "~", "null", "Null", "NULL"].contains s

def isTrue (s : String) : Bool :=
  ["true", "True", "TRUE", "yes", "Yes", "YES", "on", "On", "ON"].contains s

def isFalse (s : String) : Bool :=
  ["false", "False", "FALSE", "no", "No", "NO", "off", "Off", "OFF"].contains s

def dropSign : List Char → List Char
  | '-' :: s | '+' :: s => s
  | s => s

/-- Digits of a kind with underscores anywhere among them, at least one of either. -/
def isRun (isDigit : Char → Bool) (s : List Char) : Bool :=
  !s.isEmpty && s.all fun c => isDigit c || c == '_'

/-- A run that a digit begins. -/
def isNumber (s : List Char) : Bool := s.head?.any Char.isDigit && isRun Char.isDigit s

def isHexDigit (c : Char) : Bool := c.isDigit || ('a' ≤ c && c ≤ 'f') || ('A' ≤ c && c ≤ 'F')

/-- A number below sixty, in one or two digits. -/
def isSixtieth : List Char → Bool
  | [c] => c.isDigit
  | [c, d] => '0' ≤ c && c ≤ '5' && d.isDigit
  | _ => false

def splitColons : List Char → List (List Char)
  | [] => [[]]
  | c :: rest =>
    match c, splitColons rest with
    | ':', parts => [] :: parts
    | c, part :: parts => (c :: part) :: parts
    | c, [] => [[c]]

/-- A number before a colon and sixtieths after it. -/
def isSexagesimal (s : List Char) : Bool :=
  match splitColons s with
  | first :: second :: rest => isNumber first && (second :: rest).all isSixtieth
  | _ => false

def isInt (s : List Char) : Bool :=
  match dropSign s with
  | ['0'] => true
  | '0' :: 'b' :: s => isRun (fun c => c == '0' || c == '1') s
  | '0' :: 'x' :: s => isRun isHexDigit s
  | '0' :: s => isRun (fun c => '0' ≤ c && c ≤ '7') s
  | s => isNumber s || isSexagesimal s

/-- Nothing, or an exponent with its sign. -/
def isExponent : List Char → Bool
  | [] => true
  | e :: sign :: digits =>
    (e == 'e' || e == 'E') && (sign == '+' || sign == '-') &&
      !digits.isEmpty && digits.all Char.isDigit
  | _ => false

/-- A number with a point and perhaps an exponent. With no digit before the point there is one
after it, and no sign. -/
def isDecimal (s : List Char) : Bool :=
  let body := dropSign s
  let isPart (c : Char) : Bool := c.isDigit || c == '_'
  match body.dropWhile isPart with
  | '.' :: rest =>
    let whole := body.takeWhile isPart
    let leads (part : List Char) : Bool := part.head?.any Char.isDigit
    (leads whole || (whole.isEmpty && leads rest && body.length == s.length)) &&
      isExponent (rest.dropWhile isPart)
  | _ => false

/-- Sexagesimal digits with a point behind them. -/
def isSexagesimalDecimal (s : List Char) : Bool :=
  let body := dropSign s
  match body.dropWhile (· != '.') with
  | _ :: rest =>
    isSexagesimal (body.takeWhile (· != '.')) && rest.all fun c => c.isDigit || c == '_'
  | [] => false

def isFloat (s : List Char) : Bool :=
  isDecimal s || isSexagesimalDecimal s ||
    [".inf", ".Inf", ".INF"].contains (String.ofList (dropSign s)) ||
    [".nan", ".NaN", ".NAN"].contains (String.ofList s)

/-- A day has two digits for the month and two for the day unless a time follows. -/
def isMoment (s : List Char) : Bool :=
  (Moment.parse? s).any fun m => m.clock.isSome || s.length == 10

/-- The tag that plain text has by what it says. A line break at its end does not count. -/
def ofPlain (text : String) : Tag :=
  let s := text.toList
  let s := if s.getLast? == some '\n' && s.length != 1 then s.dropLast else s
  let word := String.ofList s
  if isNull word then null
  else if isTrue word || isFalse word then bool
  else if isFloat s then float
  else if isInt s then int
  else if isMoment s then moment
  else if word == "<<" then merge
  else if word == "=" then value
  else .text

example : ofPlain "1:30" = int ∧ ofPlain "1e3" = .text ∧ ofPlain "1.e+3" = float := by
  decide +kernel

end Tag

end DifferentialDrive.Document
