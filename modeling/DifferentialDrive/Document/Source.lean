import DifferentialDrive.Document.Meaning

/-!
# The text of a document

A text holds at most one document. Its lines may end in any of the usual ways; most control
characters may not stand in it at all. A text is looked at in windows, each as a whole, and a
character that may not stand in one is met by whoever looks into that window.
-/

namespace DifferentialDrive.Document

/-- The text with a line feed for every end of a line. -/
def unifyLines : List Char → List Char
  | '\r' :: '\n' :: rest => '\n' :: unifyLines rest
  | '\r' :: rest => '\n' :: unifyLines rest
  | c :: rest => c :: unifyLines rest
  | [] => []

/-- Whether a character may stand in a document. -/
def isAcceptable (c : Char) : Bool :=
  c == '\t' || c == '\n' || c == '\r' || (' ' ≤ c && c ≤ '~') || c == '\x85' ||
    ('\xa0' ≤ c && c != '\ufffe' && c != '\uffff')

/-- The size of a window; the first is of two. -/
def windowSize : Nat := 4096

/-- Where the window begins that a place lies in. -/
def windowStart (place : Nat) : Nat :=
  if place < 2 * windowSize then 0 else place / windowSize * windowSize

/-- The part of a text that can be looked at, and what is wrong behind it. -/
def sight (s : List Char) : List Char × Option Fault :=
  let place := (s.takeWhile isAcceptable).length
  match s.drop place with
  | [] => (s, none)
  | c :: _ => (s.take (windowStart place), some (.unacceptable c.toNat place))

/-- The value of a text; without a document it is nothing. -/
def read (text : String) : Except Fault Value := do
  let (s, beyond) := sight (unifyLines text.toList)
  match ← Graph.ofTokens (Tokens.ofText s beyond) with
  | none => return .ofDatum .null
  | some g => g.meaning

end DifferentialDrive.Document
