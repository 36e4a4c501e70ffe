/-!
# Letters

Text as it can be written with escapes: besides characters it may hold halves of those characters
that are written in two units of sixteen bits. A half that stands in such a text stays one, also
next to the other half.
-/

namespace DifferentialDrive.Text

inductive Letter where
  | char (c : Char)
  /-- One half of a character, by its code point. -/
  | half (code : Nat)
  deriving Repr, DecidableEq

abbrev Letters := List Letter

/-- The character of a letter; half a character is replaced. -/
def Letter.shape : Letter → Char
  | char c => c
  | half _ => '\ufffd'

/-- The letter with a code point. -/
def Letter.ofCode (n : Nat) : Letter :=
  if 0xd800 ≤ n && n < 0xe000 then half n else char (Char.ofNat n)

def Letter.isHalf : Letter → Bool
  | char _ => false
  | half _ => true

namespace Letters

def ofChars (s : List Char) : Letters := s.map .char

def ofString (s : String) : Letters := ofChars s.toList

/-- The characters of a text, with replacements for halves. -/
def chars (s : Letters) : List Char := s.map Letter.shape

def toString (s : Letters) : String := String.ofList (chars s)

/-- Whether a text is the given one. -/
def isText (s : Letters) (t : String) : Bool := s == ofString t

end Letters

end DifferentialDrive.Text
