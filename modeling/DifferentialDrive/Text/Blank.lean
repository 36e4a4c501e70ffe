/-!
# Blanks

Which characters stand for empty space: in plain text, and in all scripts.
-/

namespace DifferentialDrive.Text

/-- The space and the controls from the tabulator to the carriage return. -/
def isPlainBlank (c : Char) : Bool := c == ' ' || ('\t' ≤ c && c ≤ '\r')

/-- The blanks of all scripts, and the separators among the controls. -/
def isBlank (c : Char) : Bool :=
  isPlainBlank c || ('\x1c' ≤ c && c ≤ '\x1f') || c == '\x85' || c == '\xa0' ||
    c == '\u1680' || ('\u2000' ≤ c && c ≤ '\u200a') || c == '\u2028' || c == '\u2029' ||
    c == '\u202f' || c == '\u205f' || c == '\u3000'

/-- The text without the plain blanks at both ends. -/
def trimPlain (s : List Char) : List Char :=
  (((s.dropWhile isPlainBlank).reverse).dropWhile isPlainBlank).reverse

end DifferentialDrive.Text
