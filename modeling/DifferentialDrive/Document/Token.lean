import DifferentialDrive.Document.Directive

/-!
# Tokens

The words that a document is made of. Where indentation opens and closes a list or a map there are
tokens of their own for it, as there are for the braces and brackets of the flow notation.
-/

namespace DifferentialDrive.Document

inductive TokenKind where
  | directive (d : Directive)
  | documentStart | documentEnd | streamEnd
  | blockListStart | blockMapStart | blockEnd
  | flowListStart | flowListEnd | flowMapStart | flowMapEnd
  | entry | comma | key | value
  | mention (name : String)
  | anchor (name : String)
  | tag (handle : Option String) (rest : String)
  | text (s : Text.Letters) (plain : Bool)
  deriving Repr, DecidableEq

/-- A token's name in a complaint. -/
def TokenKind.name : TokenKind → String
  | directive _ => "<directive>"
  | documentStart => "<document start>"
  | documentEnd => "<document end>"
  | streamEnd => "<stream end>"
  | blockListStart => "<block sequence start>"
  | blockMapStart => "<block mapping start>"
  | blockEnd => "<block end>"
  | flowListStart => "["
  | flowListEnd => "]"
  | flowMapStart => "\x7b"
  | flowMapEnd => "\x7d"
  | entry => "-"
  | comma => ","
  | key => "?"
  | value => ":"
  | mention _ => "<alias>"
  | anchor _ => "<anchor>"
  | tag .. => "<tag>"
  | text .. => "<scalar>"

structure Token where
  kind : TokenKind
  start : Mark
  stop : Mark
  deriving Repr, DecidableEq

end DifferentialDrive.Document
