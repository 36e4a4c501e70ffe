import DifferentialDrive.Decimal.Integer
import DifferentialDrive.Document.Moment
import DifferentialDrive.Text.Base64
import DifferentialDrive.Text.Quoted
import DifferentialDrive.Text.Utf8

/-!
# Faults of a document

Why a document cannot be read: where it goes wrong, what was being read there and what is wrong
about it. Values whose text does not fit their type are faults without a place.
-/

namespace DifferentialDrive.Document

open DifferentialDrive.Text

/-- A place in a document, in lines and columns from zero. -/
structure Mark where
  line : Nat
  column : Nat
  deriving Repr, DecidableEq

/-- What a complaint is about: characters that form no token, tokens that form no node, nodes that
belong to no document, or a node that is no value. -/
inductive Stage where
  | tokens | layout | nodes | values
  deriving Repr, DecidableEq

/-- What was going on when something was found wrong. -/
inductive Context where
  | scanning (what : String)
  | parsing (what : String)
  | constructing (what : String)
  | oneDocument
  | repeatedAnchor (name : String)
  deriving Repr, DecidableEq

inductive Problem where
  /-- One thing was expected and a character or a token was found. -/
  | expected (what found : String)
  | expectedSeparator (what found : String)
  | expectedKind (what found : String)
  | noTokenStart (c : Char)
  | noColon
  | notAllowed (what : String)
  | streamEnd
  | documentSeparator
  | unknownEscape (c : Char)
  | notUtf8 (byte : Nat) (flaw : Utf8.Flaw)
  | repeatedVersion
  | otherVersion
  | repeatedHandle (handle : String)
  | unknownHandle (handle : String)
  | unknownAlias (name : String)
  | secondAnchor
  | anotherDocument
  | unknownTag (tag : String)
  | noKey
  | notBase64 (flaw : Base64.Flaw)
  /-- Letters beyond plain text, from a place on. -/
  | notPlain (first : Letter) (place count : Nat)
  deriving Repr, DecidableEq

structure Complaint where
  stage : Stage
  context : Option (Context × Option Mark)
  problem : Problem
  mark : Mark
  deriving Repr, DecidableEq

inductive ValueFault where
  | integer (base : Nat) (text : Letters) (fault : Decimal.IntegerFault)
  | float (text : Letters)
  | truth (text : Letters)
  /-- A number without any digit. -/
  | noDigits
  | numberTooLarge
  | noMoment
  /-- A moment is only read from a text of its own. -/
  | notText
  | moment (limit : Moment.Limit)
  /-- A code point that no character has. -/
  | codePoint
  | codePointTooLarge
  /-- A value that is its own text. -/
  | ownText
  deriving Repr, DecidableEq

inductive Fault where
  /-- A character that no document may hold. -/
  | unacceptable (code place : Nat)
  | complaint (c : Complaint)
  | value (f : ValueFault)
  /-- Lists and maps within more others than are followed. -/
  | tooDeep
  deriving Repr, DecidableEq

def Mark.text (name : String) (m : Mark) : String :=
  "  in \"" ++ name ++ s!"\", line {m.line + 1}, column {m.column + 1}"

def Context.text : Context → String
  | scanning what => "while scanning " ++ what
  | parsing what => "while parsing " ++ what
  | constructing what => "while constructing " ++ what
  | oneDocument => "expected a single document in the stream"
  | repeatedAnchor name => "found duplicate anchor " ++ quoted name ++ "; first occurrence"

def reasonText : Utf8.Reason → String
  | .badStart => "invalid start byte"
  | .badTail => "invalid continuation byte"
  | .cutOff => "unexpected end of data"

def Problem.text : Problem → String
  | expected what found => "expected " ++ what ++ ", but found " ++ quoted found
  | expectedSeparator what found => "expected " ++ what ++ ", but got " ++ quoted found
  | expectedKind what found => "expected " ++ what ++ ", but found " ++ found
  | noTokenStart c => "found character " ++ quoted c.toString ++ " that cannot start any token"
  | noColon => "could not find expected ':'"
  | notAllowed what => what ++ " are not allowed here"
  | streamEnd => "found unexpected end of stream"
  | documentSeparator => "found unexpected document separator"
  | unknownEscape c => "found unknown escape character " ++ quoted c.toString
  | notUtf8 byte flaw =>
    let single := "0x" ++ (hexadecimal 2 byte).toLower
    "'utf-8' codec can't decode " ++ stretch "byte" single flaw.place flaw.count ++ ": " ++
      reasonText flaw.reason
  | repeatedVersion => "found duplicate YAML directive"
  | otherVersion => "found incompatible YAML document (version 1.* is required)"
  | repeatedHandle handle => "duplicate tag handle " ++ quoted handle
  | unknownHandle handle => "found undefined tag handle " ++ quoted handle
  | unknownAlias name => "found undefined alias " ++ quoted name
  | secondAnchor => "second occurrence"
  | anotherDocument => "but found another document"
  | unknownTag tag => "could not determine a constructor for the tag " ++ quoted tag
  | noKey => "found unhashable key"
  | notBase64 .unfilled => "failed to decode base64 data: Incorrect padding"
  | notBase64 (.leftOver count) =>
    "failed to decode base64 data: Invalid base64-encoded string: number of data characters (" ++
      s!"{count}) cannot be 1 more than a multiple of 4"
  | notPlain first place count =>
    "failed to convert base64 data into ascii: 'ascii' codec can't encode " ++
      letterStretch first place count ++ ": ordinal not in range(128)"

/-- The context with its place, unless that is the place of the problem, and the problem with
its own. -/
def Complaint.message (name : String) (c : Complaint) : String :=
  let context :=
    match c.context with
    | none => []
    | some (k, none) => [k.text]
    | some (k, some m) => if m = c.mark then [k.text] else [k.text, m.text name]
  "\n".intercalate (context ++ [c.problem.text, c.mark.text name])

def endlessText : String := "maximum recursion depth exceeded"

def ValueFault.message : ValueFault → String
  | integer base text fault => fault.message base (quotedLetters text)
  | float text => "could not convert string to float: " ++ quotedLetters text
  | truth text => quotedLetters text
  | noDigits => "string index out of range"
  | numberTooLarge => "int too large to convert to float"
  | noMoment => "not a moment"
  | notText => "not a text"
  | moment limit => limit.message
  | codePoint => "chr() arg not in range(0x110000)"
  | codePointTooLarge => "Python int too large to convert to C int"
  | ownText => endlessText

/-- The wording of a fault in a document of a given name. -/
def Fault.message (name : String) : Fault → String
  | unacceptable code place =>
    "unacceptable character #x" ++ (hexadecimal 4 code).toLower ++
      ": special characters are not allowed\n  in \"" ++ name ++ s!"\", position {place}"
  | complaint c => c.message name
  | value f => f.message
  | tooDeep => endlessText

end DifferentialDrive.Document
