import DifferentialDrive.Decimal.Integer
import DifferentialDrive.Fault.Message
import DifferentialDrive.FileFault
import DifferentialDrive.Script.Pattern.Reader
import DifferentialDrive.Script.Url

/-!
# Faults of serial lines

Why a serial line was not opened, and how that is worded.
-/

namespace DifferentialDrive

open Text

/-- Why a line at the other end of a network was not reached. -/
inductive Unreached where
  | address (f : Url.Flaw)
  | form
  | option (name : Letters)
  | level (name : Letters)
  | noTime (text : Letters)
  | noNumber
  | notANumber (text : Letters)
  | unreadNumber (f : Decimal.IntegerFault)
  | numberOutOfRange
  | refused | noNetwork | noName
  deriving Repr

inductive LineFault where
  /-- A name that is looked at as text and is none. -/
  | noText
  | unknownProtocol (protocol : Letters)
  | address (f : Url.Flaw)
  | noBaud (shown : String)
  /-- Text or bytes that write no rate, as they are shown. -/
  | notAnInteger (shown : String) (f : Decimal.IntegerFault)
  /-- A rate with which something cannot be done. -/
  | rate (f : Fault Float)
  /-- An integer that has too many digits to be shown. -/
  | tooManyDigits
  | noTimeout (shown : String)
  /-- A name that is no text, by its type. -/
  | noName (type : String)
  | unnamed
  | badRate (shown : String)
  | loopOption
  | unknownLevel (name : Letters)
  /-- An option of a line that another name stands for. -/
  | standInOption (name : Letters)
  | unknownClass (name : Letters)
  | foreignClass (name : Letters)
  | noClass
  /-- An option of a line whose traffic is shown. -/
  | shownOption (name : Letters)
  | shownFile (f : FileFault)
  /-- The file that traffic would be written to. -/
  | traffic (name : Letters) (f : FileFault)
  /-- Which of the lines is meant, where there is no such number. -/
  | noCount
  | badCount (text : Letters)
  | searchOption (name : Letters)
  | badPattern (pattern : Letters) (f : Pattern.Flaw)
  | notFound (pattern : Letters)
  | unreached (name : Letters) (why : Unreached)
  | file (name : Letters) (f : FileFault)
  /-- A file that is no line. -/
  | notALine
  deriving Repr

def Text.Url.Flaw.message : Url.Flaw → String
  | .brackets => "Invalid IPv6 URL"
  | .version => "IPvFuture address is invalid"
  | .pointed => "An IPv4 address cannot be in brackets"
  | .noAddress host => quotedLetters host ++ " does not appear to be an IPv4 or IPv6 address"
  | .disguised authority =>
    "netloc '" ++ authority.toString ++ "' contains invalid characters under NFKC normalization"

/-- What the names of lines with options look like. -/
def expectedForm (form problem : String) : String :=
  "expected a string in the form \"" ++ form ++ "\": " ++ problem

def unknownOption (name : Letters) : String := "unknown option: " ++ quotedLetters name

/-- The form of names with a protocol, a name behind it and options. -/
def optionsForm (protocol : String) : String :=
  protocol ++ "://port[?option[=value][&option[=value]]]"

/-- The levels that a line may be asked to log at, as one word. -/
def levelsWord : String := "debug|info|warning|error"

def Unreached.message : Unreached → String
  | address f => f.message
  | form => quoted levelsWord
  | level name => quotedLetters name
  | option name => remote (unknownOption name)
  | noTime text => remote ("could not convert string to float: " ++ quotedLetters text)
  | noNumber => "'<=' not supported between instances of 'int' and 'NoneType'"
  | notANumber text =>
    remote ("Port could not be cast to integer value as " ++ quotedLetters text)
  | unreadNumber f => remote (f.message 10 "")
  | numberOutOfRange => remote "Port out of range 0-65535"
  | refused => "[Errno 111] Connection refused"
  | noNetwork => "[Errno 101] Network is unreachable"
  | noName => "[Errno -3] Temporary failure in name resolution"
where
  remote (problem : String) : String :=
    expectedForm "rfc2217://<host>:<port>[?option[&option...]]" problem

def LineFault.message : LineFault → String
  | noText => "not a text"
  | unknownProtocol protocol =>
    "invalid URL, protocol " ++ quotedLetters protocol ++ " not known"
  | address f => f.message
  | noBaud shown => "Not a valid baudrate: " ++ shown
  | notAnInteger shown f => f.message 10 shown
  | rate f => f.message
  | tooManyDigits => Decimal.limitText ""
  | noTimeout shown => "Not a valid timeout: " ++ shown
  | noName type => "\"port\" must be None or a string, not <class '" ++ type ++ "'>"
  | unnamed => "Port must be configured before it can be used."
  | badRate shown => "invalid baudrate: " ++ shown
  | loopOption => quoted levelsWord
  | unknownLevel name => quotedLetters name
  | standInOption name =>
    expectedForm (optionsForm "alt") ("ValueError(" ++ quoted (unknownOption name) ++ ")")
  | unknownClass name => "unknown class: " ++ quotedLetters name
  | foreignClass name => "class " ++ quotedLetters name ++ " is not an instance of Serial"
  | noClass => "not a class"
  | shownOption name => expectedForm (optionsForm "spy") (unknownOption name)
  | shownFile f => expectedForm (optionsForm "spy") f.text
  | traffic name f => f.message name
  | noCount => "not a number"
  | badCount text =>
    "option \"n\" expects a positive integer larger than 1: " ++ quotedLetters text
  | searchOption name => unknownOption name
  | badPattern pattern f => f.message (Letters.chars pattern)
  | notFound pattern => "no ports found matching regexp " ++ quotedLetters pattern
  | unreached name why => "Could not open port " ++ name.toString ++ ": " ++ why.message
  | file name f =>
    if f.isOfPath then f.text
    else s!"[Errno {f.number}] could not open port " ++ name.toString ++ ": " ++ f.message name
  | notALine => "Could not configure port: (25, 'Inappropriate ioctl for device')"

/-- The kind of a fault. -/
def LineFault.cause : LineFault → String
  | noText | noClass | noCount => "type"
  | loopOption | unknownLevel _ => "key"
  | badPattern _ (.at ..) | badPattern _ (.whole _) => "pattern"
  | badPattern _ .repetitions | rate .infinityToInteger => "overflow"
  | standInOption _ | shownOption _ | shownFile _ | notFound _ | unreached .. | unnamed
  | notALine => "line"
  | file _ f => if f.isOfPath then f.cause else "line"
  | traffic _ f => f.cause
  | _ => "value"

def LineFault.refusal (f : LineFault) : Refusal := ⟨f.cause, f.message⟩

end DifferentialDrive
