import DifferentialDrive.Config.Settings
import DifferentialDrive.Machine
import DifferentialDrive.Script.Directory
import DifferentialDrive.Script.LineFault
import DifferentialDrive.Script.Pattern.Check

/-!
# Scripted serial lines

Which serial lines a scripted machine opens. The name of a line may begin with a protocol: of those
only the looped line is at hand, while a line at the other end of a network is not reached, and the
others lead to the name of a file in the end. No file is a line.
-/

namespace DifferentialDrive.Script

open Config Document Text

inductive Protocol where
  /-- A line by the class that serves it. -/
  | standIn
  /-- A line by what is known of its plug. -/
  | search
  | loop
  | remote
  | socket
  /-- A line whose traffic is shown. -/
  | shown
  deriving Repr, DecidableEq

def protocols : List (String × Protocol) :=
  [("alt", .standIn), ("hwgrep", .search), ("loop", .loop), ("rfc2217", .remote),
    ("socket", .socket), ("spy", .shown)]

/-- The protocol that a name begins with, in letters of any size. -/
def protocol? (name : Letters) : Except LineFault (Option Protocol) :=
  let rec before : Letters → Option Letters
    | .char ':' :: .char '/' :: .char '/' :: _ => some []
    | l :: rest => (before rest).map (l :: ·)
    | [] => none
  match before name with
  | none => .ok none
  | some word =>
    let word := lowercase word
    match protocols.find? fun p => word.isText p.1 with
    | some (_, p) => .ok (some p)
    | none => .error (.unknownProtocol word)

/-! ## What the parts of a name ask for -/

def urlOf (name : Letters) : Except LineFault Url := (Url.split name).mapError .address

/-- The name of the file in an address. -/
def fileIn (url : Url) : Letters := url.authority ++ url.path

/-- The classes that serve lines. -/
def classes : List String := ["Serial", "PosixPollSerial", "VTIMESerial"]

/-- Classes beside them. -/
def otherClasses : List String :=
  ["SerialBase", "SerialException", "SerialTimeoutException", "PortNotOpenError", "Timeout",
    "unicode", "__class__"]

/-- Names beside those of classes. -/
def otherNames : List String :=
  ["CR", "EIGHTBITS", "FIVEBITS", "LF", "PARITY_EVEN", "PARITY_MARK", "PARITY_NAMES",
    "PARITY_NONE", "PARITY_ODD", "PARITY_SPACE", "SEVENBITS", "SIXBITS", "STOPBITS_ONE",
    "STOPBITS_ONE_POINT_FIVE", "STOPBITS_TWO", "VERSION", "XOFF", "XON", "absolute_import",
    "basestring", "importlib", "io", "iterbytes", "os", "protocol_handler_packages",
    "serial_for_url", "serialposix", "serialutil", "sys", "time", "to_bytes", "urlhandler",
    "__builtins__", "__cached__", "__dict__", "__doc__", "__file__", "__loader__", "__name__",
    "__package__", "__path__", "__spec__", "__version__"]

def checkClass (name : Letters) : Except LineFault Unit :=
  let isIn (names : List String) : Bool := names.any name.isText
  if isIn classes then .ok ()
  else if isIn otherClasses then .error (.foreignClass name)
  else if isIn otherNames then .error .noClass
  else .error (.unknownClass name)

/-- The name of the file that a line by its class leads to. -/
def standIn (name : Letters) : Except LineFault Letters := do
  let url ← urlOf name
  let options := Url.options url.query
  if let some o := options.find? fun o => !o.1.isText "class" then throw (.standInOption o.1)
  checkClass ((options.head?.map (·.2)).getD (.ofString "Serial"))
  return fileIn url

/-- The name of the file that a line with shown traffic leads to, and the files that are there once
one has been made for what is shown. -/
def shownLine (files : String → Except FileFault String) (name : Letters) :
    Except LineFault (Letters × (String → Except FileFault String)) := do
  let url ← urlOf name
  let mut files := files
  for (option, value) in Url.options url.query do
    if option.isText "file" then
      match openPath (checkWritable files) value with
      | .ok () =>
        let former := files
        files := fun path => if value.isText path then .ok "" else former path
      | .error f => throw (if f.isOfPath then .shownFile f else .traffic value f)
    else if !(["color", "raw", "all"].any option.isText) then
      throw (.shownOption option)
  return (fileIn url, files)

/-- Refuses the search for a line, which finds none. -/
def search (name : Letters) : Except LineFault Unit := do
  let wanted := name.drop "hwgrep://".length
  let pieces := Url.pieces '&' wanted
  for argument in pieces.tail do
    let (option, value) := Url.cut '=' argument
    if option.isText "n" then
      let some value := value | throw .noCount
      let n ← (Decimal.readInteger 10 (Letters.chars value)).mapError
        (.notAnInteger (quotedLetters value))
      if n < 2 then throw (.badCount value)
    else if !option.isText "skip_busy" then throw (.searchOption option)
  let pattern := pieces.head?.getD []
  (Pattern.check (Letters.chars pattern)).mapError (.badPattern pattern)
  throw (.notFound wanted)

/-- The levels that a line may be asked to log at. -/
def lineLevels : List String := ["debug", "info", "warning", "error"]

/-- Checks what stands behind the protocol of the looped line, of which only options count. -/
def checkLoop (name : Letters) : Except LineFault Unit := do
  for (option, value) in Url.options (← urlOf name).query do
    if !option.isText "logging" then throw .loopOption
    if !(lineLevels.any value.isText) then throw (.unknownLevel value)

/-! ## Lines at the other end of a network -/

def checkRemoteOption (p : Protocol) (option value : Letters) : Except Unreached Unit :=
  if option.isText "logging" then
    if lineLevels.any value.isText then .ok () else .error (.level value)
  else if p = .socket then .error .form
  else if option.isText "timeout" then
    if (Decimal.readChars? (Decimal.plainForm (Letters.chars value))).isSome then .ok ()
    else .error (.noTime value)
  else if ["ign_set_control", "poll_modem"].any option.isText then .ok ()
  else .error (.option option)

def checkNumber (p : Protocol) (number : Letters) : Except Unreached Unit :=
  let s := Letters.chars number
  if s.isEmpty then .error .noNumber
  else if !s.all Char.isDigit then .error (if p = .socket then .form else .notANumber number)
  else
    match Decimal.readInteger 10 s with
    | .error f => .error (if p = .socket then .form else .unreadNumber f)
    | .ok n =>
      if n ≤ 65535 then .ok () else .error (if p = .socket then .form else .numberOutOfRange)

/-- Nothing serves lines on this machine, and no other is reached. -/
def whyUnreached (host : Letters) : Unreached :=
  let s := Letters.chars (lowercase host)
  let isOwn := s.isEmpty || String.ofList s == "localhost" || String.ofList s == "0.0.0.0" ||
    String.ofList s == "::1" || (HostAddress.isPointed s && s.take 4 == "127.".toList)
  if isOwn then .refused
  else if HostAddress.isPointed s || HostAddress.isGrouped s then .noNetwork
  else .noName

def reach (p : Protocol) (name : Letters) : Except Unreached Unit := do
  let url ← (Url.split name).mapError .address
  if p = .socket && !url.scheme.isText "socket" then throw .form
  for (option, value) in Url.options url.query do checkRemoteOption p option value
  let (host, number) := Url.hostAndNumber url.authority
  checkNumber p number
  throw (whyUnreached host)

/-! ## Settings -/

/-- A value in a message, if it can be shown. -/
def wording (f : String → LineFault) (v : Value) : LineFault :=
  match v.shown? with
  | some shown => f shown
  | none => .tooManyDigits

/-- The rate that a line is set to, as a whole number. -/
def baudRate (v : Value) : Except LineFault Int := do
  let read (s : List Char) (shown : String) : Except LineFault Int :=
    (Decimal.readInteger 10 s).mapError (.notAnInteger shown)
  let n ←
    match v.view with
    | .datum (.int n) => .ok n
    | .datum (.bool b) => .ok (if b then 1 else 0)
    | .datum (.float x) => (Scalar.toInteger x).mapError .rate
    | .datum (.text s) => read (Letters.chars s) (quotedLetters s)
    | .datum (.bytes bs) => read (charsOf bs) (shownBytes (bs.take 200))
    | _ => .error (wording .noBaud v)
  if n < 0 then .error (wording .noBaud v) else .ok n

/-- Whether a line that was read for so long has taken more than a byte. -/
def isHasty (seconds : Float) : Bool := 0 < seconds && seconds < 1e-7

/-- How long a reader of a line waits for the bytes it asks for. -/
inductive Patience where
  | enough
  /-- Not for more than a single byte. -/
  | hasty
  /-- For a time beyond all scalars. -/
  | boundless
  deriving Repr, DecidableEq

/-- How long to wait for bytes: not at all, for a time that is not negative, or without end. -/
def patience (v : Value) : Except LineFault Patience :=
  match v.view with
  | .datum .null => .ok .enough
  | _ =>
    let q := quantity v
    match q.isBelow 0 with
    | .ok false =>
      match q.toScalar with
      | .ok x => .ok (if isHasty x then .hasty else .enough)
      | .error _ => .ok .boundless
    | _ => .error (wording .noTimeout v)

/-- Refuses a name that is that of a file or of none. -/
def openFile (files : String → Except FileFault String) (name : Letters) : LineFault :=
  match openPath files name with
  | .ok _ => .notALine
  | .error f => .file name f

/-- Opens the line of a name, whose rate is known. -/
def openNamed (files : String → Except FileFault String) (p : Option Protocol) (name : Letters)
    (rate : Int) : Except LineFault Unit :=
  match p with
  | some .loop => do
    checkLoop name
    if rate = 0 || 0x100000000 ≤ rate then throw (wording .badRate (.ofDatum (.int rate)))
  | some .remote => (reach .remote name).mapError (.unreached name)
  | some .socket => (reach .socket name).mapError (.unreached name)
  | some .shown => do
    let (name, files) ← shownLine files name
    throw (openFile files name)
  | some .search => do
    if (Letters.ofString "hwgrep://").isPrefixOf name then search name
    throw (openFile files name)
  | _ => .error (openFile files name)

/-- Opens a line as it is set. -/
def openLine (files : String → Except FileFault String) (l : LineSettings) :
    Except LineFault Unit := do
  let (protocol, name) ←
    match l.port.view with
    | .datum (.text s) =>
      match ← protocol? s with
      | some .standIn => pure (none, some (← standIn s))
      | p => pure (p, some s)
    | .datum (.bytes _) => throw .noText
    | _ => pure (none, none)
  let rate ← baudRate l.baud
  let _ ← patience l.timeout
  match name, l.port.view with
  | some name, _ => openNamed files protocol name rate
  | none, .datum .null => throw .unnamed
  | none, _ => throw (.noName l.port.typeName)

end DifferentialDrive.Script
