import DifferentialDrive.Decimal.Read
import DifferentialDrive.Launch.Problem
import DifferentialDrive.Service.Limit

/-!
# Command line options

The program takes a configuration file and a duration. Long options may be shortened as far as
they stay distinct and take their value after an equals sign or as the next argument; the value of
a short one may also follow it directly. A negative number is a value and no option.
-/

namespace DifferentialDrive

/-- Where the configuration comes from. -/
inductive Options.Source where
  | standard
  | file (path : String)
  /-- An option that was given no file. -/
  | nothing
  deriving Repr

structure Options where
  config : Options.Source := .standard
  limit : Service.Limit := .endless
  deriving Repr

namespace Options

inductive Flag where
  | help | config | duration
  deriving Repr, DecidableEq

def flags : List (String × Flag) :=
  [("-h", .help), ("--help", .help), ("-c", .config), ("--config", .config),
    ("--duration", .duration)]

/-- Where the value of an option stands, if it stands in the same argument. -/
inductive Attached where
  | nowhere
  | afterEquals (s : String)
  | afterLetter (s : String)

/-- What an argument is on its own. -/
inductive Argument where
  | value (s : String)
  | option (flag : Flag) (attached : Attached)
  | unknown
  | ambiguous
  /-- The mark after which everything is a value. -/
  | separator

def isLong (s : List Char) : Bool := "--".toList.isPrefixOf s

/-- The text before the first equals sign and the value after it. Behind a short option the value
stands as if there were no such sign. -/
def splitEquals (s : List Char) : List Char × Attached :=
  match s.dropWhile (· != '=') with
  | [] => (s, .nowhere)
  | _ :: rest =>
    let text := String.ofList rest
    (s.takeWhile (· != '='), if isLong s then .afterEquals text else .afterLetter text)

/-- Whether an argument is a minus sign with digits of any script and at most one point, which has
digits behind it. A line break may end it. -/
def isNegativeNumber : List Char → Bool
  | '-' :: s =>
    let s := if s.getLast? == some '\n' then s.dropLast else s
    let whole := s.takeWhile Text.isDigit
    match s.dropWhile Text.isDigit with
    | [] => !whole.isEmpty
    | '.' :: fraction => !fraction.isEmpty && fraction.all Text.isDigit
    | _ => false
  | _ => false

/-- The options that an argument may be short for. -/
def candidates (s : List Char) : List (Flag × Attached) :=
  if isLong s then
    let (name, attached) := splitEquals s
    (flags.filter fun f => name.isPrefixOf f.1.toList).map fun f => (f.2, attached)
  else
    (flags.filter fun f => f.1.toList == s.take 2).map fun f =>
      (f.2, .afterLetter (String.ofList (s.drop 2)))

def classify (arg : String) : Argument :=
  let s := arg.toList
  match s with
  | '-' :: _ :: _ =>
    if arg == "--" then .separator
    else
      let (name, attached) := splitEquals s
      match flags.lookup (String.ofList name) with
      | some flag => .option flag attached
      | none =>
        match candidates s with
        | [(flag, attached)] => .option flag attached
        | _ :: _ :: _ => .ambiguous
        | [] => if isNegativeNumber s || s.contains ' ' then .value arg else .unknown
  | _ => .value arg

/-- The arguments as they are understood; after the separator all are values. -/
def classifyAll : List String → List Argument
  | [] => []
  | arg :: rest =>
    match classify arg with
    | .separator => .separator :: rest.map .value
    | a => a :: classifyAll rest

def usage : Launch.Problem := .exit 2

/-- Whether the letters behind the short help option can stand there: they are options themselves,
and the last may need the next argument as its value. -/
def helpLetters (next : List Argument) : List Char → Bool
  | ['h'] => true
  | 'h' :: rest => helpLetters next rest
  | ['c'] => next.head?.any fun a => (a matches .value _)
  | 'c' :: _ => true
  | _ => false

def take (o : Options) (flag : Flag) (s : String) : Except Launch.Problem Options :=
  match flag with
  | .config => .ok { o with config := .file s }
  | .duration =>
    match Decimal.read? s with
    | some x => .ok { o with limit := .after x }
    | none => .error usage
  | .help => .ok o

/-- Takes a value from the argument of its option. The separator in its place is no value, and
does not end the options either. -/
def takeAttached (o : Options) (flag : Flag) (s : String) : Except Launch.Problem Options :=
  if s != "--" then o.take flag s
  else
    match flag with
    | .config => .ok { o with config := .nothing }
    | .duration => .ok { o with limit := .unusable }
    | .help => .ok o

/-- Goes through the arguments; `extra` says that some were not asked for. -/
def go (o : Options) (extra : Bool) : List Argument → Except Launch.Problem Options
  | [] => if extra then .error usage else .ok o
  | .option .help .nowhere :: _ => .error (.exit 0)
  | .option .help (.afterEquals _) :: _ => .error usage
  | .option .help (.afterLetter s) :: rest =>
    .error (if helpLetters rest s.toList then .exit 0 else usage)
  | .option flag (.afterEquals s) :: rest | .option flag (.afterLetter s) :: rest => do
    go (← o.takeAttached flag s) extra rest
  | .option flag .nowhere :: .value s :: rest => do go (← o.take flag s) extra rest
  | .option _ .nowhere :: _ => .error usage
  | _ :: rest => go o true rest

def parse (args : List String) : Except Launch.Problem Options :=
  let arguments := classifyAll args
  if arguments.any fun a => a matches .ambiguous then .error usage else go {} false arguments

end Options

end DifferentialDrive
