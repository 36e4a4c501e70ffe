import DifferentialDrive.Wire.Integer

/-!
# Commands

A command on the wire is a zero byte, an opcode and up to two operand bytes. `Command.bytes`
writes one; `Form.ofOpcode?` says what an opcode expects after it.
-/

namespace DifferentialDrive.Wire

/-- What a client can ask for. -/
inductive Query where
  | speed1 | speed2
  | encoder1 | encoder2 | encoders
  | volts | current1 | current2
  | version | acceleration | mode
  | voltsAndCurrents | error | simSpeed
  deriving Repr, DecidableEq

namespace Query

def code : Query → UInt8
  | speed1 => 0x21
  | speed2 => 0x22
  | encoder1 => 0x23
  | encoder2 => 0x24
  | encoders => 0x25
  | volts => 0x26
  | current1 => 0x27
  | current2 => 0x28
  | version => 0x29
  | acceleration => 0x2A
  | mode => 0x2B
  | voltsAndCurrents => 0x2C
  | error => 0x2D
  | simSpeed => 0x52

def all : List Query :=
  [speed1, speed2, encoder1, encoder2, encoders, volts, current1, current2, version,
    acceleration, mode, voltsAndCurrents, error, simSpeed]

def ofCode? (code : Int) : Option Query := all.find? fun q => (q.code.toNat : Int) == code

@[simp] theorem ofCode?_code (q : Query) : ofCode? q.code.toNat = some q := by
  cases q <;> rfl

/-- How many bytes answer the query. -/
def replySize : Query → Nat
  | encoder1 | encoder2 => 4
  | encoders => 8
  | voltsAndCurrents => 3
  | simSpeed => 2
  | _ => 1

end Query

inductive Command where
  | query (q : Query)
  | speed1 (value : UInt8)
  | speed2 (value : UInt8)
  | acceleration (value : UInt8)
  /-- The code of a mode; not every byte is one. -/
  | mode (code : UInt8)
  | resetEncoders
  | regulator (on : Bool)
  | timeout (on : Bool)
  | placeX (millimetres : UInt16)
  | placeY (millimetres : UInt16)
  | placeHeading (tenths : UInt16)
  | simSpeed (tenths : UInt16)
  deriving Repr, DecidableEq

namespace Command

def opcode : Command → UInt8
  | query q => q.code
  | speed1 _ => 0x31
  | speed2 _ => 0x32
  | acceleration _ => 0x33
  | mode _ => 0x34
  | resetEncoders => 0x35
  | regulator false => 0x36
  | regulator true => 0x37
  | timeout false => 0x38
  | timeout true => 0x39
  | placeX _ => 0x41
  | placeY _ => 0x42
  | placeHeading _ => 0x43
  | simSpeed _ => 0x51

def operands : Command → List UInt8
  | speed1 v | speed2 v | acceleration v | mode v => [v]
  | placeX w | placeY w | placeHeading w | simSpeed w => wordBytes w
  | query _ | resetEncoders | regulator _ | timeout _ => []

def bytes (c : Command) : List UInt8 := 0 :: c.opcode :: c.operands

/-- Whether a speed register is written. -/
def writesSpeed : Command → Bool
  | speed1 _ | speed2 _ => true
  | _ => false

end Command

/-- What follows an opcode, and the command it makes. -/
inductive Form where
  | bare (command : Command)
  | byte (command : UInt8 → Command)
  | word (command : UInt16 → Command)

namespace Form

def ofOpcode? : UInt8 → Option Form
  | 0x31 => some (.byte .speed1)
  | 0x32 => some (.byte .speed2)
  | 0x33 => some (.byte .acceleration)
  | 0x34 => some (.byte .mode)
  | 0x35 => some (.bare .resetEncoders)
  | 0x36 => some (.bare (.regulator false))
  | 0x37 => some (.bare (.regulator true))
  | 0x38 => some (.bare (.timeout false))
  | 0x39 => some (.bare (.timeout true))
  | 0x41 => some (.word .placeX)
  | 0x42 => some (.word .placeY)
  | 0x43 => some (.word .placeHeading)
  | 0x51 => some (.word .simSpeed)
  | code => (Query.ofCode? code.toNat).map fun q => .bare (.query q)

theorem ofOpcode?_query (q : Query) : ofOpcode? q.code = some (.bare (.query q)) := by
  cases q <;> rfl

/-- How many operand bytes follow. -/
def arity : Form → Nat
  | bare _ => 0
  | byte _ => 1
  | word _ => 2

end Form

/-- Every command's opcode has a form, and it expects as many bytes as the command has. -/
theorem Command.exists_form (c : Command) :
    ∃ form, Form.ofOpcode? c.opcode = some form ∧ form.arity = c.operands.length := by
  cases c with
  | query q => exact ⟨_, Form.ofOpcode?_query q, rfl⟩
  | regulator on => cases on <;> exact ⟨_, rfl, rfl⟩
  | timeout on => cases on <;> exact ⟨_, rfl, rfl⟩
  | _ => exact ⟨_, rfl, rfl⟩

end DifferentialDrive.Wire
