/-!
# Faults

Every way in which an operation on the robot, its client or its links can be refused. A fault
names its cause and carries the values a reader of the refusal needs; the wording is in
`Fault.message`.
-/

namespace DifferentialDrive

/-- What a machine says of a request that it refuses: the kind of the cause and a text. -/
structure Refusal where
  cause : String
  text : String
  deriving Repr, DecidableEq

/-- Why a request to a machine came to nothing. -/
inductive Strike where
  | refused (r : Refusal)
  /-- The program was interrupted in the request. -/
  | interrupted
  deriving Repr, DecidableEq

def Strike.message : Strike → String
  | refused r => r.text
  | interrupted => ""

/-- Why an operation was refused, over scalars `α`. -/
inductive Fault (α : Type) where
  | divisionByZero
  | infinityToInteger
  | nanToInteger
  /-- The sine or cosine of an infinity. -/
  | angleInfinite
  | squareOverflow
  | integerTooLarge
  | wholeDivisionByZero
  /-- The quotient of two whole numbers is beyond all scalars. -/
  | quotientTooLarge
  /-- A setting that is used as a number and is none. -/
  | notANumber
  | unknownMode (code : Int)
  | modeRegister (code : Int)
  | modeArgument (code : Int)
  | accelerationArgument (value : Int)
  | outOfRange (argument : String) (low high value : Int)
  | negative (argument : String) (value : α)
  | keepaliveNotPositive (value : α)
  | centreAtRest
  | equalWheelSpeeds
  /-- A hold whose keepalives never reach its end. -/
  | endlessHold
  | noReply (opcode : Int)
  | replyLength (wanted : Nat)
  | replyEmpty
  | registerNotAByte
  /-- A counter that four bytes do not hold. -/
  | counterTooWide
  | unknownAction (name : String)
  | linkMissing
  /-- A request to the machine came to nothing. -/
  | struck (k : Strike)
  deriving Repr, DecidableEq

end DifferentialDrive
