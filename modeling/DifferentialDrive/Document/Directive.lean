import DifferentialDrive.Document.Label

/-!
# Directives

Lines before a document that say which version of the notation it is in and what its handles stand
for. Other directives are let pass.
-/

namespace DifferentialDrive.Document

inductive Directive where
  | version (major minor : Nat)
  /-- What a handle stands for. -/
  | handle (name stem : String)
  | other
  deriving Repr, DecidableEq

namespace Directive

def context : Context := .scanning "a directive"

def number (start : Mark) : Scan Nat := do
  let digits ← Scan.takeWhile Char.isDigit
  if digits.isEmpty then
    let ch ← Scan.peek
    Scan.complain context start (.expected "a digit" ch.toString)
  match Decimal.readInteger 10 digits with
  | .ok n => return n.toNat
  | .error f => throw (.value (.integer 10 (.ofChars digits) f))

/-- Refuses a character that does not end what was read. -/
def endAt (start : Mark) (what : String) : Scan Unit := do
  let ch ← Scan.peek
  if !isSpaceOrEnd ch then Scan.complain context start (.expected what ch.toString)

def version? (start : Mark) : Scan Directive := do
  Scan.skipSpaces
  let major ← number start
  let ch ← Scan.peek
  if ch != '.' then Scan.complain context start (.expected "a digit or '.'" ch.toString)
  Scan.skip 1
  let minor ← number start
  endAt start "a digit or ' '"
  return version major minor

def handle? (start : Mark) : Scan Directive := do
  Scan.skipSpaces
  let name ← Label.handle "directive" start
  let ch ← Scan.peek
  if ch != ' ' then Scan.complain context start (.expected "' '" ch.toString)
  Scan.skipSpaces
  let stem ← Label.uri "directive" start
  endAt start "' '"
  return handle name stem

/-- The directive whose mark stands here, with the rest of its line. -/
def scan : Scan Directive := do
  let start ← Scan.mark
  Scan.skip 1
  let d ←
    match ← Label.name context start isSpaceOrEnd with
    | "YAML" => version? start
    | "TAG" => handle? start
    | _ => do
      Scan.skipWhile fun c => !isBreak c
      pure other
  Scan.finishLine context start
  return d

end Directive

end DifferentialDrive.Document
