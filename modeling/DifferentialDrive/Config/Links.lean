import DifferentialDrive.Config.Settings
import DifferentialDrive.Machine

/-!
# Settings of the links

Which links are switched on, with the settings beside the switch, and the address to listen on for
datagrams. The settings of a link may also be a list of names with values.
-/

namespace DifferentialDrive.Config

open Document

/-- The values that a value can be gone through as. -/
def elements? (v : Value) : Option (List Value) :=
  match v.view with
  | .list vs => some vs
  | .set ds => some (ds.map .ofDatum)
  | .pair a b => some [a, b]
  | .map fields => some (fields.map fun f => .ofDatum f.1)
  | .datum (.text s) => some (s.map fun l => .ofDatum (.text [l]))
  | .datum (.bytes bs) => some (bs.map fun b => .ofDatum (.int b.toNat))
  | .datum _ => none

/-- A name in a list of settings; nothing if it is not one that a setting could have. -/
def entryKey (v : Value) : Except Failure (Option Datum) :=
  let isDatum (v : Value) : Bool := v.view matches .datum _
  match v.view with
  | .datum d => .ok (some d)
  | .pair a b => if isDatum a && isDatum b then .ok none else .error .badSetting
  | _ => .error .badSetting

/-- The fields with one more; a field of the same key is replaced where it stands. -/
def insert (fields : Fields) (key : Datum) (v : Value) : Fields :=
  if fields.any (·.1.isSameKey key) then
    fields.map fun f => if f.1.isSameKey key then (f.1, v) else f
  else fields ++ [(key, v)]

/-- Settings with those that a list adds to them, from a place in it on. What could be the name of
no setting is kept as one that is not known. -/
def addEntries (fields : Fields) (place : Nat) : List Value → Except Failure Fields
  | [] => .ok fields
  | entry :: rest =>
    match elements? entry with
    | some [name, v] => do
      let key ← entryKey name
      addEntries (insert fields (key.getD .null) v) (place + 1) rest
    | some vs => .error (.noPair place vs.length)
    | none => .error .badSetting

def linkSettings (v : Value) : Except Failure Fields :=
  match v.view with
  | .map fields => .ok fields
  | _ =>
    match elements? v with
    | some entries => addEntries [] 0 entries
    | none => .error .badSetting

/-- The settings of a link beside its switch, if it is switched on. -/
def link (cfg : Value) (name : String) (default : Bool) (known : List String) :
    Except Failure (Option Fields) := do
  let fields ← linkSettings (← part cfg name)
  let on := ((named? fields "enabled").map Value.isSet).getD default
  let others := fields.filter fun f => !f.1.isNamed "enabled"
  if !on then return none
  else if others.all fun f => isAmong known f.1 then return some others
  else throw .badSetting

/-- A value as the whole number that a log line shows for it. -/
def shownNumber (v : Value) : Except Failure Int :=
  match v.view with
  | .datum (.int n) => if (Decimal.integerText? n).isSome then .ok n else .error .tooManyDigits
  | .datum (.bool b) => .ok (if b then 1 else 0)
  | .datum (.float x) => (Scalar.toInteger x).mapError .fault
  | _ => .error .badSetting

/-- A value as a log line shows it. -/
def shownText (v : Value) : Except Failure String :=
  (v.plain?.map .ok).getD (.error .tooManyDigits)

/-- The line to open, if one is to be. -/
def line (cfg : Value) : Except Failure (Option LineSettings) := do
  let some fields ← link cfg "serial" false ["port", "baud", "timeout"] | return none
  return some {
    port := (named? fields "port").getD (.ofText "/dev/ttyS0")
    baud := (named? fields "baud").getD (.ofDatum (.int 9600))
    timeout := (named? fields "timeout").getD (.ofDatum (.int 0)) }

/-- The address to listen on for datagrams. -/
def address (cfg : Value) : Except Failure (Option AddressSettings) := do
  let some fields ← link cfg "udp" true ["host", "port"] | return none
  return some {
    host := (named? fields "host").getD (.ofText "0.0.0.0")
    number := (named? fields "port").getD (.ofDatum (.int 5005)) }

end DifferentialDrive.Config
