import DifferentialDrive.Decimal.Fixed

/-!
# Moments

A day of the calendar, or a time on one. `Moment.parse?` takes text apart into numbers and
`Moment.check` says which of them the calendar and the clock do not have.
-/

namespace DifferentialDrive.Document

/-- A time of day, with how many minutes it is ahead of the standard time if that is known. -/
structure Clock where
  hour : Nat
  minute : Nat
  second : Nat
  microsecond : Nat
  ahead : Option Int
  deriving Repr, DecidableEq

structure Moment where
  year : Nat
  month : Nat
  day : Nat
  clock : Option Clock
  deriving Repr, DecidableEq

namespace Moment

/-- A number of at least `least` and at most `most` digits that begins a text. -/
def number? (least most : Nat) (s : List Char) : Option (Nat × List Char) :=
  let digits := (s.take most).takeWhile Char.isDigit
  if digits.length < least then none
  else some (digits.foldl (fun n c => 10 * n + (c.toNat - 48)) 0, s.drop digits.length)

/-- A number after a given character. -/
def after? (mark : Char) (least most : Nat) : List Char → Option (Nat × List Char)
  | c :: rest => if c == mark then number? least most rest else none
  | [] => none

def isGap (c : Char) : Bool := c == ' ' || c == '\t'

/-- The millionths that digits after the point stand for; those beyond the sixth do not count. -/
def millionths (digits : List Char) : Nat :=
  let six := (digits ++ List.replicate 6 '0').take 6
  six.foldl (fun n c => 10 * n + (c.toNat - 48)) 0

/-- The part of a clock that tells its standard; nothing at all tells none. -/
def ahead? (s : List Char) : Option (Option Int) :=
  match s.dropWhile isGap with
  | [] => if s.isEmpty then some none else none
  | ['Z'] => some (some 0)
  | sign :: rest => do
    if sign != '+' && sign != '-' then none
    let (hours, rest) ← number? 1 2 rest
    let (minutes, rest) ← if rest.isEmpty then some (0, []) else after? ':' 2 2 rest
    let n : Int := 60 * hours + minutes
    if rest.isEmpty then some (some (if sign == '-' then -n else n)) else none

def clock? (s : List Char) : Option Clock := do
  let (hour, s) ← number? 1 2 s
  let (minute, s) ← after? ':' 2 2 s
  let (second, s) ← after? ':' 2 2 s
  let (fraction, s) :=
    match s with
    | '.' :: rest => (rest.takeWhile Char.isDigit, rest.dropWhile Char.isDigit)
    | s => ([], s)
  return ⟨hour, minute, second, millionths fraction, ← ahead? s⟩

/-- The numbers of a day, or of a day and a time after a `T` or blanks. -/
def parse? (s : List Char) : Option Moment := do
  let (year, s) ← number? 4 4 s
  let (month, s) ← after? '-' 1 2 s
  let (day, s) ← after? '-' 1 2 s
  match s with
  | [] => some ⟨year, month, day, none⟩
  | c :: rest =>
    if c == 'T' || c == 't' then return ⟨year, month, day, some (← clock? rest)⟩
    else if isGap c then return ⟨year, month, day, some (← clock? (rest.dropWhile isGap))⟩
    else none

def isLeap (year : Nat) : Bool := year % 4 == 0 && (year % 100 != 0 || year % 400 == 0)

def daysIn (year month : Nat) : Nat :=
  if month == 2 then if isLeap year then 29 else 28
  else if month == 4 || month == 6 || month == 9 || month == 11 then 30
  else 31

/-- The number of a day, counted from before the first of the first year. -/
def dayNumber (m : Moment) : Nat :=
  let before := m.year - 1
  let leapDays := before / 4 - before / 100 + before / 400
  let months := (List.range (m.month - 1)).foldl (fun days k => days + daysIn m.year (k + 1)) 0
  365 * before + leapDays + months + m.day

/-- The moment in millionths of a second of the standard time, for a clock so many minutes ahead
of it. -/
def instant (m : Moment) (c : Clock) (ahead : Int) : Int :=
  let minutes : Int := 1440 * m.dayNumber + 60 * c.hour + c.minute
  ((minutes - ahead) * 60 + c.second) * 1000000 + c.microsecond

/-- Whether two moments are one. They may differ in their standards if both are known. -/
def isSame (m n : Moment) : Bool :=
  match m.clock, n.clock with
  | some c, some d =>
    match c.ahead, d.ahead with
    | some a, some b => m.instant c a == n.instant d b
    | none, none => m == n
    | _, _ => false
  | none, none => m == n
  | _, _ => false

inductive Limit where
  | year (n : Nat)
  | month | day | hour | minute | second
  /-- A day or more ahead of the standard time or behind it, by its minutes. -/
  | ahead (minutes : Int)
  deriving Repr, DecidableEq

def clockLimit? (c : Clock) : Option Limit :=
  match c.ahead.filter fun n => 1440 ≤ n.natAbs with
  | some n => some (.ahead n)
  | none =>
    if 23 < c.hour then some .hour
    else if 59 < c.minute then some .minute
    else if 59 < c.second then some .second
    else none

/-- A limit that the numbers break. That of the standard comes before those of the day. -/
def limit? (m : Moment) : Option Limit :=
  let clock := m.clock.bind clockLimit?
  match clock with
  | some (.ahead n) => some (.ahead n)
  | _ =>
    if m.year == 0 then some (.year m.year)
    else if m.month == 0 || 12 < m.month then some .month
    else if m.day == 0 || daysIn m.year m.month < m.day then some .day
    else clock

/-- A length of time in days and seconds. -/
def spanText (minutes : Int) : String :=
  let days := Int.fdiv minutes 1440
  let seconds := Int.fmod minutes 1440 * 60
  let parts := (if days = 0 then [] else [s!"days={days}"]) ++
    (if seconds = 0 then [] else [s!"seconds={seconds}"])
  "datetime.timedelta(" ++ (if parts.isEmpty then "0" else ", ".intercalate parts) ++ ")"

def Limit.message : Limit → String
  | year n => s!"year {n} is out of range"
  | month => "month must be in 1..12"
  | day => "day is out of range for month"
  | hour => "hour must be in 0..23"
  | minute => "minute must be in 0..59"
  | second => "second must be in 0..59"
  | ahead n =>
    "offset must be a timedelta strictly between -timedelta(hours=24) and timedelta(hours=24), " ++
      "not " ++ spanText n ++ "."

def two (n : Nat) : String := Decimal.padded 2 n

def Clock.text (c : Clock) : String :=
  let micro := if c.microsecond = 0 then "" else "." ++ Decimal.padded 6 c.microsecond
  let ahead := (c.ahead.map fun n =>
    (if n < 0 then "-" else "+") ++ two (n.natAbs / 60) ++ ":" ++ two (n.natAbs % 60)).getD ""
  two c.hour ++ ":" ++ two c.minute ++ ":" ++ two c.second ++ micro ++ ahead

def text (m : Moment) : String :=
  let day := Decimal.padded 4 m.year ++ "-" ++ two m.month ++ "-" ++ two m.day
  match m.clock with
  | none => day
  | some c => day ++ " " ++ Clock.text c

/-- The numbers of a clock as arguments, without the trailing ones that are zero. -/
def Clock.arguments (c : Clock) : List String :=
  let small := if c.microsecond != 0 then [c.second, c.microsecond]
    else if c.second != 0 then [c.second] else []
  let zone := (c.ahead.map fun n =>
    if n = 0 then "tzinfo=datetime.timezone.utc"
    else "tzinfo=datetime.timezone(" ++ spanText n ++ ")").toList
  ([c.hour, c.minute] ++ small).map toString ++ zone

def shown (m : Moment) : String :=
  let day := [m.year, m.month, m.day].map toString
  match m.clock with
  | none => "datetime.date(" ++ ", ".intercalate day ++ ")"
  | some c => "datetime.datetime(" ++ ", ".intercalate (day ++ Clock.arguments c) ++ ")"

end Moment

end DifferentialDrive.Document
