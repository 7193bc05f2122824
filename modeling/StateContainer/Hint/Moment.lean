/-
This file makes dates, times of a day, moments and durations.

All of them are kept by how they are written. Only a moment that is made of a
number of seconds keeps that number too, since it is stored as one. Days are
counted by eras of four hundred years that begin in March, so that the day of a
leap year is the last one.
-/

import StateContainer.Hint.Given
import StateContainer.Hint.Operator

namespace StateContainer.Hint

/-! ### Dates -/

/-- A date. -/
structure Date where
  year : Int
  month : Int
  day : Int
deriving DecidableEq, Repr

/-- The date so many days after the first day of 1970. -/
def Date.ofDays (days : Int) : Date :=
  let shifted := days + 719468
  let era := shifted / 146097
  let dayOfEra := shifted % 146097
  let yearOfEra := (dayOfEra - dayOfEra / 1460 + dayOfEra / 36524 - dayOfEra / 146096) / 365
  let dayOfYear := dayOfEra - (365 * yearOfEra + yearOfEra / 4 - yearOfEra / 100)
  let shiftedMonth := (5 * dayOfYear + 2) / 153
  let month := if shiftedMonth < 10 then shiftedMonth + 3 else shiftedMonth - 9
  { year := yearOfEra + era * 400 + (if month ≤ 2 then 1 else 0)
    month
    day := dayOfYear - (153 * shiftedMonth + 2) / 5 + 1 }

/-- Whether a year has a leap day. -/
def isLeapYear (year : Int) : Bool :=
  year % 4 == 0 && (year % 100 != 0 || year % 400 == 0)

/-- The number of days in a month. -/
def Date.daysInMonth (d : Date) : Int :=
  if d.month = 2 then if isLeapYear d.year then 29 else 28
  else if [4, 6, 9, 11].contains d.month then 30
  else 31

/-- Refuses a date that there is not. -/
def Date.check (d : Date) : Evaluation Unit :=
  let year := d.year
  if year < 1 || 9999 < year then invalid s!"year {year} is out of range"
  else if d.month < 1 || 12 < d.month then invalid "month must be in 1..12"
  else if d.day < 1 || d.daysInMonth < d.day then invalid "day is out of range for month"
  else return ()

/-- The numbers of a date. -/
def Date.parts (d : Date) : List Int :=
  [d.year, d.month, d.day]

/-! ### Times of a day -/

/-- A time of a day. -/
structure TimeOfDay where
  hour : Int
  minute : Int
  second : Int
  microsecond : Int
deriving DecidableEq, Repr

/-- Refuses a time that there is not. -/
def TimeOfDay.check (t : TimeOfDay) : Evaluation Unit :=
  if t.hour < 0 || 23 < t.hour then invalid "hour must be in 0..23"
  else if t.minute < 0 || 59 < t.minute then invalid "minute must be in 0..59"
  else if t.second < 0 || 59 < t.second then invalid "second must be in 0..59"
  else if t.microsecond < 0 || 999999 < t.microsecond then
    invalid "microsecond must be in 0..999999"
  else return ()

/-- The numbers of a time that are written: the last ones are left out if they are zero. -/
def TimeOfDay.parts (t : TimeOfDay) : List Int :=
  [t.hour, t.minute] ++
    if t.microsecond ≠ 0 then [t.second, t.microsecond]
    else if t.second ≠ 0 then [t.second]
    else []

/-- The time so many seconds and millionths after the start of a day. -/
def TimeOfDay.ofSeconds (seconds microsecond : Int) : TimeOfDay :=
  { hour := seconds / 3600, minute := seconds / 60 % 60, second := seconds % 60, microsecond }

/-! ### Texts -/

/-- How something is written that is made of numbers, with what is told by name. -/
def madeOf (title : String) (numbers : List Int) (named : List (String × String)) : String :=
  let shown := numbers.map Value.decimalText ++ named.map fun (name, text) => name ++ "=" ++ text
  title ++ "(" ++ ", ".intercalate shown ++ ")"

/-- Something of a class of dates and times, as it is written. -/
def ofDateClass (path shown : String) : Hint :=
  thing ⟨"datetime." ++ path, shown, none, none⟩

/-! ### Durations -/

/-- How many millionths of a second the units of a duration have. -/
def durationUnits : List (String × Int) := [
  ("microseconds", 1), ("milliseconds", 1000), ("seconds", 1000000), ("minutes", 60000000),
  ("hours", 3600000000), ("days", 86400000000), ("weeks", 604800000000)]

/-- A number without its fraction, and the fraction. -/
def splitFraction (x : Binary64) : Option (Int × Binary64) :=
  x.truncate?.map fun whole => (whole, x.sub (.ofInt whole))

/-- Adds so many units to the millionths of a duration, of which some part is left over. -/
def addUnits (total : Int × Binary64) (unit : String) (factor : Int) (hint : Hint) :
    Evaluation (Int × Binary64) := do
  match hint, numeric? hint with
  | _, some (.int n) => return (total.1 + n * factor, total.2)
  | value (.float x), _ =>
    match splitFraction x with
    | none =>
      if x.isNaN then invalid "cannot convert float NaN to integer"
      else throw (.raised "OverflowError" "cannot convert float infinity to integer")
    | some (whole, fraction) =>
      match splitFraction (fraction.mul (.ofInt factor)) with
      | some (more, left) => return (total.1 + whole * factor + more, total.2.add left)
      | none => return total
  | other, _ =>
    misused (.other s!"unsupported type for timedelta {unit} component: {other.kindName}")

/-- The integer nearest to what is left over, so that a half makes the whole duration even. -/
def roundedRest (total : Int) (left : Binary64) : Int :=
  let doubled := 2 * total * left.denominator + 2 * (if left.isNegative then -1 else 1) * left.numerator
  let below := (doubled + left.denominator) / (2 * left.denominator)
  let isHalf := (doubled + left.denominator) % (2 * left.denominator) = 0
  if isHalf && below % 2 = 1 then below - 1 else below

/-- How a duration is written. -/
def durationText (total : Int) : String :=
  let parts := [("days", total / 86400000000), ("seconds", total / 1000000 % 86400),
    ("microseconds", total % 1000000)]
  let named := (parts.filter (·.2 ≠ 0)).map fun (name, n) => (name, Value.decimalText n)
  madeOf "datetime.timedelta" (if named.isEmpty then [0] else []) named

/-- The duration of a call. -/
def makeDuration (given : Given) : Evaluation Hint := do
  let parts ← takeInOrder "__new__()"
    ["days", "seconds", "microseconds", "milliseconds", "minutes", "hours", "weeks"] 0 0
    (fun _ part => return part) given
  let (whole, left) ← durationUnits.foldlM (fun total (unit, factor) =>
    match parts.lookup unit with
    | some part => addUnits total unit factor part
    | none => return total) ((0 : Int), Binary64.zero false)
  let total := roundedRest whole left
  let days := total / 86400000000
  if 999999999 < days || days < -999999999 then
    throw (.raised "OverflowError" s!"days={days}; must have magnitude <= 999999999")
  else return ofDateClass "timedelta" (durationText total)

/-! ### Zones -/

/-- Whether something is a zone, or is left out. -/
def isZone : Hint → Bool
  | value .null => true
  | thing t => t.kind = "datetime.timezone" || t.kind = "datetime.tzinfo"
  | _ => false

/-- What is written of the zone and of the fold of a time. -/
def zoneParts (parts : List (String × Int × Hint)) : List (String × String) :=
  let fold := ((parts.lookup "fold").map (·.1)).getD 0
  let zone := ((parts.lookup "tzinfo").map (·.2)).getD null
  (if fold = 0 then [] else [("fold", Value.decimalText fold)]) ++
    match zone with
    | value .null => []
    | other => [("tzinfo", other.written)]

/-- Reads an argument of a time: a zone, or a number. -/
def timePart (name : String) (hint : Hint) : Evaluation (Int × Hint) :=
  if name = "tzinfo" then return (0, hint) else do return (← wordGiven hint, hint)

/-- Refuses what is no zone, and a fold that there is not. -/
def checkZone (parts : List (String × Int × Hint)) : Evaluation Unit := do
  let fold := ((parts.lookup "fold").map (·.1)).getD 0
  let zone := ((parts.lookup "tzinfo").map (·.2)).getD null
  if fold ≠ 0 && fold ≠ 1 then invalid "fold must be either 0 or 1"
  else if zone.isZone then return ()
  else
    misused (.other ("tzinfo argument must be None or of a tzinfo subclass, not type '" ++
      zone.kindName ++ "'"))

/-! ### Making -/

/-- The date of a call. -/
def makeDate (given : Given) : Evaluation Hint := do
  let parts ← takeInOrder "function" ["year", "month", "day"] 3 0 (fun _ => wordGiven) given
  let part (name : String) : Int := (parts.lookup name).getD 0
  let date : Date := ⟨part "year", part "month", part "day"⟩
  date.check
  return ofDateClass "date" (madeOf "datetime.date" date.parts [])

/-- The time of a day of a call. -/
def makeTime (given : Given) : Evaluation Hint := do
  let parts ← takeInOrder "function" ["hour", "minute", "second", "microsecond", "tzinfo", "fold"]
    0 1 timePart given
  let part (name : String) : Int := ((parts.lookup name).map (·.1)).getD 0
  let time : TimeOfDay := ⟨part "hour", part "minute", part "second", part "microsecond"⟩
  time.check
  checkZone parts
  return ofDateClass "time" (madeOf "datetime.time" time.parts (zoneParts parts))

/-- The moment of a call. -/
def makeMoment (given : Given) : Evaluation Hint := do
  let parts ← takeInOrder "function"
    ["year", "month", "day", "hour", "minute", "second", "microsecond", "tzinfo", "fold"]
    3 1 timePart given
  let part (name : String) : Int := ((parts.lookup name).map (·.1)).getD 0
  let date : Date := ⟨part "year", part "month", part "day"⟩
  let time : TimeOfDay := ⟨part "hour", part "minute", part "second", part "microsecond"⟩
  date.check
  time.check
  checkZone parts
  return ofDateClass "datetime"
    (madeOf "datetime.datetime" (date.parts ++ time.parts) (zoneParts parts))

/-! ### Moments of seconds -/

/-- A number of seconds is out of range. -/
def secondsOutOfRange {α : Type} : Evaluation α :=
  throw (.raised "OverflowError" "timestamp out of range for platform time_t")

/-- The millionths of a second in a number of seconds, rounded to the nearest one. -/
def millionthsOf (x : Binary64) : Option Int := do
  let (whole, fraction) ← splitFraction x
  let millionths := fraction.mul (.ofInt 1000000)
  let nearest : Int := Binary64.roundQuotient millionths.numerator millionths.denominator
  return whole * 1000000 + (if millionths.isNegative then -nearest else nearest)

/-- The moment so many millionths of a second after the first one. -/
def momentAt (total : Int) : Evaluation Hint :=
  let seconds := total / 1000000
  let date := Date.ofDays (seconds / 86400)
  let year := date.year
  if twoPower 63 ≤ seconds || seconds < -twoPower 63 then secondsOutOfRange
  else if 2147483647 + 1900 < year || year < -2147483648 + 1900 then
    throw (.raised "OSError" "[Errno 75] Value too large for defined data type")
  else if year < 1 || 9999 < year then invalid s!"year {year} is out of range"
  else
    let time := TimeOfDay.ofSeconds (seconds % 86400) (total % 1000000)
    let zone := "datetime.timezone(datetime.timedelta(0), 'UTC')"
    let shown := madeOf "datetime.datetime" (date.parts ++ time.parts) [("tzinfo", zone)]
    return value (.wrapped "datetime" shown (.float (.ofRatio (total < 0) total.natAbs 1000000)))

/-- The moment that a number of seconds stands for. -/
def toMoment (hint : Hint) : Evaluation Hint :=
  match hint with
  | value (.wrapped "datetime" shown content) => return value (.wrapped "datetime" shown content)
  | value (.float x) =>
    if x.isNaN then invalid "Invalid value NaN (not a number)"
    else
      match millionthsOf x with
      | some total => momentAt total
      | none => secondsOutOfRange
  | other => do momentAt ((← integerGiven other) * 1000000)

end StateContainer.Hint
