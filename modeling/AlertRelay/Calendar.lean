import AlertRelay.Number.Integer

/-!
# Dates and timestamps

Days of the calendar that is in force for all years from 1 to 9999, with a time
of the day to the microsecond and, if it is known, the distance to universal
time in minutes.
-/

namespace AlertRelay.Calendar

open AlertRelay.Number

structure Date where
  year : Nat
  month : Nat
  day : Nat
  deriving DecidableEq, Repr, Inhabited

structure Timestamp where
  date : Date
  hour : Nat
  minute : Nat
  second : Nat
  microsecond : Nat
  offset : Option Int
  deriving DecidableEq, Repr, Inhabited

def isLeap (year : Nat) : Bool := year % 4 == 0 && (year % 100 != 0 || year % 400 == 0)

def daysInMonth (year month : Nat) : Nat :=
  if month = 2 then (if isLeap year then 29 else 28)
  else if month = 4 ∨ month = 6 ∨ month = 9 ∨ month = 11 then 30
  else 31

def Date.isValid (d : Date) : Bool :=
  1 ≤ d.year && d.year ≤ 9999 && 1 ≤ d.month && d.month ≤ 12 &&
    1 ≤ d.day && d.day ≤ daysInMonth d.year d.month

/-- The offset is less than a day either way. -/
def Timestamp.isValid (t : Timestamp) : Bool :=
  t.date.isValid && t.hour < 24 && t.minute < 60 && t.second < 60 && t.microsecond < 1000000 &&
    (match t.offset with
     | none => true
     | some minutes => -1440 < minutes && minutes < 1440)

/-! ## Instants -/

def daysBeforeYear (year : Nat) : Nat :=
  let y := year - 1
  y * 365 + y / 4 - y / 100 + y / 400

/-- The days from the first day of the year 1 up to the date. -/
def Date.ordinal (d : Date) : Nat :=
  (List.range (d.month - 1)).foldl (fun days m => days + daysInMonth d.year (m + 1))
    (daysBeforeYear d.year) + d.day

/-- Microseconds on the clock of the timestamp, since the year 1. -/
def Timestamp.localClock (t : Timestamp) : Int :=
  ((((t.date.ordinal : Int) * 24 + t.hour) * 60 + t.minute) * 60 + t.second) * 1000000 +
    t.microsecond

/-- Whether two timestamps mean the same moment; one with an offset never
equals one without. -/
def Timestamp.sameMoment (t u : Timestamp) : Bool :=
  match t.offset, u.offset with
  | none, none => t.localClock == u.localClock
  | some a, some b => t.localClock - a * 60000000 == u.localClock - b * 60000000
  | _, _ => false

/-! ## Clocks -/

/-- The date that comes the given number of days after the first day of a month;
each step goes to the first day of the month after it. -/
def Date.afterDays : Nat → Date → Nat → Date
  | 0, d, _ => d
  | steps + 1, d, days =>
      let size := daysInMonth d.year d.month
      if days < size then { d with day := days + 1 }
      else
        let next : Date := if d.month = 12 then ⟨d.year + 1, 1, 1⟩ else ⟨d.year, d.month + 1, 1⟩
        afterDays steps next (days - size)

/-- The timestamp of a clock that counts microseconds of universal time from the
first day of the year 1970. -/
def Timestamp.ofClock (microseconds : Nat) : Timestamp :=
  let seconds := microseconds / 1000000
  let days := seconds / 86400
  { date := Date.afterDays (days / 28 + 1) ⟨1970, 1, 1⟩ days
    hour := seconds / 3600 % 24
    minute := seconds / 60 % 60
    second := seconds % 60
    microsecond := microseconds % 1000000
    offset := some 0 }

/-! ## Texts -/

/-- Year, month and day with dashes. -/
def Date.text (d : Date) : String :=
  paddedText 4 d.year ++ "-" ++ paddedText 2 d.month ++ "-" ++ paddedText 2 d.day

/-- An offset as a sign, hours and minutes. -/
def offsetText (minutes : Int) : String :=
  (if minutes < 0 then "-" else "+") ++ paddedText 2 (minutes.natAbs / 60) ++ ":" ++
    paddedText 2 (minutes.natAbs % 60)

/-- The date, the time and the offset; a fraction only if there is one. -/
def Timestamp.text (t : Timestamp) : String :=
  t.date.text ++ " " ++ paddedText 2 t.hour ++ ":" ++ paddedText 2 t.minute ++ ":" ++
    paddedText 2 t.second ++
    (if t.microsecond = 0 then "" else "." ++ paddedText 6 t.microsecond) ++
    (match t.offset with
     | none => ""
     | some minutes => offsetText minutes)

/-- The date and the time of the day in one word; the letter at its end stands
for universal time. -/
def Timestamp.stamp (t : Timestamp) : String :=
  let time := { t with offset := none }
  String.ofList (time.text.toList.map fun c => if c = ' ' then 'T' else c) ++ "Z"

def commaList (parts : List String) : String := ", ".intercalate parts

/-- A date written as the call that makes it. -/
def Date.constructorText (d : Date) : String :=
  "datetime.date(" ++ commaList ([d.year, d.month, d.day].map fun (n : Nat) => integerText n) ++ ")"

/-- An offset written as the call that makes it: whole days are counted
downwards, so that the seconds are never negative. -/
def offsetConstructorText (minutes : Int) : String :=
  if minutes = 0 then "datetime.timezone.utc"
  else if minutes < 0 then
    "datetime.timezone(datetime.timedelta(days=-1, seconds=" ++
      integerText (86400 + minutes * 60) ++ "))"
  else "datetime.timezone(datetime.timedelta(seconds=" ++ integerText (minutes * 60) ++ "))"

/-- A timestamp written as the call that makes it; microseconds that are zero
are left out, and then seconds that are zero too. -/
def Timestamp.constructorText (t : Timestamp) : String :=
  let small :=
    if t.microsecond ≠ 0 then [t.second, t.microsecond]
    else if t.second ≠ 0 then [t.second]
    else []
  let numbers := [t.date.year, t.date.month, t.date.day, t.hour, t.minute] ++ small
  let zone :=
    match t.offset with
    | none => []
    | some minutes => ["tzinfo=" ++ offsetConstructorText minutes]
  "datetime.datetime(" ++ commaList (numbers.map (fun (n : Nat) => integerText n) ++ zone) ++ ")"

end AlertRelay.Calendar
