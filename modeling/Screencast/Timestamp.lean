import Screencast.Text.Split

/-!
# Points in time

A timestamp is a civil date and time of day with the offset of its clock from universal time in
minutes. Two timestamps are compared by the instant they name, whatever their offsets.
-/

namespace Screencast

/-- A date and time of day at an offset from universal time. -/
structure Timestamp where
  year : Int
  month : Nat
  day : Nat
  hour : Nat
  minute : Nat
  second : Nat
  nanosecond : Nat
  offsetMinutes : Int
  deriving DecidableEq, Repr, Inhabited

namespace Timestamp

/-- Whether a year has 366 days. -/
def isLeap (year : Int) : Bool := (year % 4 == 0 && year % 100 != 0) || year % 400 == 0

/-- The number of days in a month. -/
def daysInMonth (year : Int) (month : Nat) : Nat :=
  if month = 2 then if isLeap year then 29 else 28
  else if month = 4 ∨ month = 6 ∨ month = 9 ∨ month = 11 then 30
  else 31

/-- The number of days from the first of January 1970 to a date. Years are counted from March, so
that the leap day is the last of its year. -/
def daysFromEpoch (year : Int) (month day : Nat) : Int :=
  let shifted : Int := if month ≤ 2 then year - 1 else year
  let era := shifted / 400
  let yearOfEra := shifted % 400
  let monthIndex : Int := ((month + 9) % 12 : Nat)
  let dayOfYear := (153 * monthIndex + 2) / 5 + (day : Int) - 1
  let dayOfEra := yearOfEra * 365 + yearOfEra / 4 - yearOfEra / 100 + dayOfYear
  era * 146097 + dayOfEra - 719468

/-- The date a number of days after the first of January 1970. -/
def dateOfDays (days : Int) : Int × Nat × Nat :=
  let shifted := days + 719468
  let era := shifted / 146097
  let dayOfEra := shifted % 146097
  let yearOfEra := (dayOfEra - dayOfEra / 1460 + dayOfEra / 36524 - dayOfEra / 146096) / 365
  let dayOfYear := dayOfEra - (365 * yearOfEra + yearOfEra / 4 - yearOfEra / 100)
  let monthIndex := (5 * dayOfYear + 2) / 153
  let day := dayOfYear - (153 * monthIndex + 2) / 5 + 1
  let month := if monthIndex < 10 then monthIndex + 3 else monthIndex - 9
  let year := yearOfEra + era * 400
  (if month ≤ 2 then year + 1 else year, month.toNat, day.toNat)

/-- The seconds from the start of 1970 in universal time. -/
def unixSeconds (time : Timestamp) : Int :=
  daysFromEpoch time.year time.month time.day * 86400 +
    ((time.hour * 60 + time.minute) * 60 + time.second : Nat) - time.offsetMinutes * 60

/-- The instant a timestamp names, in nanoseconds from the start of 1970 in universal time. -/
def instant (time : Timestamp) : Int := time.unixSeconds * 1000000000 + time.nanosecond

/-- The point in time a number of seconds and nanoseconds after the start of 1970, in universal
time. -/
def ofUnix (seconds : Int) (nanosecond : Nat) : Timestamp :=
  let (year, month, day) := dateOfDays (seconds / 86400)
  let secondOfDay := (seconds % 86400).toNat
  { year, month, day
    hour := secondOfDay / 3600
    minute := secondOfDay / 60 % 60
    second := secondOfDay % 60
    nanosecond
    offsetMinutes := 0 }

/-- The same instant on a clock of universal time. -/
def toUtc (time : Timestamp) : Timestamp := ofUnix time.unixSeconds time.nanosecond

/-- The day of the week, from Sunday as 0. -/
def weekday (time : Timestamp) : Nat :=
  ((daysFromEpoch time.year time.month time.day + 4) % 7).toNat

/-! ## Internet timestamps -/

/-- The digits of a fraction of a second without trailing zeros, with the point before them. -/
def fractionText (nanosecond : Nat) : String :=
  if nanosecond = 0 then ""
  else "." ++ Text.trimTrailing '0' (Text.padded 9 nanosecond)

/-- An offset as a sign, hours, a separator and minutes. -/
def offsetText (separator : String) (offsetMinutes : Int) : String :=
  let sign := if offsetMinutes < 0 then "-" else "+"
  sign ++ Text.padded 2 (offsetMinutes.natAbs / 60) ++ separator ++
    Text.padded 2 (offsetMinutes.natAbs % 60)

/-- The RFC 3339 form of a timestamp, which exists for years of four digits. -/
def rfc3339? (time : Timestamp) : Option String :=
  if 0 ≤ time.year ∧ time.year ≤ 9999 then
    let zone := if time.offsetMinutes = 0 then "Z" else offsetText ":" time.offsetMinutes
    some (Text.padded 4 time.year.toNat ++ "-" ++ Text.padded 2 time.month ++ "-" ++
      Text.padded 2 time.day ++ "T" ++ Text.padded 2 time.hour ++ ":" ++
      Text.padded 2 time.minute ++ ":" ++ Text.padded 2 time.second ++
      fractionText time.nanosecond ++ zone)
  else none

/-- The number written by exactly the given count of decimal digits, and what follows it. -/
def takeNumber? : Nat → Nat → List Char → Option (Nat × List Char)
  | 0, value, chars => some (value, chars)
  | _ + 1, _, [] => none
  | count + 1, value, char :: rest =>
    if char.isDigit then takeNumber? count (value * 10 + (char.toNat - '0'.toNat)) rest else none

/-- Drop one of the given characters. -/
def dropOneOf? (allowed : List Char) : List Char → Option (List Char)
  | [] => none
  | char :: rest => if allowed.contains char then some rest else none

/-- Drop the character between a date and a time of day, which may be any that ASCII has. -/
def dropSeparator? : List Char → Option (List Char)
  | [] => none
  | char :: rest => if char.toNat < 128 then some rest else none

/-- Read the digits of a fraction as nanoseconds; digits after the ninth do not count. -/
def takeFraction? (chars : List Char) : Option (Nat × List Char) :=
  match chars with
  | '.' :: rest =>
    let digits := rest.takeWhile Char.isDigit
    if digits.isEmpty then none
    else
      let counted := (digits ++ List.replicate 9 '0').take 9
      (takeNumber? 9 0 counted).map fun (value, _) => (value, rest.drop digits.length)
  | _ => some (0, chars)

/-- Read the offset that ends a timestamp. -/
def readOffset? (chars : List Char) : Option Int :=
  match chars with
  | ['Z'] => some 0
  | ['z'] => some 0
  | sign :: rest => do
    if sign ≠ '+' ∧ sign ≠ '-' then none
    else
      let (hours, rest) ← takeNumber? 2 0 rest
      let rest ← dropOneOf? [':'] rest
      let (minutes, rest) ← takeNumber? 2 0 rest
      if hours ≤ 23 ∧ minutes ≤ 59 ∧ rest = [] then
        let size : Int := (hours * 60 + minutes : Nat)
        pure (if sign = '-' then -size else size)
      else none
  | [] => none

/-- Whether a timestamp stands in the last second of a month in universal time, where a leap second
may follow. -/
def endsMonth (time : Timestamp) : Bool :=
  let utc := time.toUtc
  utc.year ≤ 9999 && -9999 ≤ utc.year && utc.hour == 23 && utc.minute == 59 && utc.second == 59 &&
    utc.day == daysInMonth utc.year utc.month

/-- Read an RFC 3339 timestamp. A leap second becomes the last nanosecond before it. -/
def readChars? (chars : List Char) : Option Timestamp := do
  let (year, rest) ← takeNumber? 4 0 chars
  let rest ← dropOneOf? ['-'] rest
  let (month, rest) ← takeNumber? 2 0 rest
  let rest ← dropOneOf? ['-'] rest
  let (day, rest) ← takeNumber? 2 0 rest
  let rest ← dropSeparator? rest
  let (hour, rest) ← takeNumber? 2 0 rest
  let rest ← dropOneOf? [':'] rest
  let (minute, rest) ← takeNumber? 2 0 rest
  let rest ← dropOneOf? [':'] rest
  let (second, rest) ← takeNumber? 2 0 rest
  let (nanosecond, rest) ← takeFraction? rest
  let offsetMinutes ← readOffset? rest
  let year : Int := (year : Nat)
  if 1 ≤ month ∧ month ≤ 12 ∧ 1 ≤ day ∧ day ≤ daysInMonth year month ∧ hour ≤ 23 ∧ minute ≤ 59 then
    if second ≤ 59 then
      pure { year, month, day, hour, minute, second, nanosecond, offsetMinutes }
    else if second = 60 then
      let before : Timestamp :=
        { year, month, day, hour, minute, second := 59, nanosecond := 999999999, offsetMinutes }
      if before.endsMonth then pure before else none
    else none
  else none

/-- Read the text of an RFC 3339 timestamp. -/
def parse? (text : String) : Option Timestamp := readChars? text.toList

/-! ## Mail timestamps -/

/-- The short name of a day of the week. -/
def weekdayName (weekday : Nat) : String :=
  ["Sun", "Mon", "Tue", "Wed", "Thu", "Fri", "Sat"].getD weekday ""

/-- The short name of a month. -/
def monthName (month : Nat) : String :=
  ["Jan", "Feb", "Mar", "Apr", "May", "Jun", "Jul", "Aug", "Sep", "Oct", "Nov", "Dec"].getD
    (month - 1) ""

/-- The RFC 2822 form of a timestamp, which exists from the year 1900 on. -/
def rfc2822? (time : Timestamp) : Option String :=
  if 1900 ≤ time.year ∧ time.year ≤ 9999 then
    some (weekdayName time.weekday ++ ", " ++ Text.padded 2 time.day ++ " " ++
      monthName time.month ++ " " ++ Text.padded 4 time.year.toNat ++ " " ++
      Text.padded 2 time.hour ++ ":" ++ Text.padded 2 time.minute ++ ":" ++
      Text.padded 2 time.second ++ " " ++ offsetText "" time.offsetMinutes)
  else none

end Timestamp

end Screencast
