import RelationalApi.Calendar.Field

/-!
# Calendar dates

Dates of the proleptic Gregorian calendar with years from -262143 to 262142, their distance from
1 January 1970 in days, and their text.  Years outside 0 to 9999 are written with a sign.
-/

namespace RelationalApi

/-- A day of the calendar. -/
structure Date where
  year : Int
  month : Nat
  day : Nat
  deriving Repr, DecidableEq, Ord, Inhabited

namespace Date

def leastYear : Int := -262143

def greatestYear : Int := 262142

def isLeapYear (year : Int) : Bool :=
  year % 4 == 0 && (year % 100 != 0 || year % 400 == 0)

/-- The number of days of a month; months outside the year have none. -/
def daysInMonth (year : Int) (month : Nat) : Nat :=
  if month = 2 then if isLeapYear year then 29 else 28
  else if month = 4 || month = 6 || month = 9 || month = 11 then 30
  else if 1 ≤ month && month ≤ 12 then 31
  else 0

/-- The date with the given parts, if there is one. -/
def ofParts? (year : Int) (month day : Nat) : Option Date :=
  if leastYear ≤ year && year ≤ greatestYear && 1 ≤ day && day ≤ daysInMonth year month then
    some ⟨year, month, day⟩
  else none

/-- The number of days from 1 January 1970.  The count runs over years that start in March, so
that the leap day is the last day of its year. -/
def dayNumber (date : Date) : Int :=
  let year := if date.month ≤ 2 then date.year - 1 else date.year
  let month : Int := if date.month ≤ 2 then date.month + 9 else date.month - 3
  let era := year / 400
  let yearOfEra := year % 400
  let dayOfYear := (153 * month + 2) / 5 + date.day - 1
  let dayOfEra := yearOfEra * 365 + yearOfEra / 4 - yearOfEra / 100 + dayOfYear
  era * 146097 + dayOfEra - 719468

/-- The date that lies a number of days after 1 January 1970. -/
def ofDayNumber (dayNumber : Int) : Date :=
  let shifted := dayNumber + 719468
  let era := shifted / 146097
  let dayOfEra := shifted % 146097
  let yearOfEra := (dayOfEra - dayOfEra / 1460 + dayOfEra / 36524 - dayOfEra / 146096) / 365
  let dayOfYear := dayOfEra - (365 * yearOfEra + yearOfEra / 4 - yearOfEra / 100)
  let monthFromMarch := (5 * dayOfYear + 2) / 153
  let day := dayOfYear - (153 * monthFromMarch + 2) / 5 + 1
  let month := if monthFromMarch < 10 then monthFromMarch + 3 else monthFromMarch - 9
  let year := yearOfEra + era * 400
  ⟨if month ≤ 2 then year + 1 else year, month.toNat, day.toNat⟩

/-- Reads the three fields of a date. -/
def read (input : List Char) : Option (Date × List Char) := do
  let (year, rest) ← Calendar.readYear input
  let rest ← Calendar.readMark '-' rest
  let (month, rest) ← Calendar.readPadded rest
  let rest ← Calendar.readMark '-' rest
  let (day, rest) ← Calendar.readPadded rest
  let date ← ofParts? year month day
  some (date, rest)

/-- The date that a text is as a whole. -/
def ofText? (text : String) : Option Date :=
  match read text.toList with
  | some (date, []) => some date
  | _ => none

/-- A year: four digits, or a sign and at least four digits. -/
def yearText (year : Int) : List Char :=
  if year < 0 then '-' :: Calendar.padded 4 year.natAbs
  else if 9999 < year then '+' :: Calendar.padded 4 year.natAbs
  else Calendar.padded 4 year.natAbs

/-- The characters of a date. -/
def textChars (date : Date) : List Char :=
  yearText date.year ++ '-' :: Calendar.padded 2 date.month ++ '-' :: Calendar.padded 2 date.day

/-- The text of a date. -/
def toText (date : Date) : String :=
  String.ofList date.textChars

end Date
end RelationalApi
