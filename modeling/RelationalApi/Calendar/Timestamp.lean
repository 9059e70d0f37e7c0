import RelationalApi.Calendar.Date
import RelationalApi.Calendar.Time

/-!
# Timestamps

A timestamp is a date and a time in UTC.  It is read in the internet form with an offset, which is
taken off, or without one in a few shorter forms, which are in UTC already.  Answers show it with
milliseconds, cut and not rounded.
-/

namespace RelationalApi

/-- A moment in UTC. -/
structure Timestamp where
  date : Date
  time : Time
  deriving Repr, DecidableEq, Ord, Inhabited

namespace Timestamp

/-- The moment shown by a clock that is `offset` seconds ahead of UTC, if its year is in range. -/
def ofOffset? (date : Date) (time : Time) (offset : Int) : Option Timestamp :=
  let second := time.second - offset
  let shift := second / 86400
  let shifted := if shift = 0 then date else Date.ofDayNumber (date.dayNumber + shift)
  if Date.leastYear ≤ shifted.year && shifted.year ≤ Date.greatestYear then
    some ⟨shifted, ⟨(second % 86400).toNat, time.nanosecond⟩⟩
  else none

/-- The moment a number of nanoseconds after the start of 1970. -/
def ofNanoseconds (nanoseconds : Int) : Timestamp :=
  let second := nanoseconds / 1000000000
  ⟨Date.ofDayNumber (second / 86400),
    ⟨(second % 86400).toNat, (nanoseconds % 1000000000).toNat⟩⟩

/-- The moment a number of milliseconds after the start of 1970, if its year is in range. -/
def ofMilliseconds? (milliseconds : Int) : Option Timestamp :=
  let second := milliseconds / 1000
  let date := Date.ofDayNumber (second / 86400)
  if Date.leastYear ≤ date.year && date.year ≤ Date.greatestYear then
    some ⟨date, ⟨(second % 86400).toNat, (milliseconds % 1000).toNat * 1000000⟩⟩
  else none

/-- Reads an offset in seconds.  `separator` reads what stands between hours and minutes. -/
def readOffset (separator : List Char → Option (List Char)) :
    List Char → Option (Int × List Char)
  | 'Z' :: rest => some (0, rest)
  | 'z' :: rest => some (0, rest)
  | sign :: rest => do
    let negative ← if sign = '+' then some false
      else if sign = '-' || sign = '\u2212' then some true
      else none
    let (hours, rest) ← Calendar.readExact 2 rest
    let rest ← separator rest
    let (minutes, rest) ← Calendar.readExact 2 rest
    if hours < 24 && minutes < 60 then
      let offset : Int := hours * 3600 + minutes * 60
      some (if negative then -offset else offset, rest)
    else none
  | [] => none

/-- Reads the mark between date and time. -/
def readDivider : List Char → Option (List Char)
  | 'T' :: rest => some rest
  | 't' :: rest => some rest
  | ' ' :: rest => some rest
  | _ => none

/-- The moment written in the internet form with all digits of every field. -/
def ofInternetChars? (input : List Char) : Option Timestamp := do
  let (year, rest) ← Calendar.readExact 4 input
  let rest ← Calendar.readMark '-' rest
  let (month, rest) ← Calendar.readExact 2 rest
  let rest ← Calendar.readMark '-' rest
  let (day, rest) ← Calendar.readExact 2 rest
  let rest ← readDivider rest
  let (hour, rest) ← Calendar.readExact 2 rest
  let rest ← Calendar.readMark ':' rest
  let (minute, rest) ← Calendar.readExact 2 rest
  let rest ← Calendar.readMark ':' rest
  let (second, rest) ← Calendar.readExact 2 rest
  let (nanosecond, rest) ← Calendar.readFraction rest
  let (offset, rest) ← readOffset (Calendar.readMark ':') rest
  let date ← Date.ofParts? year month day
  let time ← Time.ofParts? hour minute second nanosecond
  if rest.isEmpty then ofOffset? date time offset else none

/-- The moment that a date, what stands between, and a time are as a whole. -/
def ofDateThen? (divider : List Char → Option (List Char))
    (time? : List Char → Option Time) (input : List Char) : Option Timestamp := do
  let (date, rest) ← Date.read input
  let rest ← divider rest
  let time ← time? rest
  some ⟨date, time⟩

/-- Drops the blanks between date and time, of which there may be none. -/
def skipBlanks (input : List Char) : Option (List Char) :=
  some (Text.trimFront input)

/-- The moment that a text is: the internet form, then a date with a time of seconds or minutes
behind a `T` or blanks, then a date alone. -/
def ofText? (text : String) : Option Timestamp :=
  let input := Text.trimBlanks text.toList
  (ofInternetChars? input).or <|
    (ofDateThen? (Calendar.readMark 'T') Time.ofSecondsChars? input).or <|
    (ofDateThen? skipBlanks Time.ofSecondsChars? input).or <|
    (ofDateThen? (Calendar.readMark 'T') Time.ofMinutesChars? input).or <|
    (ofDateThen? skipBlanks Time.ofMinutesChars? input).or <|
    match Date.read input with
    | some (date, []) => some ⟨date, Time.midnight⟩
    | _ => none

/-- The text in documents: the fewest groups of fraction digits, and `Z`. -/
def toText (timestamp : Timestamp) : String :=
  String.ofList (timestamp.date.textChars ++ 'T' :: timestamp.time.clockChars ++
    timestamp.time.fractionChars ++ ['Z'])

/-- The text in answers: three fraction digits, and `Z`. -/
def toMillisecondText (timestamp : Timestamp) : String :=
  let millisecond := timestamp.time.nanosecond % 1000000000 / 1000000
  String.ofList (timestamp.date.textChars ++ 'T' :: timestamp.time.clockChars ++
    '.' :: Calendar.padded 3 millisecond ++ ['Z'])

end Timestamp
end RelationalApi
