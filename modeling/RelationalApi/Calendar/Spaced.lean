import RelationalApi.Calendar.Timestamp

/-!
# Spaced dates and times

Documents for requests and answers give dates, times and timestamps in a wider form than clients
do.  Blanks may stand before every field, before every mark and behind the whole.  Seconds of a
time may be left out, and a timestamp has an offset, which may be `UTC`.
-/

namespace RelationalApi

/-- Reads one given character, which may follow blanks. -/
def Calendar.readSpacedMark (mark : Char) (input : List Char) : Option (List Char) :=
  readMark mark (Text.trimFront input)

/-- The value read, if nothing but blanks follows it. -/
def Calendar.whole? {α : Type} : Option (α × List Char) → Option α
  | some (value, rest) => if (Text.trimFront rest).isEmpty then some value else none
  | none => none

namespace Date

/-- Reads the three fields of a date. -/
def readSpaced (input : List Char) : Option (Date × List Char) := do
  let (year, rest) ← Calendar.readYear input
  let rest ← Calendar.readSpacedMark '-' rest
  let (month, rest) ← Calendar.readPadded rest
  let rest ← Calendar.readSpacedMark '-' rest
  let (day, rest) ← Calendar.readPadded rest
  let date ← ofParts? year month day
  some (date, rest)

/-- The date that a text is as a whole. -/
def ofSpacedText? (text : String) : Option Date :=
  Calendar.whole? (readSpaced text.toList)

end Date

namespace Time

/-- Reads hour and minute. -/
def readSpacedMinutes (input : List Char) : Option (Nat × Nat × List Char) := do
  let (hour, rest) ← Calendar.readPadded input
  let rest ← Calendar.readSpacedMark ':' rest
  let (minute, rest) ← Calendar.readPadded rest
  some (hour, minute, rest)

/-- Reads hour, minute, second and an optional fraction. -/
def readSpacedSeconds (input : List Char) : Option (Time × List Char) := do
  let (hour, minute, rest) ← readSpacedMinutes input
  let rest ← Calendar.readSpacedMark ':' rest
  let (second, rest) ← Calendar.readPadded rest
  let (nanosecond, rest) ← Calendar.readFraction rest
  let time ← ofParts? hour minute second nanosecond
  some (time, rest)

/-- Reads hour and minute as a time. -/
def readSpacedMinuteTime (input : List Char) : Option (Time × List Char) := do
  let (hour, minute, rest) ← readSpacedMinutes input
  let time ← ofParts? hour minute 0 0
  some (time, rest)

/-- The time that a text is as a whole, with or without seconds. -/
def ofSpacedText? (text : String) : Option Time :=
  (Calendar.whole? (readSpacedSeconds text.toList)).or
    (Calendar.whole? (readSpacedMinuteTime text.toList))

end Time

namespace Timestamp

/-- Drops colons and blanks between the parts of an offset. -/
def skipSeparators (input : List Char) : Option (List Char) :=
  some (input.dropWhile fun character => character == ':' || Text.isBlank character)

/-- Reads an offset in seconds, which may be `UTC` in either case and may follow blanks. -/
def readSpacedOffset (input : List Char) : Option (Int × List Char) :=
  let input := Text.trimFront input
  if (input.take 3).map Char.toUpper = ['U', 'T', 'C'] then some (0, input.drop 3)
  else readOffset skipSeparators input

/-- Reads a date, one character between, a time with seconds and an offset. -/
def readSpaced (input : List Char) : Option (Timestamp × List Char) := do
  let (date, rest) ← Date.readSpaced input
  let rest ← readDivider rest
  let (time, rest) ← Time.readSpacedSeconds rest
  let (offset, rest) ← readSpacedOffset rest
  let moment ← ofOffset? date time offset
  some (moment, rest)

/-- The moment that a text is as a whole. -/
def ofSpacedText? (text : String) : Option Timestamp :=
  Calendar.whole? (readSpaced text.toList)

end Timestamp
end RelationalApi
