import RelationalApi.Calendar.Field

/-!
# Times of day

A time counts the seconds of its day and the nanoseconds of its second.  A leap second is the
second before it with a whole second more of nanoseconds, and is written `:60`.
-/

namespace RelationalApi

/-- A time of day. -/
structure Time where
  second : Nat
  nanosecond : Nat
  deriving Repr, DecidableEq, Ord, Inhabited

namespace Time

def midnight : Time := ⟨0, 0⟩

/-- The time with the given parts, if there is one.  Second sixty is the leap second. -/
def ofParts? (hour minute second nanosecond : Nat) : Option Time :=
  if hour < 24 && minute < 60 then
    let minuteStart := hour * 3600 + minute * 60
    if second < 60 then some ⟨minuteStart + second, nanosecond⟩
    else if second = 60 then some ⟨minuteStart + 59, 1000000000 + nanosecond⟩
    else none
  else none

/-- Reads hour and minute. -/
def readMinutes (input : List Char) : Option (Nat × Nat × List Char) := do
  let (hour, rest) ← Calendar.readPadded input
  let rest ← Calendar.readMark ':' rest
  let (minute, rest) ← Calendar.readPadded rest
  some (hour, minute, rest)

/-- Reads hour, minute, second and an optional fraction. -/
def readSeconds (input : List Char) : Option (Time × List Char) := do
  let (hour, minute, rest) ← readMinutes input
  let rest ← Calendar.readMark ':' rest
  let (second, rest) ← Calendar.readPadded rest
  let (nanosecond, rest) ← Calendar.readFraction rest
  let time ← ofParts? hour minute second nanosecond
  some (time, rest)

/-- The time with seconds that the characters are as a whole. -/
def ofSecondsChars? (input : List Char) : Option Time :=
  match readSeconds input with
  | some (time, []) => some time
  | _ => none

/-- The time without seconds that the characters are as a whole. -/
def ofMinutesChars? (input : List Char) : Option Time :=
  match readMinutes input with
  | some (hour, minute, []) => ofParts? hour minute 0 0
  | _ => none

/-- The time that a text is, with or without seconds. -/
def ofText? (text : String) : Option Time :=
  (ofSecondsChars? text.toList).or (ofMinutesChars? text.toList)

/-- The second to show, which is sixty in a leap second. -/
def shownSecond (time : Time) : Nat :=
  time.second % 60 + time.nanosecond / 1000000000

/-- Hour, minute and second. -/
def clockChars (time : Time) : List Char :=
  Calendar.padded 2 (time.second / 3600) ++ ':' :: Calendar.padded 2 (time.second / 60 % 60) ++
    ':' :: Calendar.padded 2 time.shownSecond

/-- The fraction of the second in the fewest groups of three digits that lose nothing. -/
def fractionChars (time : Time) : List Char :=
  let nanosecond := time.nanosecond % 1000000000
  if nanosecond = 0 then []
  else if nanosecond % 1000000 = 0 then '.' :: Calendar.padded 3 (nanosecond / 1000000)
  else if nanosecond % 1000 = 0 then '.' :: Calendar.padded 6 (nanosecond / 1000)
  else '.' :: Calendar.padded 9 nanosecond

/-- The text of a time. -/
def toText (time : Time) : String :=
  String.ofList (time.clockChars ++ time.fractionChars)

end Time
end RelationalApi
