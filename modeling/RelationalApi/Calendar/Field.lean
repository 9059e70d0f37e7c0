import RelationalApi.Text.Blank
import RelationalApi.Text.Digits

/-!
# Number fields of dates and times

Dates and times are read field by field.  A padded field may have fewer digits than its width and
may follow blanks; an exact field has all its digits and nothing before them.
-/

namespace RelationalApi
namespace Calendar

/-- Reads at least `least` and at most `most` digits. -/
def readDigits (least most : Nat) (input : List Char) : Option (Nat × List Char) :=
  let digits := (input.take most).takeWhile Char.isDigit
  if digits.length < least then none
  else some (Text.digitsValue digits, input.drop digits.length)

/-- Reads a field of exactly `width` digits. -/
def readExact (width : Nat) (input : List Char) : Option (Nat × List Char) :=
  readDigits width width input

/-- Reads a field of at most two digits that may follow blanks. -/
def readPadded (input : List Char) : Option (Nat × List Char) :=
  readDigits 1 2 (Text.trimFront input)

/-- Reads a year, which may follow blanks.  Behind a sign it may have any number of digits, and
without one at most four. -/
def readYear (input : List Char) : Option (Int × List Char) :=
  match Text.trimFront input with
  | '-' :: rest => (readDigits 1 rest.length rest).map fun (year, rest) => (-year, rest)
  | '+' :: rest => (readDigits 1 rest.length rest).map fun (year, rest) => (year, rest)
  | rest => (readDigits 1 4 rest).map fun (year, rest) => (year, rest)

/-- Reads one given character. -/
def readMark (mark : Char) : List Char → Option (List Char)
  | character :: rest => if character = mark then some rest else none
  | [] => none

/-- Reads an optional fraction of a second as nanoseconds.  Digits behind the ninth are cut. -/
def readFraction (input : List Char) : Option (Nat × List Char) :=
  match input with
  | '.' :: rest => do
    let digits := (rest.take 9).takeWhile Char.isDigit
    if digits.isEmpty then none
    else
      some (Text.digitsValue digits * Nat.pow 10 (9 - digits.length), rest.dropWhile Char.isDigit)
  | rest => some (0, rest)

/-- A number with zeros in front up to a width. -/
def padded (width value : Nat) : List Char :=
  let digits := Nat.toDigits 10 value
  List.replicate (width - digits.length) '0' ++ digits

end Calendar
end RelationalApi
