/-!
# Numbers written in ASCII digits

Whole numbers are written in the digits `0` to `9` alone.  Some places admit a plus sign in front,
and some a minus sign as well; blanks are never admitted.
-/

namespace RelationalApi
namespace Text

/-- The number that digits denote. -/
def digitsValue (digits : List Char) : Nat :=
  digits.foldl (fun total digit => total * 10 + (digit.toNat - '0'.toNat)) 0

/-- The number that one or more digits denote. -/
def digits? (characters : List Char) : Option Nat :=
  if characters.isEmpty || !characters.all Char.isDigit then none
  else some (digitsValue characters)

/-- The number denoted by digits behind an optional plus sign. -/
def natural? : List Char → Option Nat
  | '+' :: rest => digits? rest
  | characters => digits? characters

/-- The number denoted by digits behind an optional sign. -/
def integer? : List Char → Option Int
  | '-' :: rest => (digits? rest).map fun value => -(value : Int)
  | characters => (natural? characters).map fun value => (value : Int)

/-- The parts between the occurrences of a character. -/
def splitAtChar (separator : Char) : List Char → List (List Char)
  | [] => [[]]
  | character :: rest =>
    if character = separator then [] :: splitAtChar separator rest
    else match splitAtChar separator rest with
      | part :: parts => (character :: part) :: parts
      | [] => [[character]]

end Text
end RelationalApi
