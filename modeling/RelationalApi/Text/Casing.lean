import RelationalApi.Text.Alphanumeric
import RelationalApi.Text.Case

/-!
# Camel case

A name is split into words and joined again in camel case.  Words are separated by anything that
is not a letter or a number.  Inside such a part a new word starts before a capital that follows a
small letter, and before the last capital of a run of capitals when a small letter comes after it.
Digits, and letters without case, take the case of the letter before them.
-/

namespace RelationalApi
namespace Text

/-- The case of the letters read last in the current word. -/
inductive CaseMode where
  | start
  | small
  | capital
  deriving Repr, DecidableEq

/-- The mode after one more character of the same word. -/
def CaseMode.after (mode : CaseMode) (character : Char) : CaseMode :=
  if isLowercase character then .small
  else if isUppercase character then .capital
  else mode

/-- Splits a part without separators into words.  `word` holds the characters of the current
word in reverse. -/
def splitPart (mode : CaseMode) (word : List Char) : List Char → List (List Char)
  | [] => if word.isEmpty then [] else [word.reverse]
  | [character] => [(character :: word).reverse]
  | character :: next :: rest =>
    let mode' := mode.after character
    if mode' = .small && isUppercase next then
      (character :: word).reverse :: splitPart .start [] (next :: rest)
    else if mode = .capital && isUppercase character && isLowercase next then
      word.reverse :: splitPart .start [character] (next :: rest)
    else
      splitPart mode' (character :: word) (next :: rest)

/-- Cuts the characters at every separator; separators are dropped. -/
def splitAtSeparators : List Char → List (List Char)
  | [] => [[]]
  | character :: rest =>
    if isAlphanumeric character then
      match splitAtSeparators rest with
      | part :: parts => (character :: part) :: parts
      | [] => [[character]]
    else [] :: splitAtSeparators rest

/-- The words of a name. -/
def words (name : String) : List (List Char) :=
  (splitAtSeparators name.toList).flatMap (splitPart .start [])

/-- A word in lower case.  A capital sigma is final exactly when it is the last character. -/
def lowerWord : List Char → List Char
  | [] => []
  | ['Σ'] => ['ς']
  | character :: rest => lowercaseChar character ++ lowerWord rest

/-- A word with its first character in upper case and the others in lower case. -/
def capitalWord : List Char → List Char
  | [] => []
  | character :: rest => uppercaseChar character ++ lowerWord rest

/-- All words capitalised and joined. -/
def upperCamel (name : String) : String :=
  String.ofList ((words name).flatMap capitalWord)

/-- The first word in lower case, the others capitalised, all joined. -/
def lowerCamel (name : String) : String :=
  match words name with
  | [] => ""
  | first :: others => String.ofList (lowerWord first ++ others.flatMap capitalWord)

end Text
end RelationalApi
