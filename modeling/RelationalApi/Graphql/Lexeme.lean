import RelationalApi.Json.Reader

/-!
# Lexemes of documents

Blanks, commas and comments may stand between any two lexemes and need not.  Inside a lexeme
nothing is skipped.
-/

namespace RelationalApi
namespace Graphql

/-- Reads something at the front of characters and leaves the rest. -/
abbrev Reader (α : Type) := StateT (List Char) Option α

/-- Blanks, among which commas and byte order marks count. -/
def isIgnored (character : Char) : Bool :=
  character == ' ' || character == ',' || character == '\t' || character == '\uFEFF' ||
    character == '\n' || character == '\r'

/-- Drops blanks and comments.  A comment ends with its line. -/
def skipIgnored (inComment : Bool) : List Char → List Char
  | [] => []
  | character :: rest =>
    if inComment then skipIgnored (character != '\n' && character != '\r') rest
    else if character == '#' then skipIgnored true rest
    else if isIgnored character then skipIgnored false rest
    else character :: rest

def isNameStart (character : Char) : Bool :=
  character.isAlpha || character == '_'

def isNameRest (character : Char) : Bool :=
  character.isAlphanum || character == '_'

/-- The characters behind a word, if they start with it. -/
def dropWord? : List Char → List Char → Option (List Char)
  | [], rest => some rest
  | _ :: _, [] => none
  | expected :: word, character :: rest =>
    if expected = character then dropWord? word rest else none

/-- Reads what a function reads behind blanks and comments. -/
def lexeme {α : Type} (read : List Char → Option (α × List Char)) : Reader α :=
  fun input => read (skipIgnored false input)

/-- Reads a word.  What follows it may continue it. -/
def word (text : String) : Reader Unit :=
  lexeme fun input => (dropWord? text.toList input).map fun rest => ((), rest)

/-- The name at the front of characters. -/
def nameAt (input : List Char) : Option (String × List Char) :=
  match input with
  | character :: rest =>
    if isNameStart character then
      some (String.ofList (character :: rest.takeWhile isNameRest), rest.dropWhile isNameRest)
    else none
  | [] => none

def name : Reader String := lexeme nameAt

/-- The digits at the front of characters, of which there must be one. -/
def digitsAt (input : List Char) : Option (List Char × List Char) :=
  let digits := input.takeWhile Char.isDigit
  if digits.isEmpty then none else some (digits, input.dropWhile Char.isDigit)

/-- The whole part of a number: zero alone, or digits that do not start with zero. -/
def wholeAt (input : List Char) : Option (List Char × List Char) :=
  match input with
  | '0' :: rest => some (['0'], rest)
  | rest => digitsAt rest

/-- The whole part of a number with its sign. -/
def signedAt (input : List Char) : Option (List Char × List Char) :=
  match input with
  | '-' :: rest => (wholeAt rest).map fun (digits, rest) => ('-' :: digits, rest)
  | rest => wholeAt rest

/-- The fraction of a number, which may be absent. -/
def fractionAt (input : List Char) : List Char × List Char :=
  match input with
  | '.' :: rest =>
    match digitsAt rest with
    | some (digits, rest) => ('.' :: digits, rest)
    | none => ([], input)
  | _ => ([], input)

/-- The exponent of a number, which may be absent. -/
def exponentAt (input : List Char) : List Char × List Char :=
  match input with
  | [] => ([], [])
  | mark :: rest =>
    if mark == 'e' || mark == 'E' then
      let (sign, unsigned) := match rest with
        | '+' :: rest => (['+'], rest)
        | '-' :: rest => (['-'], rest)
        | rest => ([], rest)
      match digitsAt unsigned with
      | some (digits, rest) => (mark :: sign ++ digits, rest)
      | none => ([], input)
    else ([], input)

/-- The number that a lexeme denotes.  A number beyond the doubles is infinite. -/
def numberValue (characters : List Char) : JsonNumber :=
  match Json.readNumber characters with
  | some (value, []) => value
  | _ => .float (1 / 0)

/-- The number at the front of characters.  No letter may follow it. -/
def numberAt (input : List Char) : Option (JsonNumber × List Char) := do
  let (whole, rest) ← signedAt input
  let (fraction, rest) := fractionAt rest
  let (exponent, rest) := exponentAt rest
  if (rest.head?.map isNameStart).getD false then none
  else some (numberValue (whole ++ fraction ++ exponent), rest)

def number : Reader JsonNumber := lexeme numberAt

/-- The character of four hexadecimal digits that are no surrogate. -/
def scalarOf? (first second third fourth : Char) : Option Char := do
  let (value, _) ← Json.readHex [first, second, third, fourth]
  if 0xD800 ≤ value && value < 0xE000 then none else some (Char.ofNat value)

/-- The character of a one-letter escape. -/
def escapeOf? (letter : Char) : Option Char :=
  [('"', '"'), ('\\', '\\'), ('/', '/'), ('b', '\x08'), ('f', '\x0c'), ('n', '\n'), ('r', '\r'),
    ('t', '\t')].lookup letter

/-- The rest of a text on one line, up to its quotation mark.  `text` holds what was read, in
reverse. -/
def lineTextAt (text : List Char) : List Char → Option (String × List Char)
  | [] => none
  | '"' :: rest => some (String.ofList text.reverse, rest)
  | '\\' :: 'u' :: first :: second :: third :: fourth :: rest => do
    let character ← scalarOf? first second third fourth
    lineTextAt (character :: text) rest
  | '\\' :: letter :: rest => do
    let character ← escapeOf? letter
    lineTextAt (character :: text) rest
  | character :: rest =>
    if character == '\\' || character == '\n' || character == '\r' then none
    else lineTextAt (character :: text) rest

/-- The rest of a text of several lines as it is written, up to three quotation marks. -/
def blockTextAt (text : List Char) : List Char → Option (List Char × List Char)
  | [] => none
  | '"' :: '"' :: '"' :: rest => some (text.reverse, rest)
  | '\\' :: '"' :: '"' :: '"' :: rest => blockTextAt ('"' :: '"' :: '"' :: '\\' :: text) rest
  | character :: rest => blockTextAt (character :: text) rest

/-- The lines of a text. -/
def linesOf : List Char → List (List Char)
  | [] => [[]]
  | '\r' :: '\n' :: rest => [] :: linesOf rest
  | '\r' :: rest => [] :: linesOf rest
  | '\n' :: rest => [] :: linesOf rest
  | character :: rest =>
    match linesOf rest with
    | line :: lines => (character :: line) :: lines
    | [] => [[character]]

def isIndent (character : Char) : Bool :=
  character == ' ' || character == '\t'

/-- The smallest indentation of the lines that are not blank. -/
def commonIndent (lines : List (List Char)) : Nat :=
  let indents := (lines.filter fun line => !line.all isIndent).map fun line =>
    (line.takeWhile isIndent).length
  (indents.min?).getD 0

/-- A text of several lines without the common indentation of all lines but the first, and without
blank lines at its ends. -/
def blockText (characters : List Char) : String :=
  match linesOf characters with
  | [] => ""
  | first :: others =>
    let indent := commonIndent others
    let cut (line : List Char) : List Char :=
      if indent ≤ line.length then line.drop indent else line
    let isBlankLine (line : List Char) : Bool := line.all isIndent
    let lines := (first :: others.map cut).zip ((first :: others).map isBlankLine)
    let kept := ((lines.dropWhile (·.2)).reverse.dropWhile (·.2)).reverse
    "\n".intercalate (kept.map fun line => String.ofList line.1)

/-- The text at the front of characters. -/
def textAt (input : List Char) : Option (String × List Char) :=
  let block := match input with
    | '"' :: '"' :: '"' :: rest =>
      (blockTextAt [] rest).map fun (characters, rest) => (blockText characters, rest)
    | _ => none
  block <|> match input with
    | '"' :: rest => lineTextAt [] rest
    | _ => none

def text : Reader String := lexeme textAt

/-- Succeeds behind blanks and comments at the end. -/
def atEnd : Reader Unit :=
  lexeme fun input => if input.isEmpty then some ((), []) else none

/-- Reads as often as possible. -/
def many {α : Type} (read : Reader α) : Reader (List α) :=
  let rec go : Nat → List Char → List α × List Char
    | 0, input => ([], input)
    | fuel + 1, input =>
      match read input with
      | some (first, rest) =>
        let (others, rest) := go fuel rest
        (first :: others, rest)
      | none => ([], input)
  fun input => some (go input.length input)

/-- Reads as often as possible and at least once. -/
def many1 {α : Type} (read : Reader α) : Reader (List α) := do
  let first ← read
  let others ← many read
  return first :: others

/-- Reads once or not at all. -/
def maybe {α : Type} (read : Reader α) : Reader (Option α) :=
  fun input =>
    match read input with
    | some (value, rest) => some (some value, rest)
    | none => some (none, input)

end Graphql
end RelationalApi
