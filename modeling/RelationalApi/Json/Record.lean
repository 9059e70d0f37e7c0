import RelationalApi.Json.Reader

/-!
# Reading records from texts

A record needs the entries of its own fields only.  Every other entry of its object is passed
over: its value must have the form of a document, but nothing is made of it.  So a number that is
too great for a double, a surrogate that stands alone and values of any depth do no harm there.
-/

namespace RelationalApi
namespace Json

/-- The marks of the escapes that stand for one character each. -/
def escapeMarks : List Char := ['"', '\\', '/', 'b', 'f', 'n', 'r', 't']

/-- Passes over a text and its closing quotation mark.  The escapes of code units need four
digits each, but need not form characters. -/
def skipText : List Char → Option (List Char)
  | [] => none
  | '"' :: rest => some rest
  | '\\' :: 'u' :: a :: b :: c :: d :: rest =>
    if [a, b, c, d].all fun digit => (hexValue? digit).isSome then skipText rest else none
  | '\\' :: mark :: rest => if escapeMarks.contains mark then skipText rest else none
  | character :: rest => if character.toNat < 0x20 then none else skipText rest

/-- Passes over digits, of which there must be one. -/
def skipDigits (input : List Char) : Option (List Char) :=
  if (input.head?.map Char.isDigit).getD false then some (input.dropWhile Char.isDigit) else none

/-- Passes over the exponent of a number, if there is one. -/
def skipExponent : List Char → Option (List Char)
  | mark :: rest =>
    if mark = 'e' || mark = 'E' then
      match rest with
      | '+' :: rest => skipDigits rest
      | '-' :: rest => skipDigits rest
      | rest => skipDigits rest
    else some (mark :: rest)
  | [] => some []

/-- Passes over what follows the whole part of a number. -/
def skipFraction : List Char → Option (List Char)
  | '.' :: rest => (skipDigits rest).bind skipExponent
  | rest => skipExponent rest

/-- Passes over a number without its sign.  No digit may follow a leading zero. -/
def skipMagnitude (input : List Char) : Option (List Char) :=
  let leadingZero := (input.head? == some '0') && (input.tail.head?.map Char.isDigit).getD false
  if leadingZero then none else (skipDigits input).bind skipFraction

/-- Passes over a number. -/
def skipNumber : List Char → Option (List Char)
  | '-' :: rest => skipMagnitude rest
  | rest => skipMagnitude rest

mutual

/-- Passes over a document.  The fuel bounds the number of tokens. -/
def skipValue : Nat → List Char → Option (List Char)
  | 0, _ => none
  | fuel + 1, input =>
    match skipSpace input with
    | 'n' :: 'u' :: 'l' :: 'l' :: rest => some rest
    | 't' :: 'r' :: 'u' :: 'e' :: rest => some rest
    | 'f' :: 'a' :: 'l' :: 's' :: 'e' :: rest => some rest
    | '"' :: rest => skipText rest
    | '[' :: rest =>
      match skipSpace rest with
      | ']' :: rest => some rest
      | rest => skipItems fuel rest
    | '\x7b' :: rest =>
      match skipSpace rest with
      | '\x7d' :: rest => some rest
      | rest => skipEntries fuel rest
    | rest => skipNumber rest

/-- Passes over one or more items and the closing bracket. -/
def skipItems : Nat → List Char → Option (List Char)
  | 0, _ => none
  | fuel + 1, input => do
    let rest ← skipValue fuel input
    match skipSpace rest with
    | ']' :: rest => some rest
    | ',' :: rest => skipItems fuel rest
    | _ => none

/-- Passes over one or more entries and the closing brace. -/
def skipEntries : Nat → List Char → Option (List Char)
  | 0, _ => none
  | fuel + 1, input =>
    match skipSpace input with
    | '"' :: rest => do
      let rest ← skipText rest
      match skipSpace rest with
      | ':' :: rest =>
        let rest ← skipValue fuel rest
        match skipSpace rest with
        | '\x7d' :: rest => some rest
        | ',' :: rest => skipEntries fuel rest
        | _ => none
      | _ => none
    | _ => none

end

/-- Reads the value of a key that is one of the names, and passes over any other value. -/
def readNamed (names : List String) (key : String) (input : List Char) :
    Option (JsonEntries × List Char) :=
  if names.contains key then do
    let (value, rest) ← readValue 127 (input.length + 1) input
    some ([(key, value)], rest)
  else do
    let rest ← skipValue (input.length + 1) input
    some ([], rest)

/-- Reads one or more entries and the closing brace, and keeps those whose keys are among the
names.  The fuel bounds the number of entries. -/
def readNamedEntries (names : List String) : Nat → List Char → Option (JsonEntries × List Char)
  | 0, _ => none
  | fuel + 1, input =>
    match skipSpace input with
    | '"' :: rest => do
      let (key, rest) ← readText [] (rest.length + 1) rest
      match skipSpace rest with
      | ':' :: rest =>
        let (kept, rest) ← readNamed names key rest
        match skipSpace rest with
        | '\x7d' :: rest => some (kept, rest)
        | ',' :: rest =>
          let (entries, rest) ← readNamedEntries names fuel rest
          some (kept ++ entries, rest)
        | _ => none
      | _ => none
    | _ => none

/-- The document that a text is.  An object keeps only the entries of the given names, as often
as they were written. -/
def readRecord? (names : List String) (text : String) : Option Json :=
  match skipSpace text.toList with
  | '\x7b' :: rest => do
    let (entries, rest) ← match skipSpace rest with
      | '\x7d' :: rest => some ([], rest)
      | rest => readNamedEntries names (rest.length + 1) rest
    if (skipSpace rest).isEmpty then some (.object entries) else none
  | _ => readRepeating? text

end Json
end RelationalApi
