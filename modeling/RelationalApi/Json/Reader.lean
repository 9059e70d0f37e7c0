import RelationalApi.Json.Basic

/-!
# Reading JSON

The grammar is the strict one: no leading zeros, no control characters in texts, no surrogate that
stands alone, nothing but space, tab and line breaks between tokens, nothing behind the document.
Arrays and objects nest at most 127 deep.

Whole numbers that fit 64 bits, signed or unsigned, stay whole.  Every other number is a double:
its digits are gathered in 64 bits as long as they fit, and the gathered number is scaled once by
a power of ten.  A number that scales to infinity is refused.
-/

namespace RelationalApi
namespace Json

/-- The greatest number that gathered digits may reach. -/
def greatestSignificand : Nat := Nat.pow 2 64 - 1

/-- The greatest exponent that is read exactly. -/
def greatestExponent : Nat := Nat.pow 2 31 - 1

/-- Drops blanks between tokens. -/
def skipSpace : List Char → List Char :=
  List.dropWhile fun character =>
    character == ' ' || character == '\n' || character == '\t' || character == '\r'

/-- The value of a decimal digit. -/
def digitValue (character : Char) : Nat :=
  character.toNat - '0'.toNat

/-- Gathers digits while they fit, and counts them. -/
def gatherDigits (significand count : Nat) : List Char → Nat × Nat × List Char
  | [] => (significand, count, [])
  | character :: rest =>
    if character.isDigit && significand * 10 + digitValue character ≤ greatestSignificand then
      gatherDigits (significand * 10 + digitValue character) (count + 1) rest
    else (significand, count, character :: rest)

/-- Divides by powers of ten until the remaining exponent is at least `-308`. -/
def divideByPowers (value : Float) (exponent : Nat) : Nat → Float
  | 0 => value
  | fuel + 1 =>
    if value == 0 then value
    else if exponent ≤ 308 then value / Float.ofScientific 1 false exponent
    else divideByPowers (value / Float.ofScientific 1 false 308) (exponent - 308) fuel

/-- The double `significand * 10 ^ exponent`, scaled by one multiplication or division. -/
def scale (negative : Bool) (significand : Nat) (exponent : Int) : Option Float :=
  let whole := (UInt64.ofNat significand).toFloat
  let signed (value : Float) := if negative then -value else value
  if 0 ≤ exponent then
    if 308 < exponent then
      if significand = 0 then some (signed whole) else none
    else
      let scaled := whole * Float.ofScientific 1 false exponent.toNat
      if scaled.isInf then none else some (signed scaled)
  else some (signed (divideByPowers whole exponent.natAbs exponent.natAbs))

/-- Reads the part of a number behind its exponent mark. -/
def readExponent (negative : Bool) (significand : Nat) (exponent : Int) (input : List Char) :
    Option (Float × List Char) :=
  let (negativeExponent, input) := match input with
    | '+' :: rest => (false, rest)
    | '-' :: rest => (true, rest)
    | rest => (false, rest)
  let digits := input.takeWhile Char.isDigit
  let rest := input.dropWhile Char.isDigit
  let written := digits.foldl (fun total digit => total * 10 + digitValue digit) 0
  if digits.isEmpty then none
  else if greatestExponent < written then
    if significand ≠ 0 && !negativeExponent then none
    else some (if negative then -0.0 else 0.0, rest)
  else do
    let value ← scale negative significand
      (if negativeExponent then exponent - written else exponent + written)
    some (value, rest)

/-- Reads what follows the digits of a number that is not whole. -/
def readScaled (negative : Bool) (significand : Nat) (exponent : Int) (input : List Char) :
    Option (Float × List Char) :=
  match input with
  | 'e' :: rest => readExponent negative significand exponent rest
  | 'E' :: rest => readExponent negative significand exponent rest
  | rest => do
    let value ← scale negative significand exponent
    some (value, rest)

/-- Reads the digits behind a point, of which there must be one. -/
def readFraction (negative : Bool) (significand : Nat) (exponent : Int) (input : List Char) :
    Option (Float × List Char) :=
  if (input.head?.map Char.isDigit).getD false then
    let (significand, count, rest) := gatherDigits significand 0 input
    readScaled negative significand (exponent - count) (rest.dropWhile Char.isDigit)
  else none

/-- A whole number without fraction or exponent: whole if it fits 64 bits and is not minus zero. -/
def wholeNumber (negative : Bool) (significand : Nat) : JsonNumber :=
  if negative then
    if significand = 0 || Nat.pow 2 63 < significand then
      .float (-(UInt64.ofNat significand).toFloat)
    else .int (-significand)
  else .int significand

/-- Reads a number without its sign. -/
def readMagnitude (negative : Bool) (input : List Char) : Option (JsonNumber × List Char) :=
  let fraction (result : Option (Float × List Char)) : Option (JsonNumber × List Char) :=
    result.map fun (value, rest) => (.float value, rest)
  let (significand, count, rest) := gatherDigits 0 0 input
  let leadingZero := (input.head? == some '0') && (input.tail.head?.map Char.isDigit).getD false
  if count = 0 || leadingZero then none
  else
    let ignored := rest.takeWhile Char.isDigit
    match rest.dropWhile Char.isDigit with
    | '.' :: rest => fraction (readFraction negative significand ignored.length rest)
    | rest =>
      if ignored.isEmpty && !(rest.head? == some 'e' || rest.head? == some 'E') then
        some (wholeNumber negative significand, rest)
      else fraction (readScaled negative significand ignored.length rest)

/-- Reads a number. -/
def readNumber : List Char → Option (JsonNumber × List Char)
  | '-' :: rest => readMagnitude true rest
  | rest => readMagnitude false rest

/-- The value of a hexadecimal digit. -/
def hexValue? (character : Char) : Option Nat :=
  if character.isDigit then some (character.toNat - '0'.toNat)
  else if 'a' ≤ character && character ≤ 'f' then some (character.toNat - 'a'.toNat + 10)
  else if 'A' ≤ character && character ≤ 'F' then some (character.toNat - 'A'.toNat + 10)
  else none

/-- Reads four hexadecimal digits. -/
def readHex : List Char → Option (Nat × List Char)
  | a :: b :: c :: d :: rest => do
    let a ← hexValue? a
    let b ← hexValue? b
    let c ← hexValue? c
    let d ← hexValue? d
    some (((a * 16 + b) * 16 + c) * 16 + d, rest)
  | _ => none

/-- Reads an escape of one code unit, or of two that form a surrogate pair. -/
def readUnicodeEscape (input : List Char) : Option (Char × List Char) := do
  let (first, rest) ← readHex input
  if 0xD800 ≤ first && first < 0xDC00 then
    match rest with
    | '\\' :: 'u' :: rest =>
      let (second, rest) ← readHex rest
      if 0xDC00 ≤ second && second < 0xE000 then
        some (Char.ofNat (0x10000 + (first - 0xD800) * 0x400 + (second - 0xDC00)), rest)
      else none
    | _ => none
  else if 0xDC00 ≤ first && first < 0xE000 then none
  else some (Char.ofNat first, rest)

/-- Reads the part of an escape behind its backslash. -/
def readEscape : List Char → Option (Char × List Char)
  | '"' :: rest => some ('"', rest)
  | '\\' :: rest => some ('\\', rest)
  | '/' :: rest => some ('/', rest)
  | 'b' :: rest => some ('\x08', rest)
  | 'f' :: rest => some ('\x0c', rest)
  | 'n' :: rest => some ('\n', rest)
  | 'r' :: rest => some ('\r', rest)
  | 't' :: rest => some ('\t', rest)
  | 'u' :: rest => readUnicodeEscape rest
  | _ => none

/-- Reads a text up to its closing quotation mark.  `text` holds what was read, in reverse; the
fuel bounds the number of characters. -/
def readText (text : List Char) : Nat → List Char → Option (String × List Char)
  | 0, _ => none
  | _ + 1, [] => none
  | fuel + 1, '"' :: rest => let _ := fuel; some (String.ofList text.reverse, rest)
  | fuel + 1, '\\' :: rest => do
    let (character, rest) ← readEscape rest
    readText (character :: text) fuel rest
  | fuel + 1, character :: rest =>
    if character.toNat < 0x20 then none else readText (character :: text) fuel rest

mutual

/-- Reads a document.  The fuel bounds the number of tokens, `depth` the nesting. -/
def readValue (depth : Nat) : Nat → List Char → Option (Json × List Char)
  | 0, _ => none
  | fuel + 1, input =>
    match skipSpace input with
    | 'n' :: 'u' :: 'l' :: 'l' :: rest => some (.null, rest)
    | 't' :: 'r' :: 'u' :: 'e' :: rest => some (.bool true, rest)
    | 'f' :: 'a' :: 'l' :: 's' :: 'e' :: rest => some (.bool false, rest)
    | '"' :: rest => do
      let (text, rest) ← readText [] (rest.length + 1) rest
      some (.string text, rest)
    | '[' :: rest =>
      if depth ≤ 1 then none
      else match skipSpace rest with
        | ']' :: rest => some (.array [], rest)
        | rest => do
          let (items, rest) ← readItems (depth - 1) fuel rest
          some (.array items, rest)
    | '\x7b' :: rest =>
      if depth ≤ 1 then none
      else match skipSpace rest with
        | '\x7d' :: rest => some (.object [], rest)
        | rest => do
          let (entries, rest) ← readEntries (depth - 1) fuel rest
          some (.object entries, rest)
    | rest => do
      let (value, rest) ← readNumber rest
      some (.number value, rest)

/-- Reads one or more items and the closing bracket. -/
def readItems (depth : Nat) : Nat → List Char → Option (List Json × List Char)
  | 0, _ => none
  | fuel + 1, input => do
    let (item, rest) ← readValue depth fuel input
    match skipSpace rest with
    | ']' :: rest => some ([item], rest)
    | ',' :: rest =>
      let (items, rest) ← readItems depth fuel rest
      some (item :: items, rest)
    | _ => none

/-- Reads one or more entries and the closing brace. -/
def readEntries (depth : Nat) : Nat → List Char → Option (List (String × Json) × List Char)
  | 0, _ => none
  | fuel + 1, input =>
    match skipSpace input with
    | '"' :: rest => do
      let (key, rest) ← readText [] (rest.length + 1) rest
      match skipSpace rest with
      | ':' :: rest =>
        let (value, rest) ← readValue depth fuel rest
        match skipSpace rest with
        | '\x7d' :: rest => some ([(key, value)], rest)
        | ',' :: rest =>
          let (entries, rest) ← readEntries depth fuel rest
          some ((key, value) :: entries, rest)
        | _ => none
      | _ => none
    | _ => none

end

/-- The document that a text is, with repeated keys of objects as they were written. -/
def readRepeating? (text : String) : Option Json :=
  let input := text.toList
  match readValue 128 (input.length + 1) input with
  | some (document, rest) => if (skipSpace rest).isEmpty then some document else none
  | none => none

mutual

/-- The document with each key of an object once. -/
def collapse : Json → Json
  | .array items => .array (collapseItems items)
  | .object entries => .object (JsonEntries.collapse (collapseEntries entries))
  | document => document

/-- Collapses every item. -/
def collapseItems : List Json → List Json
  | [] => []
  | item :: items => collapse item :: collapseItems items

/-- Collapses the value of every entry. -/
def collapseEntries : List (String × Json) → List (String × Json)
  | [] => []
  | (key, value) :: entries => (key, collapse value) :: collapseEntries entries

end

/-- The document that a text is. -/
def read? (text : String) : Option Json :=
  (readRepeating? text).map collapse

end Json
end RelationalApi
