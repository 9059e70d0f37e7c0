/-!
# Universally unique identifiers

An identifier has thirty-two hexadecimal digits.  It is read in four forms: plain digits, digits
in groups of 8, 4, 4, 4 and 12 with hyphens between them, the grouped form in braces, and the
grouped form behind the name space `urn:uuid:`, in which case does not matter.  It is written
grouped and in lower case.
-/

namespace RelationalApi
namespace Uuid

/-- The lengths of the groups. -/
def groupLengths : List Nat := [8, 4, 4, 4, 12]

/-- A hexadecimal digit of either case. -/
def isHexDigit (character : Char) : Bool :=
  character.isDigit || ('a' ≤ character && character ≤ 'f') ||
    ('A' ≤ character && character ≤ 'F')

/-- The digits of groups with hyphens between them. -/
def ungroup? : List Nat → List Char → Option (List Char)
  | [], _ => none
  | [length], characters =>
    if characters.length = length && characters.all isHexDigit then some characters else none
  | length :: lengths, characters =>
    let group := characters.take length
    match characters.drop length with
    | '-' :: rest =>
      if group.all isHexDigit then (ungroup? lengths rest).map (group ++ ·) else none
    | _ => none

/-- Digits in groups with hyphens between them. -/
def group : List Nat → List Char → List Char
  | [], digits => digits
  | [_], digits => digits
  | length :: lengths, digits => digits.take length ++ '-' :: group lengths (digits.drop length)

/-- The name space that a grouped identifier may stand behind. -/
def nameSpace : List Char := "urn:uuid:".toList

/-- The digits of an identifier in any of its forms. -/
def digits? (characters : List Char) : Option (List Char) :=
  if characters.length = 32 then
    if characters.all isHexDigit then some characters else none
  else if characters.length = 36 then ungroup? groupLengths characters
  else if characters.head? = some '\x7b' && characters.getLast? = some '\x7d' then
    ungroup? groupLengths (characters.drop 1).dropLast
  else if (characters.take nameSpace.length).map Char.toLower = nameSpace then
    ungroup? groupLengths (characters.drop nameSpace.length)
  else none

/-- The grouped lower case text of the identifier that a text is. -/
def canonical? (text : String) : Option String :=
  (digits? text.toList).map fun digits =>
    String.ofList (group groupLengths (digits.map Char.toLower))

end Uuid
end RelationalApi
