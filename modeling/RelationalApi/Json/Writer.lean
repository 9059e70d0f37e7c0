import RelationalApi.Decimal.Text
import RelationalApi.Json.Basic

/-!
# Writing JSON

Documents are written on one line without spaces, or indented by two spaces.  Only the quotation
mark, the backslash and the control characters below the space are escaped.
-/

namespace RelationalApi
namespace Json

/-- A character inside a quoted text. -/
def escapeChar (character : Char) : List Char :=
  if character = '"' then ['\\', '"']
  else if character = '\\' then ['\\', '\\']
  else if character = '\x08' then ['\\', 'b']
  else if character = '\x0c' then ['\\', 'f']
  else if character = '\n' then ['\\', 'n']
  else if character = '\r' then ['\\', 'r']
  else if character = '\t' then ['\\', 't']
  else if character.toNat < 0x20 then
    "\\u00".toList ++
      [Nat.digitChar (character.toNat / 16), Nat.digitChar (character.toNat % 16)]
  else [character]

/-- A text in quotation marks. -/
def quote (text : String) : String :=
  String.ofList ('"' :: text.toList.flatMap escapeChar ++ ['"'])

end Json

/-- The text of a number; there is none for infinities. -/
def JsonNumber.write : JsonNumber → String
  | .int value => toString value
  | .float value =>
    if value.isNaN || value.isInf then "null" else Decimal.documentStyle.format value

namespace Json

mutual

/-- The document on one line. -/
def write : Json → String
  | .null => "null"
  | .bool true => "true"
  | .bool false => "false"
  | .number value => value.write
  | .string text => quote text
  | .array items => "[" ++ ",".intercalate (writeItems items) ++ "]"
  | .object entries => "\x7b" ++ ",".intercalate (writeEntries entries) ++ "\x7d"

/-- Each item on one line. -/
def writeItems : List Json → List String
  | [] => []
  | item :: items => write item :: writeItems items

/-- Each entry on one line. -/
def writeEntries : List (String × Json) → List String
  | [] => []
  | (key, value) :: entries => (quote key ++ ":" ++ write value) :: writeEntries entries

end

/-- A line break followed by the indentation of a level. -/
def lineBreak (level : Nat) : String :=
  String.ofList ('\n' :: List.replicate (2 * level) ' ')

/-- Parts between brackets, each on a line of its own. -/
def indented (level : Nat) (opening closing : String) (parts : List String) : String :=
  if parts.isEmpty then opening ++ closing
  else
    opening ++ lineBreak (level + 1) ++ ("," ++ lineBreak (level + 1)).intercalate parts ++
      lineBreak level ++ closing

mutual

/-- The document with one item or entry a line. -/
def pretty (level : Nat) : Json → String
  | .array items => indented level "[" "]" (prettyItems (level + 1) items)
  | .object entries => indented level "\x7b" "\x7d" (prettyEntries (level + 1) entries)
  | .null => "null"
  | .bool true => "true"
  | .bool false => "false"
  | .number value => value.write
  | .string text => quote text

/-- Each item with one part a line. -/
def prettyItems (level : Nat) : List Json → List String
  | [] => []
  | item :: items => pretty level item :: prettyItems level items

/-- Each entry with one part a line. -/
def prettyEntries (level : Nat) : List (String × Json) → List String
  | [] => []
  | (key, value) :: entries =>
    (quote key ++ ": " ++ pretty level value) :: prettyEntries level entries

end

end Json
end RelationalApi
