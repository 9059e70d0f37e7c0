import RelationalApi.Text.Blank
import RelationalApi.Text.Case
import RelationalApi.Text.Digits

/-!
# Storage kinds of columns

A column is declared with a storage name such as `bigint`, `varchar(255)` or `text[]`.  A storage
name is read without regard to ASCII case.  Brackets at its end make an array of what is in front
of them; what stands behind the first opening parenthesis are numeric parameters.  Names that are
not known are kept as they are, so that the fault can be reported together with its column.
-/

namespace RelationalApi

/-- What a column stores. -/
inductive ColumnKind where
  | integer (bits : Nat) (unsigned : Bool)
  | float32
  | float64
  | decimal (precision scale : Option Nat)
  | boolean
  | text (length : Option Nat)
  | uuid
  | date
  | time
  | timestamp (withTimezone : Bool)
  | binary
  | json
  | enumeration (name : String) (values : List String)
  | array (element : ColumnKind)
  | custom (name : String)
  deriving Repr, DecidableEq, Inhabited

namespace ColumnKind

/-- A number if it fits eight bits. -/
def fitsByte (value : Nat) : Option Nat :=
  if value < 256 then some value else none

/-- The known storage names with what they stand for, given their parameters. -/
def known (parameters : List Nat) : List (String × ColumnKind) :=
  let int8 := integer 8 false
  let int16 := integer 16 false
  let int32 := integer 32 false
  let int64 := integer 64 false
  let number := decimal (parameters[0]?.bind fitsByte) (parameters[1]?.bind fitsByte)
  let characters := text parameters[0]?
  [("tinyint", int8), ("int1", int8),
    ("smallint", int16), ("int2", int16), ("smallserial", int16), ("serial2", int16),
    ("int", int32), ("integer", int32), ("int4", int32), ("serial", int32), ("serial4", int32),
    ("mediumint", int32),
    ("bigint", int64), ("int8", int64), ("bigserial", int64), ("serial8", int64),
    ("tinyint unsigned", integer 8 true), ("smallint unsigned", integer 16 true),
    ("int unsigned", integer 32 true), ("integer unsigned", integer 32 true),
    ("bigint unsigned", integer 64 true),
    ("real", float32), ("float4", float32), ("float", float32),
    ("double", float64), ("double precision", float64), ("float8", float64),
    ("numeric", number), ("decimal", number),
    ("boolean", boolean), ("bool", boolean),
    ("text", characters), ("varchar", characters), ("character varying", characters),
    ("char", characters), ("character", characters), ("string", characters),
    ("uuid", uuid), ("date", date), ("time", time),
    ("timestamp", timestamp false), ("datetime", timestamp false),
    ("timestamptz", timestamp true), ("timestamp with time zone", timestamp true),
    ("bytea", binary), ("blob", binary), ("binary", binary), ("varbinary", binary),
    ("json", json), ("jsonb", json)]

/-- The parameters among comma separated parts: the parts that are numbers of 32 bits. -/
def parameters (characters : List Char) : List Nat :=
  (Text.splitAtChar ',' characters).filterMap fun part =>
    (Text.natural? (Text.trimBlanks part)).bind fun value =>
      if value < Nat.pow 2 32 then some value else none

/-- The base name and the parameters of a storage name without brackets. -/
def baseAndParameters (characters : List Char) : List Char × List Nat :=
  match characters.dropWhile (· != '(') with
  | [] => (characters, parameters [])
  | _ :: rest =>
    let list := (rest.reverse.dropWhile (· == ')')).reverse
    (Text.trimBlanks (characters.takeWhile (· != '(')), parameters (Text.trimBlanks list))

/-- The known kind of a storage name in lower case and without brackets. -/
def known? (characters : List Char) : Option ColumnKind :=
  let (base, parameters) := baseAndParameters characters
  (known parameters).lookup (String.ofList base)

/-- Counts the pairs of brackets at the end of a reversed name, with blanks around them, and
returns the reversed name in front of them. -/
def peelBrackets : List Char → Nat × List Char
  | ']' :: '[' :: rest =>
    let (count, name) := peelBrackets rest
    (count + 1, name)
  | character :: rest =>
    if Text.isBlank character then peelBrackets rest else (0, character :: rest)
  | [] => (0, [])

/-- The array of arrays with a number of dimensions. -/
def arrays (element : ColumnKind) : Nat → ColumnKind
  | 0 => element
  | dimensions + 1 => array (arrays element dimensions)

/-- The kind that a storage name declares. -/
def ofDeclared (declared : String) : ColumnKind :=
  let trimmed := Text.trimBlanks declared.toList
  let (dimensions, reversed) := peelBrackets (trimmed.map Char.toLower).reverse
  let name := Text.trimFront reversed.reverse
  let kept := if dimensions = 0 then trimmed else name
  arrays ((known? name).getD (custom (String.ofList kept))) dimensions

/-- Text columns are the ones that patterns apply to. -/
def isText : ColumnKind → Bool
  | text _ => true
  | _ => false

/-- The name of a kind in messages. -/
def display : ColumnKind → String
  | integer bits unsigned => s!"int{bits}" ++ if unsigned then " unsigned" else ""
  | float32 => "real"
  | float64 => "double precision"
  | decimal _ _ => "numeric"
  | boolean => "boolean"
  | text _ => "text"
  | uuid => "uuid"
  | date => "date"
  | time => "time"
  | timestamp withTimezone => if withTimezone then "timestamptz" else "timestamp"
  | binary => "bytea"
  | json => "json"
  | enumeration name _ => "enum " ++ name
  | array element => element.display ++ "[]"
  | custom name => name

end ColumnKind
end RelationalApi
