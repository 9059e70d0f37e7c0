import RelationalApi.Catalog.Table
import RelationalApi.Error.Schema
import RelationalApi.Text.Casing
import RelationalApi.Types.Definition

/-!
# Column codecs

A codec is the rule by which the values of a storage kind are shown to clients and read from them.
Small integers are numbers; integers that a client's double cannot hold exactly, decimals, dates
and bytes are texts; enum members go by names that the interface admits.

A member's name is its stored text with every character that names do not admit replaced by an
underscore.  Two members of one column must not come to the same name.
-/

namespace RelationalApi

/-- The name of the scalar for documents. -/
def jsonScalar : String := "JSON"

/-- How clients see the values of a column. -/
inductive ScalarKind where
  | int
  | float
  | string
  | boolean
  | json
  | enumeration (typeName : String)
  | list (element : ScalarKind)
  deriving Repr, DecidableEq, Inhabited

/-- The type of a kind.  Items of lists are never null. -/
def ScalarKind.type : ScalarKind → TypeRef
  | int => .named "Int"
  | float => .named "Float"
  | string => .named "String"
  | boolean => .named "Boolean"
  | json => .named jsonScalar
  | enumeration typeName => .named typeName
  | list element => .list element.type.required

/-- A member of an enum: its name for clients and the stored text. -/
structure EnumMember where
  name : String
  value : String
  deriving Repr, DecidableEq

/-- The conversion rule of a storage kind. -/
inductive Codec where
  | integer (bits : Nat) (unsigned : Bool)
  | float
  | decimal
  | boolean
  | text (length : Option Nat)
  | uuid
  | date
  | time
  | timestamp
  | binary
  | json
  | enumeration (typeName : String) (members : List EnumMember)
  | list (element : Codec)
  deriving Repr, DecidableEq, Inhabited

/-- The form in which clients see integers of some width. -/
inductive IntegerForm where
  /-- Every value fits a signed number of 32 bits. -/
  | small
  /-- Unsigned numbers of 32 bits. -/
  | wide
  /-- Numbers that are written as texts. -/
  | text
  deriving Repr, DecidableEq

/-- The form of integers with a number of bits. -/
def integerForm (bits : Nat) (unsigned : Bool) : IntegerForm :=
  if unsigned then
    if bits ≤ 16 then .small else if bits = 32 then .wide else .text
  else if bits ≤ 32 then .small
  else .text

namespace Codec

/-- How clients see the values. -/
def kind : Codec → ScalarKind
  | integer bits unsigned =>
    match integerForm bits unsigned with
    | .small => .int
    | .wide => .float
    | .text => .string
  | float => .float
  | boolean => .boolean
  | json => .json
  | enumeration typeName _ => .enumeration typeName
  | list element => .list element.kind
  | decimal => .string
  | text _ => .string
  | uuid => .string
  | date => .string
  | time => .string
  | timestamp => .string
  | binary => .string

/-- The form of the values in messages. -/
def form : Codec → String
  | integer bits unsigned =>
    match integerForm bits unsigned with
    | .small => "Int"
    | .wide => "Float (uint32)"
    | .text => s!"String (int{bits} as text)"
  | float => "Float"
  | decimal => "String (decimal)"
  | boolean => "Boolean"
  | text (some length) => s!"String (at most {length} characters)"
  | text none => "String"
  | uuid => "String (uuid)"
  | date => "String (YYYY-MM-DD)"
  | time => "String (HH:MM:SS)"
  | timestamp => "String (ISO-8601 timestamp)"
  | binary => "String (base64)"
  | json => jsonScalar
  | enumeration typeName _ => typeName
  | list element => "[" ++ element.form ++ "]"

/-- The codec of the items inside all lists. -/
def innermost : Codec → Codec
  | list element => element.innermost
  | codec => codec

end Codec

/-- The name of the type for a storage enum. -/
def enumTypeName (name : String) : String :=
  Text.upperCamel name ++ "Enum"

/-- A character that names of the interface admit. -/
def isNameChar (character : Char) : Bool :=
  character.isAlphanum || character == '_'

/-- The name of an enum member, with an underscore in front where the text would otherwise be
empty, start with a digit, or be a literal. -/
def enumMemberName (value : String) : String :=
  let name := value.toList.map fun character => if isNameChar character then character else '_'
  let reserved := ["true".toList, "false".toList, "null".toList]
  if (name.head?.map Char.isDigit).getD true || reserved.contains name then
    String.ofList ('_' :: name)
  else String.ofList name

/-- The members of an enum column, if their names are distinct. -/
def enumMembers (table column typeName : String) (seen : List String) :
    List String → Except SchemaError (List EnumMember)
  | [] => .ok []
  | value :: values => do
    let name := enumMemberName value
    if seen.contains name then
      throw (.nameCollision (typeName ++ "." ++ name) (.enumMembers column table))
    let members ← enumMembers table column typeName (name :: seen) values
    return ⟨name, value⟩ :: members

/-- The codec of a storage kind, for a column of a table. -/
def Codec.ofKind (table column : String) : ColumnKind → Except SchemaError Codec
  | .integer bits unsigned => .ok (.integer bits unsigned)
  | .float32 => .ok .float
  | .float64 => .ok .float
  | .decimal _ _ => .ok .decimal
  | .boolean => .ok .boolean
  | .text length => .ok (.text length)
  | .uuid => .ok .uuid
  | .date => .ok .date
  | .time => .ok .time
  | .timestamp _ => .ok .timestamp
  | .binary => .ok .binary
  | .json => .ok .json
  | .enumeration name values =>
    if values.isEmpty then .error (.emptyEnum table column)
    else do
      let members ← enumMembers table column (enumTypeName name) [] values
      return .enumeration (enumTypeName name) members
  | .array element => do
    let codec ← Codec.ofKind table column element
    return .list codec
  | .custom name => .error (.unsupportedColumnKind table column name)

/-- The codec of a column together with its name and whether it admits null. -/
structure ColumnCodec where
  column : String
  nullable : Bool
  codec : Codec
  deriving Repr, DecidableEq

namespace ColumnCodec

/-- The codec of a column of a table. -/
def ofColumn (table : String) (column : Column) : Except SchemaError ColumnCodec := do
  let codec ← Codec.ofKind table column.name column.kind
  return ⟨column.name, column.nullable, codec⟩

/-- The codecs of all columns of a table, in order. -/
def ofTable (table : Table) : Except SchemaError (List ColumnCodec) :=
  table.columns.mapM (ofColumn table.name)

/-- How clients see the values. -/
def kind (column : ColumnCodec) : ScalarKind :=
  column.codec.kind

/-- The type of the column in answers. -/
def outputType (column : ColumnCodec) : TypeRef :=
  if column.nullable then column.kind.type else column.kind.type.required

/-- Text columns are the ones that patterns apply to. -/
def isText (column : ColumnCodec) : Bool :=
  match column.codec with
  | .text _ => true
  | _ => false

/-- The enum that the column needs, if any. -/
def enumDefinition? (column : ColumnCodec) : Option TypeDefinition :=
  match column.codec.innermost with
  | .enumeration typeName members =>
    some { name := typeName, content := .enumeration (members.map (·.name)) }
  | _ => none

end ColumnCodec
end RelationalApi
