import RelationalApi.Catalog.Schema
import RelationalApi.Json.Fields

/-!
# Schema documents

A schema document maps identifiers to declarations.  A declaration declares a table, whose name is
the identifier unless it says otherwise, or relations of a table.  Relations refer to tables by
identifier or by name; an identifier that declares a table takes precedence.

The entries of a document are taken in the order of their identifiers.
-/

namespace RelationalApi

/-- The declaration of a column. -/
structure ColumnDeclaration where
  name : String
  type : String
  nullable : Bool := false
  primaryKey : Bool := false
  unique : Bool := false
  generated : Bool := false
  autoIncrement : Bool := false
  default : Option Json := none
  defaultSql : Option String := none
  enumName : Option String := none
  values : List String := []

/-- The declaration of a table. -/
structure TableDeclaration where
  name : Option String := none
  columns : List ColumnDeclaration

/-- The declaration of a relation. -/
structure RelationDeclaration where
  name : String
  target : String
  cardinality : Cardinality
  fromColumn : Option String := none
  toColumn : Option String := none

/-- An entry of a document. -/
inductive Declaration where
  | table (declaration : TableDeclaration)
  | relations (owner : String) (relations : List RelationDeclaration)

/-- The declarations by identifier, in ascending order of the identifiers. -/
structure SchemaDocument where
  entries : List (String × Declaration)

namespace ColumnDeclaration

/-- The declared storage kind.  An `enum` takes its name and members from the declaration. -/
def kind (declaration : ColumnDeclaration) : ColumnKind :=
  let trimmed := Text.trimBlanks declaration.type.toList
  let (dimensions, reversed) := ColumnKind.peelBrackets trimmed.reverse
  let name := String.ofList (if dimensions = 0 then trimmed else reversed.reverse)
  let element :=
    if Text.lowercaseAscii name = "enum" then
      .enumeration (declaration.enumName.getD declaration.name) declaration.values
    else ColumnKind.ofDeclared name
  ColumnKind.arrays element dimensions

/-- The texts that stand for the moment of the insert. -/
def currentTimestampTexts : List String :=
  ["now()", "current_timestamp", "current_timestamp()"]

/-- The default of a literal. -/
def literalDefault (column : String) : Json → Except SchemaError ColumnDefault
  | .null => .ok .null
  | .bool value => .ok (.bool value)
  | .number (.int value) =>
    if value < Int.pow 2 63 then .ok (.int (Int64.ofInt value)) else .ok (.float (Float.ofInt value))
  | .number (.float value) => .ok (.float value)
  | .string text => .ok (.string text)
  | literal => .error (.invalidDocument (.unsupportedDefault column literal))

/-- The declared default: an automatic number, else an expression, else a literal. -/
def columnDefault (declaration : ColumnDeclaration) : Except SchemaError (Option ColumnDefault) :=
  if declaration.autoIncrement then .ok (some .autoIncrement)
  else match declaration.defaultSql with
    | some sql =>
      if currentTimestampTexts.contains (Text.lowercaseAscii (Text.trim sql)) then
        .ok (some .currentTimestamp)
      else .ok (some (.expression sql))
    | none =>
      match declaration.default with
      | some literal => (literalDefault declaration.name literal).map some
      | none => .ok none

/-- The declared column. -/
def toColumn (declaration : ColumnDeclaration) : Except SchemaError Column := do
  let default ← declaration.columnDefault
  return {
    name := declaration.name
    kind := declaration.kind
    nullable := declaration.nullable && !declaration.primaryKey
    primaryKey := declaration.primaryKey
    unique := declaration.unique
    default := default
    generated := declaration.generated }

end ColumnDeclaration

namespace SchemaDocument

/-- The table name that an identifier declares, if it declares a table. -/
def declaredName? (document : SchemaDocument) (identifier : String) : Option String :=
  match document.entries.lookup identifier with
  | some (.table declaration) => some (declaration.name.getD identifier)
  | _ => none

/-- The table name that a reference stands for. -/
def resolve (document : SchemaDocument) (reference : String) : String :=
  (document.declaredName? reference).getD reference

/-- The relation that a declaration adds to a source table. -/
def relationOf (document : SchemaDocument) (source : String) (declaration : RelationDeclaration) :
    Relation :=
  { name := declaration.name
    source := source
    target := document.resolve declaration.target
    cardinality := declaration.cardinality
    fromColumn := declaration.fromColumn
    toColumn := declaration.toColumn }

/-- Adds what an entry declares to a schema. -/
def addEntry (document : SchemaDocument) (schema : Schema) (identifier : String) :
    Declaration → Except SchemaError Schema
  | .table declaration => do
    let columns ← declaration.columns.mapM ColumnDeclaration.toColumn
    return schema.withTable ⟨document.resolve identifier, columns⟩
  | .relations owner relations =>
    let source := document.resolve owner
    .ok (relations.foldl (fun schema declaration =>
      schema.withRelation (document.relationOf source declaration)) schema)

/-- Adds what entries declare to a schema, in order. -/
def addEntries (document : SchemaDocument) (schema : Schema) :
    List (String × Declaration) → Except SchemaError Schema
  | [] => .ok schema
  | (identifier, declaration) :: entries => do
    let schema ← document.addEntry schema identifier declaration
    document.addEntries schema entries

/-- The schema that a document declares.  It need not be valid. -/
def toSchema (document : SchemaDocument) : Except SchemaError Schema :=
  document.addEntries Schema.empty document.entries

end SchemaDocument
end RelationalApi
