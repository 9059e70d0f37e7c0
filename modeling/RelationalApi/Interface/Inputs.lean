import RelationalApi.Arguments.OrderBy
import RelationalApi.Interface.Names

/-!
# Input and item types of tables

The types of a table that do not depend on relations: filters, orders, the inputs of inserts and
updates, and the type of returned rows.
-/

namespace RelationalApi

/-- The operators that compare a column with one value. -/
def comparisonOperators : List String :=
  ["eq", "ne", "lt", "lte", "gt", "gte"]

/-- The operators that compare a text column with a pattern. -/
def patternOperators : List String :=
  ["like", "notLike", "ilike", "notIlike"]

/-- The operators of a column. -/
def operatorFields (column : ColumnCodec) : List InputField :=
  let value := column.kind.type
  let values := TypeRef.list value.required
  (comparisonOperators.map fun name => ⟨name, value, none⟩) ++
    (if column.isText then patternOperators.map fun name => ⟨name, .named "String", none⟩
      else []) ++
    [⟨"inArray", values, none⟩, ⟨"notInArray", values, none⟩,
      ⟨"isNull", .named "Boolean", none⟩, ⟨"isNotNull", .named "Boolean", none⟩]

/-- The two input types for the operators of a column: without and with an `OR` list. -/
def columnFilterTypes (table : String) (column : ColumnCodec) : List TypeDefinition :=
  let alternatives := columnAlternativesName table column.column
  let orField : InputField := ⟨"OR", .list (.nonNull (.named alternatives)), none⟩
  [{ name := alternatives, content := .input (operatorFields column) },
    { name := columnFiltersName table column.column,
      content := .input (operatorFields column ++ [orField]) }]

/-- The input type for conditions on the rows of a table. -/
def tableFilterType (table : String) (columns : List ColumnCodec) : TypeDefinition :=
  let nested := TypeRef.list (.nonNull (.named (filtersName table)))
  { name := filtersName table
    content := .input <|
      (columns.map fun column =>
        ⟨column.column, .named (columnFiltersName table column.column), none⟩) ++
      (["AND", "OR", "NOT"].map fun name => ⟨name, nested, none⟩) }

/-- The input type for orders of the rows of a table. -/
def orderByType (table : String) (columns : List ColumnCodec) : TypeDefinition :=
  { name := orderByName table
    content := .input <|
      columns.map fun column => ⟨column.column, .named orderDirectionType, none⟩ }

/-- The enum of directions. -/
def orderDirectionDefinition : TypeDefinition :=
  { name := orderDirectionType
    content := .enumeration [Direction.ascending.word, Direction.descending.word] }

/-- A field of the insert input.  A column that an insert has to give is required. -/
def insertField (column : Column) (codec : ColumnCodec) : InputField :=
  ⟨column.name, if column.isRequiredOnInsert then codec.kind.type.required else codec.kind.type,
    none⟩

/-- The writable columns with their codecs. -/
def writablePairs (table : Table) (columns : List ColumnCodec) : List (Column × ColumnCodec) :=
  (table.columns.zip columns).filter fun pair => pair.1.isWritable

/-- The fields of the insert input. -/
def insertFields (table : Table) (columns : List ColumnCodec) : List InputField :=
  (writablePairs table columns).map fun pair => insertField pair.1 pair.2

/-- The fields of the update input, none of which is required. -/
def updateFields (table : Table) (columns : List ColumnCodec) : List InputField :=
  (writablePairs table columns).map fun pair => ⟨pair.1.name, pair.2.kind.type, none⟩

/-- The columns as fields of an object type. -/
def columnFields (columns : List ColumnCodec) : List OutputField :=
  columns.map fun column => { name := column.column, type := column.outputType }

/-- Whether documents occur in the values of a kind. -/
def ScalarKind.usesJson : ScalarKind → Bool
  | json => true
  | list element => element.usesJson
  | _ => false

/-- The enum and scalar that a column needs. -/
def columnDefinitions (column : ColumnCodec) : List TypeDefinition :=
  column.enumDefinition?.toList ++
    if column.kind.usesJson then [{ name := jsonScalar, content := .scalar }] else []

/-- The definitions of a table that do not depend on relations, in the order of registration. -/
def tableDefinitions (table : Table) (columns : List ColumnCodec) : List TypeDefinition :=
  columns.flatMap columnDefinitions ++
    columns.flatMap (columnFilterTypes table.name) ++
    [tableFilterType table.name columns, orderByType table.name columns,
      { name := insertInputName table.name, content := .input (insertFields table columns) },
      { name := updateInputName table.name, content := .input (updateFields table columns) },
      { name := itemTypeName table.name, content := .object (columnFields columns) }]

end RelationalApi
