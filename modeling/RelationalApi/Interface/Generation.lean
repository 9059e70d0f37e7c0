import RelationalApi.Interface.Operation
import RelationalApi.Interface.Shape
import RelationalApi.Types.Printer

/-!
# Derivation of the interface

The interface of a valid schema has, in this order, the definitions of each table that do not
depend on relations, the types of all shapes, the answer of mutations that return no rows, and the
roots.  No two operations may have the same name.
-/

namespace RelationalApi

/-- A table with its codecs and its identity column. -/
structure TableTypes where
  table : Table
  columns : List ColumnCodec
  /-- The column that is projected when a selection asks for no column. -/
  identity : String

namespace TableTypes

def name (types : TableTypes) : String :=
  types.table.name

/-- The codec of the first column of a name. -/
def column? (types : TableTypes) (name : String) : Option ColumnCodec :=
  types.columns.find? fun column => column.column == name

/-- The codecs and identity column of a table. -/
def ofTable (table : Table) : Except SchemaError TableTypes := do
  let columns ← ColumnCodec.ofTable table
  match table.identityColumn? with
  | some identity => return ⟨table, columns, identity.name⟩
  | none => throw (.emptyTable table.name)

end TableTypes

/-- The interface derived from a schema. -/
structure Interface where
  schema : Schema
  config : EngineConfig
  registry : TypeRegistry
  /-- The tables in the order of their names. -/
  tables : List TableTypes
  /-- The operations in the order of generation. -/
  operations : List Operation

namespace TypeRegistry

/-- Registers definitions in order. -/
def registerAll (registry : TypeRegistry) : List TypeDefinition → Except SchemaError TypeRegistry
  | [] => .ok registry
  | definition :: definitions => do
    let registry ← registry.register definition
    registry.registerAll definitions

/-- Registers the definitions of tables that do not depend on relations, table by table. -/
def registerTables (registry : TypeRegistry) :
    List Table → Except SchemaError (TypeRegistry × List TableTypes)
  | [] => .ok (registry, [])
  | table :: tables => do
    let types ← TableTypes.ofTable table
    let registry ← registry.registerAll (tableDefinitions table types.columns)
    let (registry, others) ← registry.registerTables tables
    return (registry, types :: others)

end TypeRegistry

/-- The codecs of the table of a name; a name without table has none. -/
def columnsOf (tables : List TableTypes) (name : String) : List ColumnCodec :=
  match tables.find? fun types => types.name == name with
  | some types => types.columns
  | none => []

/-- The answer of mutations that return no rows, if there are such. -/
def successDefinitions (response : MutationResponse) : List TypeDefinition :=
  match response with
  | .returning => []
  | .success =>
    [{ name := mutationSuccessType
       content := .object [{ name := successField, type := .nonNull (.named "Boolean") }] }]

/-- Checks that no operation has the name of one before it. -/
def checkOperationNames (seen : List Operation) : List Operation → Except SchemaError Unit
  | [] => .ok ()
  | operation :: operations =>
    match seen.find? fun other => other.name == operation.name with
    | some other =>
      .error (.nameCollision operation.name (.operationOfTables other.table operation.table))
    | none => checkOperationNames (seen ++ [operation]) operations

/-- A root with its fields; a root without fields is not defined. -/
def rootDefinitions (name : String) (fields : List OutputField) : List TypeDefinition :=
  if fields.isEmpty then [] else [{ name := name, content := .object fields }]

/-- The root field of an operation under a configuration. -/
def rootFieldOf (config : EngineConfig) (operation : Operation) : OutputField :=
  let shape : Shape := ⟨operation.table, config.depthLimit⟩
  operation.rootField (shape.typeName config.depthLimit) config.mutationResponse

/-- The query root and the mutation root. -/
def rootsOf (config : EngineConfig) (operations : List Operation) : List TypeDefinition :=
  let mutations := operations.filter fun operation => operation.kind.isMutation
  let queries := operations.filter fun operation => !operation.kind.isMutation
  rootDefinitions "Query" (queries.map (rootFieldOf config)) ++
    rootDefinitions "Mutation" (mutations.map (rootFieldOf config))

namespace Interface

/-- Derives the interface of a schema. -/
def generate (schema : Schema) (config : EngineConfig) : Except SchemaError Interface := do
  schema.validate
  let registry ← TypeRegistry.empty.register orderDirectionDefinition
  let (registry, tables) ← registry.registerTables schema.tables
  let shapes := schema.shapes config.depthLimit
  let registry ← registry.registerAll <| shapes.map fun shape =>
    shapeDefinition schema config.depthLimit (columnsOf tables shape.table) shape
  let registry ← registry.registerAll (successDefinitions config.mutationResponse)
  let operations := schema.tables.flatMap fun table => Operation.ofTable table.name
  checkOperationNames [] operations
  let registry ← registry.registerAll (rootsOf config operations)
  return ⟨schema, config, registry, tables, operations⟩

/-- The types of the table of a name. -/
def table? (interface : Interface) (name : String) : Option TableTypes :=
  interface.tables.find? fun types => types.name == name

/-- The operation of a name. -/
def operation? (interface : Interface) (name : String) : Option Operation :=
  interface.operations.find? fun operation => operation.name == name

/-- The shape of whole selects from a table. -/
def topShape (interface : Interface) (table : String) : Shape :=
  ⟨table, interface.config.depthLimit⟩

/-- The name of the type of a shape. -/
def shapeTypeName (interface : Interface) (shape : Shape) : String :=
  shape.typeName interface.config.depthLimit

/-- The interface in the schema definition language. -/
def toText (interface : Interface) : String :=
  interface.registry.toText

end Interface
end RelationalApi
