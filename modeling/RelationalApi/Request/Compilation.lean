import RelationalApi.Arguments.Where
import RelationalApi.Request.Arguments
import RelationalApi.Scalar.Decoding
import RelationalApi.Selection.Pruning
import RelationalApi.Storage.Mutation

/-!
# Compilation of operations

An operation with its arguments and selection becomes one request to an executor and a plan for
the answer.  Every fault of the arguments and the selection is found here, before the executor is
asked for anything.
-/

namespace RelationalApi

/-- What an executor is asked for. -/
inductive Request where
  | select (query : SelectQuery)
  | mutate (mutation : Mutation)
  deriving Repr

/-- How the answer of an operation is made. -/
inductive ResponsePlan where
  /-- An object for each row. -/
  | list (plan : SelectionPlan)
  /-- An object for the first row, if there is one. -/
  | single (plan : SelectionPlan)
  /-- An object that says that the operation succeeded. -/
  | success (output : ObjectOutput)
  deriving Repr

/-- An operation that can be carried out. -/
structure CompiledOperation where
  operation : Operation
  request : Request
  response : ResponsePlan
  deriving Repr

mutual

/-- The query for the rows of a table that a plan loads. -/
def SelectionPlan.toQuery (interface : Interface) (types : TableTypes)
    (arguments : SelectArguments) (path : String) :
    SelectionPlan → Except ArgumentError SelectQuery
  | ⟨columns, relations, _⟩ => do
    let filter ← compileWhere types.columns (extendPath path "where") arguments.filter
    let orderBy ← compileOrderBy types.columns (extendPath path "orderBy") arguments.orderBy
    let includes ← RelationPlan.toQueries interface path relations
    return ⟨types.name, columns, filter, orderBy, arguments.offset, arguments.limit, includes⟩

/-- The queries for relations, each with the arguments of its field. -/
def RelationPlan.toQueries (interface : Interface) (path : String) :
    List (RelationPlan SelectionPlan) → Except ArgumentError (List (String × SelectQuery))
  | [] => .ok []
  | ⟨name, target, cardinality, given, plan⟩ :: relations => do
    let relationPath := extendPath path name
    let types ← interface.typesAt target relationPath
    let arguments ← readRelationArguments cardinality relationPath given
    let query ← SelectionPlan.toQuery interface types arguments relationPath plan
    let queries ← RelationPlan.toQueries interface path relations
    return (name, query) :: queries

end

/-- The values that an input object gives to the fields of an input type, in the order of the
fields.  A field without null must be given. -/
def readInputFields (types : TableTypes) (path : String) (entries : JsonEntries) :
    List InputField → Except ArgumentError (List FieldValue)
  | [] => .ok []
  | field :: fields =>
    match entries.lookup field.name, types.column? field.name with
    | none, _ =>
      if field.type.isNonNull then .error (.missing (joinPath path field.name))
      else readInputFields types path entries fields
    | some _, none => .error (.unknownField path field.name)
    | some document, some column => do
      let value ← column.decode document (joinPath path field.name)
      let values ← readInputFields types path entries fields
      return ⟨field.name, value⟩ :: values

/-- The values of an input object, which must not have entries beyond the fields. -/
def readInputRow (types : TableTypes) (fields : List InputField) (path : String)
    (entries : JsonEntries) : Except ArgumentError (List FieldValue) :=
  match entries.find? fun entry => !fields.any fun field => field.name == entry.1 with
  | some entry => .error (.unknownField path entry.1)
  | none => readInputFields types path entries fields

/-- The values of several input objects from a position on. -/
def readInputRows (types : TableTypes) (fields : List InputField) (index : Nat) :
    List JsonEntries → Except ArgumentError (List (List FieldValue))
  | [] => .ok []
  | entries :: others => do
    let row ← readInputRow types fields (itemPath "values" index) entries
    let rows ← readInputRows types fields (index + 1) others
    return row :: rows

/-- The rows of an insert.  The path of a row alone has no position. -/
def readInsertRows (types : TableTypes) (rows : List JsonEntries) :
    Except ArgumentError (List (List FieldValue)) :=
  let fields := insertFields types.table types.columns
  match rows with
  | [entries] => do
    let row ← readInputRow types fields "values" entries
    return [row]
  | rows => readInputRows types fields 0 rows

/-- What an executor does with a conflicting row under a policy. -/
def ConflictPolicy.action : ConflictPolicy → ConflictAction
  | skip => .doNothing
  | error => .error

namespace Interface

/-- The columns that a mutation has to return, and the plan of its answer. -/
def mutationPlan (interface : Interface) (operation : Operation) (selection : Selection) :
    Except ArgumentError (Option (List String) × ResponsePlan) :=
  match interface.config.mutationResponse with
  | .success => do
    let output ← pruneSuccess operation.name selection
    return (none, .success output)
  | .returning => do
    let plan ← interface.pruneItem operation.table operation.name selection
    return (some plan.columns,
      if operation.kind = .insertOne then .single plan else .list plan)

/-- The request and the plan of a select. -/
def compileSelect (interface : Interface) (types : TableTypes) (operation : Operation)
    (arguments : SelectArguments) (selection : Selection) :
    Except ArgumentError (Request × ResponsePlan) := do
  let plan ← interface.prune (interface.topShape operation.table) operation.name selection
  if operation.kind = .selectOne then
    let query ← plan.toQuery interface types { arguments with limit := some 1 } ""
    return (.select query, .single plan)
  else
    let query ← plan.toQuery interface types arguments ""
    return (.select query, .list plan)

/-- The request and the plan of an operation whose arguments are sorted. -/
def compileArguments (interface : Interface) (types : TableTypes) (operation : Operation)
    (arguments : OperationArguments) (selection : Selection) :
    Except ArgumentError (Request × ResponsePlan) :=
  match arguments with
  | .select arguments => interface.compileSelect types operation arguments selection
  | .insert rows => do
    let (returning, response) ← interface.mutationPlan operation selection
    let rows ← readInsertRows types rows
    let onConflict := (interface.config.policyFor types.name).action
    return (.mutate (.insert ⟨types.name, rows, returning, onConflict⟩), response)
  | .update entries document => do
    let (returning, response) ← interface.mutationPlan operation selection
    let assignments ← readInputRow types (updateFields types.table types.columns) "set" entries
    let filter ← compileWhere types.columns "where" document
    return (.mutate (.update ⟨types.name, assignments, filter, returning⟩), response)
  | .delete document => do
    let (returning, response) ← interface.mutationPlan operation selection
    let filter ← compileWhere types.columns "where" document
    return (.mutate (.delete ⟨types.name, filter, returning⟩), response)

/-- Compiles the operation of a name. -/
def compile (interface : Interface) (name : String) (arguments : JsonEntries)
    (selection : Selection) : Except ArgumentError CompiledOperation :=
  match interface.operation? name with
  | none => .error (.unknownOperation name)
  | some operation => do
    let arguments ← OperationArguments.read operation arguments
    let types ← interface.typesAt operation.table operation.name
    let (request, response) ←
      interface.compileArguments types operation arguments selection
    return ⟨operation, request, response⟩

end Interface
end RelationalApi
