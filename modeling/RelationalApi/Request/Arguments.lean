import RelationalApi.Error.Argument
import RelationalApi.Interface.Operation

/-!
# Arguments of operations

The arguments of an operation are checked by name and sorted by their use.  An argument that is
null counts as absent.  Filters, orders and input objects stay documents here; they are compiled
against the columns of their table.
-/

namespace RelationalApi

/-- An argument that is given and not null. -/
def given? (arguments : JsonEntries) (name : String) : Option Json :=
  match arguments.lookup name with
  | some .null => none
  | found => found

/-- Checks that all arguments have one of the allowed names. -/
def checkArguments (allowed : List String) (path : String) (arguments : JsonEntries) :
    Except ArgumentError Unit :=
  match arguments.find? fun argument => !allowed.contains argument.1 with
  | some argument => .error (.unknownField path argument.1)
  | none => .ok ()

/-- A count that may be absent. -/
def readCount (arguments : JsonEntries) (path name : String) :
    Except ArgumentError (Option Nat) :=
  match given? arguments name with
  | none => .ok none
  | some document =>
    match document.nat? with
    | some count => .ok (some count)
    | none => .error (.invalidValue (extendPath path name) "non-negative Int" document)

/-- The arguments of a select or of a relation. -/
structure SelectArguments where
  offset : Option Nat := none
  limit : Option Nat := none
  orderBy : Json := .null
  filter : Json := .null
  deriving Inhabited

/-- Sorts the arguments of a select or of a relation. -/
def SelectArguments.read (path : String) (arguments : JsonEntries) :
    Except ArgumentError SelectArguments := do
  let offset ← readCount arguments path "offset"
  let limit ← readCount arguments path "limit"
  return {
    offset := offset
    limit := limit
    orderBy := (given? arguments "orderBy").getD .null
    filter := (given? arguments "where").getD .null }

/-- The names of the arguments of a relation. -/
def relationArgumentNames : Cardinality → List String
  | .one => ["where", "orderBy"]
  | .many => ["where", "orderBy", "offset", "limit"]

/-- Checks and sorts the arguments of a relation. -/
def readRelationArguments (cardinality : Cardinality) (path : String)
    (arguments : JsonEntries) : Except ArgumentError SelectArguments := do
  checkArguments (relationArgumentNames cardinality) path arguments
  SelectArguments.read path arguments

/-- An argument that must be given. -/
def requireArgument (operation : String) (arguments : JsonEntries) (name : String) :
    Except ArgumentError Json :=
  match given? arguments name with
  | some document => .ok document
  | none => .error (.missing (joinPath operation name))

/-- The entries of an input object. -/
def readInputObject (path : String) : Json → Except ArgumentError JsonEntries
  | .object entries => .ok entries
  | document => .error (.invalidValue path "input object" document)

/-- The input objects of a list from a position on. -/
def readInputObjects (path : String) (index : Nat) :
    List Json → Except ArgumentError (List JsonEntries)
  | [] => .ok []
  | document :: documents => do
    let entries ← readInputObject (itemPath path index) document
    let others ← readInputObjects path (index + 1) documents
    return entries :: others

/-- The input objects for several rows.  An object outside a list is one row. -/
def readRowList (operation : String) (document : Json) :
    Except ArgumentError (List JsonEntries) := do
  let path := joinPath operation "values"
  match document with
  | .array [] => throw (.emptyInsert operation)
  | .array documents => readInputObjects path 0 documents
  | document => do
    let entries ← readInputObject path document
    return [entries]

/-- The assignments of an update, of which there must be one. -/
def readAssignments (operation : String) (document : Json) :
    Except ArgumentError JsonEntries := do
  let entries ← readInputObject (joinPath operation "set") document
  if entries.isEmpty then throw (.emptyUpdate operation)
  return entries

/-- The arguments of an operation by their use. -/
inductive OperationArguments where
  | select (arguments : SelectArguments)
  | insert (rows : List JsonEntries)
  | update (assignments : JsonEntries) (filter : Json)
  | delete (filter : Json)

/-- Checks and sorts the arguments of an operation. -/
def OperationArguments.read (operation : Operation) (arguments : JsonEntries) :
    Except ArgumentError OperationArguments := do
  let name := operation.name
  let filter := (given? arguments "where").getD .null
  checkArguments operation.kind.argumentNames name arguments
  match operation.kind with
  | .selectMany => return .select (← SelectArguments.read name arguments)
  | .selectOne => return .select (← SelectArguments.read name arguments)
  | .insertMany =>
    let document ← requireArgument name arguments "values"
    return .insert (← readRowList name document)
  | .insertOne =>
    let document ← requireArgument name arguments "values"
    return .insert [← readInputObject (joinPath name "values") document]
  | .update =>
    let document ← requireArgument name arguments "set"
    return .update (← readAssignments name document) filter
  | .delete => return .delete filter

end RelationalApi
