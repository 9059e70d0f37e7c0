import RelationalApi.Graphql.Document
import RelationalApi.Graphql.Resolution

/-!
# Document requests

A request holds a document, the values of variables, and the name of an operation where the
document has several.
-/

namespace RelationalApi
namespace Graphql

/-- A request to carry out an operation of a document. -/
structure DocumentRequest where
  text : String
  operationName : Option String := none
  variableValues : JsonEntries := []

/-- The roots that operations start from. -/
inductive RootKind where
  | query
  | mutation
  deriving Repr, DecidableEq

/-- The name of the type of a root. -/
def RootKind.typeName : RootKind → String
  | query => "Query"
  | mutation => "Mutation"

/-- The fields that an operation asks of a root. -/
structure RootSelection where
  root : RootKind
  fields : Selection
  deriving Repr

/-- The operation of a document that is meant.  An operation that stands alone without a name is
meant by every request. -/
def Document.select (document : Document) (name : Option String) :
    Except ArgumentError OperationDefinition :=
  match document.operations, name with
  | [operation], none => .ok operation
  | [⟨type, none, declarations, directives, items⟩], some _ =>
    .ok ⟨type, none, declarations, directives, items⟩
  | _, some name =>
    match document.operation? name with
    | some operation => .ok operation
    | none => .error (.invalid "operationName" (.unknownOperationName name))
  | _, none => .error (.missing "operationName")

/-- The root that operations of a type start from. -/
def OperationType.root : OperationType → Except ArgumentError RootKind
  | query => .ok .query
  | mutation => .ok .mutation
  | subscription => .error (.invalid "document" .subscription)

/-- The value of a declared variable: the provided one, else the default.  A variable without
either must admit null, and then has no value. -/
def VariableDefinition.value? (provided : JsonEntries) (definition : VariableDefinition) :
    Except ArgumentError (Option Json) :=
  let path := "$" ++ definition.name
  match provided.lookup definition.name, definition.default with
  | some document, _ =>
    if document.isNull && !definition.nullable then .error (.missing path)
    else .ok (some document)
  | none, some default => default.resolve ⟨[], []⟩ path
  | none, none => if definition.nullable then .ok none else .error (.missing path)

/-- The values of declared variables in the order of declaration. -/
def resolveVariables (provided values : JsonEntries) :
    List VariableDefinition → Except ArgumentError JsonEntries
  | [] => .ok values
  | definition :: definitions => do
    let value ← definition.value? provided
    let extended : JsonEntries := match value with
      | some value => values.set definition.name value
      | none => values
    resolveVariables provided extended definitions

/-- The fields that an operation of a document asks for. -/
def OperationDefinition.resolve (definition : OperationDefinition)
    (fragments : List FragmentDefinition) (provided : JsonEntries) :
    Except ArgumentError RootSelection := do
  let root ← definition.type.root
  let values ← resolveVariables provided [] definition.declarations
  let scope : VariableScope := ⟨definition.declarations.map (·.name), values⟩
  let fields ← resolveSelection scope fragments definition.items
  return ⟨root, fields⟩

/-- The fields that a document asks for. -/
def Document.resolve (document : Document) (operationName : Option String)
    (provided : JsonEntries) : Except ArgumentError RootSelection := do
  let operation ← document.select operationName
  operation.resolve document.fragments provided

/-- The fields that a request asks for. -/
def DocumentRequest.resolve (request : DocumentRequest) : Except ArgumentError RootSelection := do
  let document ← (Document.ofText request.text).mapError (ArgumentError.invalid "document")
  document.resolve request.operationName request.variableValues

end Graphql
end RelationalApi
