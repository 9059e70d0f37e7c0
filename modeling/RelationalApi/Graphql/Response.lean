import RelationalApi.Graphql.Request
import RelationalApi.Request.Execution

/-!
# Responses to document requests

The root fields of a request are carried out one after another.  A field that fails is null in the
data and adds an error with its key; the fields behind it are carried out all the same.
-/

namespace RelationalApi
namespace Graphql

/-- The error of a field, or of the whole document if there is no key. -/
def errorEntry (error : EngineError) (key : Option String) : Json :=
  .object <|
    [("message", .string error.message),
      ("extensions", .object [("code", .string error.code)])] ++
    (key.map fun key => ("path", Json.strings [key])).toList

/-- What has been answered so far. -/
structure Response where
  data : JsonEntries
  errors : List Json

namespace Response

def empty : Response := ⟨[], []⟩

/-- Adds the outcome of a field. -/
def add (response : Response) (key : String) : Except EngineError Json → Response
  | .ok value => ⟨response.data.set key value, response.errors⟩
  | .error error =>
    ⟨response.data.set key .null, response.errors ++ [errorEntry error (some key)]⟩

end Response

/-- The body of a response.  Without errors there is no entry for them. -/
def responseBody (data : Json) (errors : List Json) : Json :=
  .object (("data", data) :: if errors.isEmpty then [] else [("errors", .array errors)])

/-- Whether the operations of a kind are fields of a root. -/
def RootKind.admits (root : RootKind) (kind : OperationKind) : Bool :=
  kind.isMutation == (root == .mutation)

variable {m : Type → Type} [Monad m]

/-- Carries out the operation that a root field names. -/
def executeRoot (interface : Interface) (executor : Executor m) (root : RootKind)
    (field : SelectedField) : m (Except EngineError Json) :=
  match interface.operation? field.name with
  | none => return .error (.argument (.unknownOperation field.name))
  | some operation =>
    if root.admits operation.kind then
      interface.execute executor field.name field.arguments field.selection
    else
      return .error (.argument
        (.invalid field.key (.notARootField field.name root.typeName)))

/-- Carries out root fields in order. -/
def executeFields (interface : Interface) (executor : Executor m) (root : RootKind)
    (response : Response) : Selection → m Response
  | [] => return response
  | field :: fields => do
    let outcome ←
      if field.name = typenameField then pure (.ok (.string root.typeName))
      else executeRoot interface executor root field
    executeFields interface executor root (response.add field.key outcome) fields

/-- Carries out a request and makes the body of its response. -/
def executeDocument (interface : Interface) (executor : Executor m)
    (request : DocumentRequest) : m Json :=
  match request.resolve with
  | .error error => return responseBody .null [errorEntry (.argument error) none]
  | .ok selection => do
    let response ←
      executeFields interface executor selection.root Response.empty selection.fields
    return responseBody (.object response.data) response.errors

end Graphql
end RelationalApi
