import RelationalApi.Catalog.Reader
import RelationalApi.CommandLine.Invocation
import RelationalApi.Graphql.Response
import RelationalApi.Storage.Fixture

/-!
# The program

The program prints the interface derived from a schema, or carries out a document on a fixture in
memory.  It reads files in a monad that it does not know, and everything else is pure.
-/

namespace RelationalApi
namespace CommandLine

/-- What stops the program. -/
inductive ProgramError where
  /-- The words of the command line are not well formed. -/
  | usage
  | schema (error : SchemaError)
  /-- The document of a schema at a path is read, but does not make a schema. -/
  | invalidSchema (path : String) (error : SchemaError)
  | unreadable (path reason : String)
  | malformedJson (path : String)
  | fixture (path : String) (error : EngineError)
  | noDocument
  | malformedVariables
  | variablesNotObject (found : Json)

def ProgramError.message : ProgramError → String
  | usage => "usage"
  | schema error => error.message
  | invalidSchema path error => "invalid schema in " ++ path ++ ": " ++ error.message
  | unreadable path reason => "failed to read " ++ path ++ ": " ++ reason
  | malformedJson path => "invalid JSON in " ++ path ++ ": <json>"
  | fixture path error =>
    "failed to load " ++ path ++ ": " ++ error.message ++ ": " ++ error.causeMessage
  | noDocument => "either --query or --file is required"
  | malformedVariables => "invalid --variables: <json>"
  | variablesNotObject found => "--variables must be a JSON object, found " ++ found.write

/-- What the program leaves: its exit code, its output, and what stopped it. -/
structure Outcome where
  exitCode : Nat
  output : String
  error : Option ProgramError

namespace Outcome

/-- A run to the end. -/
def success (output : String) : Outcome := ⟨0, output, none⟩

/-- A run to the end with errors in the output. -/
def reportedErrors (output : String) : Outcome := ⟨1, output, none⟩

/-- A run that was stopped. -/
def stopped (error : ProgramError) : Outcome := ⟨2, "", some error⟩

end Outcome

/-- The name and version of the program. -/
def versionText : String := "relgraph 0.1.0\n"

/-- The variables of a text, where null stands for none. -/
def readVariables (text : String) : Except ProgramError JsonEntries :=
  match Json.read? text with
  | none => .error .malformedVariables
  | some (.object entries) => .ok entries
  | some .null => .ok []
  | some document => .error (.variablesNotObject document)

/-- The configuration with what the options change in it. -/
def EngineOptions.adjust (options : EngineOptions) (config : EngineConfig) : EngineConfig :=
  { config with
    mutationResponse :=
      (options.dialect.map Dialect.mutationResponse).getD config.mutationResponse
    depthLimit := options.depthLimit.getD config.depthLimit }

variable {m : Type → Type} [Monad m]

/-- Gives a file's text, or the system's reason why it cannot be read. -/
abbrev FileReader (m : Type → Type) := String → m (Except String String)

/-- Reads a file whose absence makes a schema or configuration invalid. -/
def readDeclared (readFile : FileReader m) (path : String) : ExceptT ProgramError m String := do
  match ← (readFile path : m (Except String String)) with
  | .ok text => return text
  | .error reason => throw (.schema (.invalidDocument (.unreadable path reason)))

/-- Reads a file. -/
def readInput (readFile : FileReader m) (path : String) : ExceptT ProgramError m String := do
  match ← (readFile path : m (Except String String)) with
  | .ok text => return text
  | .error reason => throw (.unreadable path reason)

/-- The configuration that the options lead to. -/
def loadConfig (readFile : FileReader m) (options : EngineOptions) :
    ExceptT ProgramError m EngineConfig := do
  match options.config with
  | none => return options.adjust {}
  | some path =>
    let text ← readDeclared readFile path
    let config ← (EngineConfig.ofText text).mapError ProgramError.schema
    return options.adjust config

/-- The interface that the options lead to. -/
def loadInterface (readFile : FileReader m) (options : EngineOptions) :
    ExceptT ProgramError m Interface := do
  let text ← readDeclared readFile options.schema
  let document ← (SchemaDocument.ofText text).mapError ProgramError.schema
  let schema ← document.toSchema.mapError (ProgramError.invalidSchema options.schema)
  let config ← loadConfig readFile options
  (Interface.generate schema config).mapError ProgramError.schema

/-- The store with the fixture of the options. -/
def loadStore (readFile : FileReader m) (interface : Interface) (now : Timestamp)
    (options : ExecOptions) : ExceptT ProgramError m Store := do
  match options.data with
  | none => return Store.empty
  | some path =>
    let text ← readInput readFile path
    match Json.read? text with
    | none => throw (.malformedJson path)
    | some fixture =>
      match Store.empty.load interface.schema now fixture with
      | (.ok _, store) => return store
      | (.error error, _) => throw (.fixture path error)

/-- The request of the options. -/
def loadRequest (readFile : FileReader m) (options : ExecOptions) :
    ExceptT ProgramError m Graphql.DocumentRequest := do
  let text ← match options.file, options.query with
    | some path, _ => readInput readFile path
    | none, some text => pure text
    | none, none => throw .noDocument
  let variableValues ← match options.variableText with
    | some text => readVariables text
    | none => pure []
  return ⟨text, options.operationName, variableValues⟩

/-- Carries out the document of the options and reports the response. -/
def runExec (readFile : FileReader m) (now : Timestamp) (engine : EngineOptions)
    (options : ExecOptions) : ExceptT ProgramError m Outcome := do
  let interface ← loadInterface readFile engine
  let store ← loadStore readFile interface now options
  let request ← loadRequest readFile options
  let executor := Store.executor interface.schema now
  let (response, _) := (Graphql.executeDocument interface executor request).run store
  let output := Report.format options.format response ++ "\n"
  if (response.get? "errors").isSome then return .reportedErrors output
  else return .success output

/-- Carries out an invocation. -/
def runInvocation (readFile : FileReader m) (now : Timestamp) :
    Invocation → ExceptT ProgramError m Outcome
  | .sdl engine => do
    let interface ← loadInterface readFile engine
    return .success interface.toText
  | .exec engine options => runExec readFile now engine options
  | .version => return .success versionText

/-- Carries out a command line. -/
def run (readFile : FileReader m) (now : Timestamp) (words : List String) : m Outcome := do
  match Invocation.ofWords words with
  | none => return .stopped .usage
  | some invocation =>
    match ← (runInvocation readFile now invocation).run with
    | .ok outcome => return outcome
    | .error error => return .stopped error

end CommandLine
end RelationalApi
