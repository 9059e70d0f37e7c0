import RelationalApi.Config
import RelationalApi.Report.Format
import RelationalApi.Text.Digits

/-!
# Invocations

The words of a command line.  An option takes its value from the next word, or from the same word
behind its name, with or without an equals sign for one-letter names.  A word that starts with a
dash is not taken from the next place, unless it is the dash alone.  No option may be given twice.
-/

namespace RelationalApi
namespace CommandLine

/-- What every command needs to build an engine. -/
structure EngineOptions where
  schema : String
  config : Option String := none
  dialect : Option Dialect := none
  /-- The limit on the depth, if it is set: `some none` removes it. -/
  depthLimit : Option (Option Nat) := none

/-- What the execution of a document needs beyond the engine. -/
structure ExecOptions where
  data : Option String := none
  file : Option String := none
  query : Option String := none
  variableText : Option String := none
  operationName : Option String := none
  format : ReportFormat := .json

/-- A command line that is well formed. -/
inductive Invocation where
  /-- Print the derived interface. -/
  | sdl (engine : EngineOptions)
  /-- Carry out a document on a fixture. -/
  | exec (engine : EngineOptions) (options : ExecOptions)
  | version

/-- An option of a command: its name, its letter if it has one, and whether it takes a value. -/
structure OptionSpec where
  name : String
  letter : Option Char := none
  takesValue : Bool := true

/-- The options for the engine. -/
def engineSpecs : List OptionSpec :=
  [⟨"schema", some 's', true⟩, ⟨"config", some 'c', true⟩, ⟨"dialect", none, true⟩,
    ⟨"depth-limit", none, true⟩, ⟨"no-depth-limit", none, false⟩]

/-- The options for the execution of a document. -/
def execSpecs : List OptionSpec :=
  engineSpecs ++
    [⟨"data", some 'd', true⟩, ⟨"file", some 'f', true⟩, ⟨"query", some 'q', true⟩,
      ⟨"variables", none, true⟩, ⟨"operation-name", none, true⟩, ⟨"format", none, true⟩]

/-- The options that are given, with their values. -/
abbrev Given := List (String × Option String)

/-- An option at the front of a word: the option, and the value in the same word if there is
one. -/
def readWord (specs : List OptionSpec) (word : String) : Option (OptionSpec × Option String) :=
  match word.toList with
  | '-' :: '-' :: rest =>
    let name := rest.takeWhile (· != '=')
    let found := specs.find? fun spec => spec.name.toList == name
    match rest.dropWhile (· != '=') with
    | [] => found.map fun spec => (spec, none)
    | _ :: value => found.map fun spec => (spec, some (String.ofList value))
  | '-' :: letter :: rest =>
    let found := specs.find? fun spec => spec.letter == some letter
    match rest with
    | [] => found.map fun spec => (spec, none)
    | '=' :: value => found.map fun spec => (spec, some (String.ofList value))
    | value => found.map fun spec => (spec, some (String.ofList value))
  | _ => none

/-- Whether a word can be the value of the option in front of it. -/
def isValueWord (word : String) : Bool :=
  word == "-" || word.toList.head? != some '-'

/-- The options that words give, if the words are options and values.  Two dashes may end them. -/
def readOptions (specs : List OptionSpec) (given : Given) : List String → Option Given
  | [] => some given
  | [word] =>
    if word = "--" then some given
    else do
      let (spec, value) ← readWord specs word
      if (given.lookup spec.name).isSome || spec.takesValue != value.isSome then none
      else some (given ++ [(spec.name, value)])
  | word :: next :: words => do
    let (spec, value) ← readWord specs word
    if (given.lookup spec.name).isSome then none
    else if spec.takesValue then
      match value with
      | some value => readOptions specs (given ++ [(spec.name, some value)]) (next :: words)
      | none =>
        if isValueWord next then readOptions specs (given ++ [(spec.name, some next)]) words
        else none
    else if value.isSome then none
    else readOptions specs (given ++ [(spec.name, none)]) (next :: words)

/-- The value of an option, read if it is given. -/
def readValue {α : Type} (given : Given) (name : String) (read : String → Option α) :
    Option (Option α) :=
  match given.lookup name with
  | some (some value) => (read value).map some
  | _ => some none

/-- A path, which is not empty. -/
def readPath (path : String) : Option String :=
  if path.isEmpty then none else some path

/-- A dialect by its name. -/
def readDialect (name : String) : Option Dialect :=
  (Dialect.ofName name).toOption

/-- A limit, which fits 64 bits. -/
def readLimit (text : String) : Option Nat := do
  let limit ← Text.natural? text.toList
  if limit < Nat.pow 2 64 then some limit else none

/-- The options for the engine. -/
def EngineOptions.ofGiven (given : Given) : Option EngineOptions := do
  let schema ← (← readValue given "schema" readPath)
  let config ← readValue given "config" readPath
  let dialect ← readValue given "dialect" readDialect
  let limit ← readValue given "depth-limit" readLimit
  let unlimited := (given.lookup "no-depth-limit").isSome
  if unlimited && limit.isSome then none
  else some ⟨schema, config, dialect, if unlimited then some none else limit.map some⟩

/-- The options for the execution of a document. -/
def ExecOptions.ofGiven (given : Given) : Option ExecOptions := do
  let data ← readValue given "data" readPath
  let file ← readValue given "file" readPath
  let query ← readValue given "query" some
  let variableText ← readValue given "variables" some
  let operationName ← readValue given "operation-name" some
  let format ← readValue given "format" ReportFormat.ofWord?
  if file.isSome && query.isSome then none
  else some ⟨data, file, query, variableText, operationName, format.getD .json⟩

/-- Whether a word asks for the version. -/
def isVersionWord (word : String) : Bool :=
  word == "--version" || word.toList.take 2 == ['-', 'V']

/-- The invocation of a command line, if it is well formed. -/
def Invocation.ofWords : List String → Option Invocation
  | [] => none
  | "sdl" :: words => do
    let given ← readOptions engineSpecs [] words
    let engine ← EngineOptions.ofGiven given
    return .sdl engine
  | "exec" :: words => do
    let given ← readOptions execSpecs [] words
    let engine ← EngineOptions.ofGiven given
    let options ← ExecOptions.ofGiven given
    return .exec engine options
  | word :: _ => if isVersionWord word then some .version else none

end CommandLine
end RelationalApi
