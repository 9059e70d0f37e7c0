import RelationalApi.Graphql.Lexeme
import RelationalApi.Graphql.Syntax

/-!
# Grammar of executable documents

Of alternatives the first that can be read is taken.  The words of the language are read as the
start of what follows, so `queryQ` is a query of the name `Q`, and names are read as far as they
go.
-/

namespace RelationalApi
namespace Graphql

/-- Whether a number is not beyond the doubles. -/
def isReadableNumber : JsonNumber → Bool
  | .int _ => true
  | .float value => value.isFinite

namespace InputValue

mutual

/-- Whether all numbers in a value could be read. -/
def isReadable : InputValue → Bool
  | number value => isReadableNumber value
  | list items => areReadable items
  | object fields => haveReadable fields
  | _ => true

/-- Whether all numbers in values could be read. -/
def areReadable : List InputValue → Bool
  | [] => true
  | item :: items => isReadable item && areReadable items

/-- Whether all numbers in the values of fields could be read. -/
def haveReadable : List (String × InputValue) → Bool
  | [] => true
  | (_, value) :: fields => isReadable value && haveReadable fields

end

/-- Gives a field a value.  A field that is there already keeps its place. -/
def setField (name : String) (value : InputValue) :
    List (String × InputValue) → List (String × InputValue)
  | [] => [(name, value)]
  | (name', value') :: fields =>
    if name' = name then (name, value) :: fields else (name', value') :: setField name value fields

/-- The object of fields, each name once with its last value.  Fields with unreadable numbers are
all kept, because any of them makes the document unreadable. -/
def ofFields (fields : List (String × InputValue)) : InputValue :=
  if haveReadable fields then
    object (fields.foldl (fun entries field => setField field.1 field.2 entries) [])
  else object fields

end InputValue

/-- Reads a name behind a dollar sign. -/
def variableName : Reader String := do
  word "$"
  name

/-- Reads one of the words for a fixed value. -/
def keywordValue : Reader InputValue :=
  (do word "true"; return .bool true) <|> (do word "false"; return .bool false) <|>
    (do word "null"; return .null)

/-- Reads a name and a colon, and then what a reader reads. -/
def labelled {α : Type} (read : Reader α) : Reader (String × α) := do
  let key ← name
  word ":"
  let value ← read
  return (key, value)

/-- Reads a value.  A constant has no variables.  The fuel bounds the nesting. -/
def value (isConstant : Bool) : Nat → Reader InputValue
  | 0 => failure
  | fuel + 1 =>
    (do
      if isConstant then failure
      return .reference (← variableName)) <|>
    (do return .number (← number)) <|>
    (do return .text (← text)) <|>
    keywordValue <|>
    (do return .enumeration (← name)) <|>
    (do
      word "["
      let items ← many (value isConstant fuel)
      word "]"
      return .list items) <|>
    (do
      word "\x7b"
      let fields ← many (labelled (value isConstant fuel))
      word "\x7d"
      return .ofFields fields)

/-- Reads a value that nests as deep as the characters allow. -/
def anyValue (isConstant : Bool) : Reader InputValue :=
  fun input => value isConstant (input.length + 1) input

/-- Reads arguments in parentheses. -/
def arguments : Reader InputArguments := do
  word "("
  let arguments ← many1 (labelled (anyValue false))
  word ")"
  return arguments

/-- Reads arguments, if there are any. -/
def optionalArguments : Reader InputArguments := do
  return (← maybe arguments).getD []

/-- Reads a directive. -/
def directive : Reader Directive := do
  word "@"
  let name ← name
  let arguments ← optionalArguments
  return ⟨name, arguments⟩

/-- The characters behind the name or the bracketed type at the front, an item of which may be
marked to exclude null.  The fuel bounds the nesting. -/
def typeCoreAt : Nat → List Char → Option (List Char)
  | 0, _ => none
  | fuel + 1, input =>
    match nameAt input, input with
    | some (_, rest), _ => some rest
    | none, '[' :: rest => do
      let rest ← typeCoreAt fuel rest
      let rest := if rest.head? = some '!' then rest.tail else rest
      if rest.head? = some ']' then some rest.tail else none
    | none, _ => none

/-- Reads a type and tells whether it admits null. -/
def typeNullability : Reader Bool :=
  lexeme fun input => do
    let rest ← typeCoreAt (input.length + 1) input
    if rest.head? = some '!' then some (false, rest.tail) else some (true, rest)

/-- Reads the declaration of a variable. -/
def variableDefinition : Reader VariableDefinition := do
  let name ← variableName
  word ":"
  let nullable ← typeNullability
  let directives ← many directive
  let default ← maybe (do
    word "="
    anyValue true)
  return ⟨name, nullable, directives, default⟩

/-- Reads the declarations of variables, if there are any. -/
def variableDefinitions : Reader (List VariableDefinition) := do
  let definitions ← maybe (do
    word "("
    let definitions ← many variableDefinition
    word ")"
    return definitions)
  return definitions.getD []

/-- Reads a type condition, in which blanks but no comments separate the word from the name. -/
def typeCondition : Reader Unit :=
  lexeme fun input => do
    let rest ← dropWord? "on".toList input
    if (rest.head?.map isIgnored).getD false then
      let (_, rest) ← nameAt (rest.dropWhile isIgnored)
      some ((), rest)
    else none

/-- Succeeds without reading anything where a reader fails. -/
def absent {α : Type} (read : Reader α) : Reader Unit :=
  fun input =>
    match read input with
    | some _ => none
    | none => some ((), input)

/-- Reads one or more items in braces. -/
def selectionSet (item : Reader SelectionItem) : Reader (List SelectionItem) := do
  word "\x7b"
  let items ← many1 item
  word "\x7d"
  return items

/-- Reads a field. -/
def field (item : Reader SelectionItem) : Reader SelectionItem := do
  let label ← maybe (do
    let label ← name
    word ":"
    return label)
  let name ← name
  let arguments ← optionalArguments
  let directives ← many directive
  let items ← maybe (selectionSet item)
  return .field label name arguments directives (items.getD [])

/-- Reads a fragment without a name. -/
def inlineFragment (item : Reader SelectionItem) : Reader SelectionItem := do
  word "..."
  let _ ← maybe typeCondition
  let directives ← many directive
  let items ← selectionSet item
  return .inline directives items

/-- Reads the spread of a named fragment. -/
def fragmentSpread : Reader SelectionItem := do
  word "..."
  absent typeCondition
  let name ← name
  let directives ← many directive
  return .spread name directives

/-- Reads an item of a selection set.  The fuel bounds the nesting. -/
def selectionItem : Nat → Reader SelectionItem
  | 0 => failure
  | fuel + 1 =>
    field (selectionItem fuel) <|> inlineFragment (selectionItem fuel) <|> fragmentSpread

/-- Reads a selection set that nests as deep as the characters allow. -/
def anySelectionSet : Reader (List SelectionItem) :=
  fun input => selectionSet (selectionItem (input.length + 1)) input

/-- Reads the word for a type of operations. -/
def operationType : Reader OperationType :=
  (do word "query"; return .query) <|> (do word "mutation"; return .mutation) <|>
    (do word "subscription"; return .subscription)

/-- Reads an operation that starts with its type. -/
def namedOperation : Reader OperationDefinition := do
  let type ← operationType
  let name ← maybe name
  let declarations ← variableDefinitions
  let directives ← many directive
  let items ← anySelectionSet
  return ⟨type, name, declarations, directives, items⟩

/-- Reads an operation.  A selection set alone is a query. -/
def operation : Reader OperationDefinition :=
  namedOperation <|> do
    let items ← anySelectionSet
    return ⟨.query, none, [], [], items⟩

/-- Reads a named fragment. -/
def fragment : Reader FragmentDefinition := do
  word "fragment"
  let name ← name
  typeCondition
  let directives ← many directive
  let items ← anySelectionSet
  return ⟨name, directives, items⟩

/-- Reads a definition. -/
def definition : Reader Definition :=
  (do return .operation (← operation)) <|> (do return .fragment (← fragment))

/-- Reads a whole document. -/
def definitions : Reader (List Definition) := do
  let definitions ← many1 definition
  atEnd
  return definitions

end Graphql
end RelationalApi
