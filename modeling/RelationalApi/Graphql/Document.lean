import RelationalApi.Error.Argument
import RelationalApi.Graphql.Grammar

/-!
# Documents as a whole

What the grammar admits must also nest selection sets at most 65 deep, have numbers that can be
read, and have definitions that can be told apart.
-/

namespace RelationalApi
namespace Graphql

/-- How many selection sets may nest in another one. -/
def nestingLimit : Nat := 64

/-- Whether all numbers in arguments and directives could be read. -/
def Directive.areReadable (directives : List Directive) : Bool :=
  directives.all fun directive => InputValue.haveReadable directive.arguments

mutual

/-- The first fault in an item, in whose set `remaining` more sets may nest. -/
def SelectionItem.fault? (remaining : Nat) : SelectionItem → Option RequestFault
  | .field _ _ arguments directives items =>
    if !(InputValue.haveReadable arguments && Directive.areReadable directives) then
      some .malformedDocument
    else if items.isEmpty then none
    else nestedFault? remaining items
  | .spread _ directives =>
    if Directive.areReadable directives then none else some .malformedDocument
  | .inline directives items =>
    if Directive.areReadable directives then nestedFault? remaining items
    else some .malformedDocument

/-- The first fault in a set that nests in a set with `remaining` more levels. -/
def nestedFault? (remaining : Nat) (items : List SelectionItem) : Option RequestFault :=
  match remaining with
  | 0 => some .documentTooDeep
  | remaining + 1 => itemsFault? remaining items

/-- The first fault in the items of a set in which `remaining` more sets may nest. -/
def itemsFault? (remaining : Nat) : List SelectionItem → Option RequestFault
  | [] => none
  | item :: items => (item.fault? remaining).or (itemsFault? remaining items)

end

/-- The first fault in the declaration of a variable. -/
def VariableDefinition.fault? (definition : VariableDefinition) : Option RequestFault :=
  if Directive.areReadable definition.directives &&
      (definition.default.map InputValue.isReadable).getD true then none
  else some .malformedDocument

/-- The first fault inside a definition. -/
def Definition.fault? : Definition → Option RequestFault
  | .operation definition =>
    (definition.declarations.findSome? VariableDefinition.fault?).or <|
      if Directive.areReadable definition.directives then
        itemsFault? nestingLimit definition.items
      else some .malformedDocument
  | .fragment definition =>
    if Directive.areReadable definition.directives then
      itemsFault? nestingLimit definition.items
    else some .malformedDocument

namespace Document

/-- The operation of a name. -/
def operation? (document : Document) (name : String) : Option OperationDefinition :=
  document.operations.find? fun operation => operation.name == some name

/-- The fragment of a name. -/
def fragment? (document : Document) (name : String) : Option FragmentDefinition :=
  document.fragments.find? fun fragment => fragment.name == name

/-- Adds an operation.  One without a name stands alone. -/
def addOperation (document : Document) (definition : OperationDefinition) :
    Except RequestFault Document :=
  let extended := { document with operations := document.operations ++ [definition] }
  match definition.name with
  | none => if document.operations.isEmpty then .ok extended else .error .severalOperations
  | some name =>
    if document.operations.any fun operation => operation.name.isNone then
      .error .severalOperations
    else if (document.operation? name).isSome then .error (.repeatedOperation name)
    else .ok extended

/-- Adds a definition. -/
def add (document : Document) : Definition → Except RequestFault Document
  | .operation definition => document.addOperation definition
  | .fragment definition =>
    if (document.fragment? definition.name).isSome then
      .error (.repeatedFragment definition.name)
    else .ok { document with fragments := document.fragments ++ [definition] }

/-- The document of definitions, one of which must be an operation. -/
def ofDefinitions (definitions : List Definition) : Except RequestFault Document := do
  let document ← definitions.foldlM add ⟨[], []⟩
  if document.operations.isEmpty then throw .noOperation
  return document

/-- The document that a text is. -/
def ofText (text : String) : Except RequestFault Document :=
  match definitions text.toList with
  | none => .error .malformedDocument
  | some (definitions, _) =>
    match definitions.findSome? Definition.fault? with
    | some fault => .error fault
    | none => ofDefinitions definitions

end Document
end Graphql
end RelationalApi
