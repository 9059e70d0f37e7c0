import RelationalApi.Error.Argument
import RelationalApi.Graphql.Syntax
import RelationalApi.Selection.Field

/-!
# Resolution of selections

Resolution replaces variables by their values, leaves out what directives leave out, and puts the
items of fragments in the place of their spreads.  An argument, or a field of an input object,
whose value is a variable without value is left out too; such an item of a list is null.
-/

namespace RelationalApi
namespace Graphql

/-- The variables that an operation declares, and the values of those that have one. -/
structure VariableScope where
  declared : List String
  values : JsonEntries

namespace InputValue

mutual

/-- The document that a value stands for.  A declared variable without value stands for none. -/
def resolve (scope : VariableScope) (path : String) :
    InputValue → Except ArgumentError (Option Json)
  | reference name =>
    match scope.values.lookup name with
    | some document => .ok (some document)
    | none =>
      if scope.declared.contains name then .ok none
      else .error (.invalid path (.undeclaredVariable name))
  | null => .ok (some .null)
  | bool value => .ok (some (.bool value))
  | number value => .ok (some (.number value))
  | text content => .ok (some (.string content))
  | enumeration name => .ok (some (.string name))
  | list items => do
    let documents ← resolveItems scope path items
    return some (.array documents)
  | object fields => do
    let entries ← resolveFields scope path fields
    return some (.object entries)

/-- The documents that items of a list stand for. -/
def resolveItems (scope : VariableScope) (path : String) :
    List InputValue → Except ArgumentError (List Json)
  | [] => .ok []
  | item :: items => do
    let document ← resolve scope path item
    let documents ← resolveItems scope path items
    return document.getD .null :: documents

/-- The entries that fields of an object stand for. -/
def resolveFields (scope : VariableScope) (path : String) :
    List (String × InputValue) → Except ArgumentError (List (String × Json))
  | [] => .ok []
  | (name, value) :: fields => do
    let document ← resolve scope path value
    let entries ← resolveFields scope path fields
    return (document.map fun document => (name, document)).toList ++ entries

end

end InputValue

/-- The argument of a condition. -/
def conditionArgument : String := "if"

/-- Whether a directive lets a selection in. -/
def Directive.admits (scope : VariableScope) (path : String) (directive : Directive) :
    Except ArgumentError Bool := do
  let name := directive.name
  if name ≠ "skip" ∧ name ≠ "include" then
    throw (.invalid path (.unsupportedDirective name))
  let conditionPath := path ++ "@" ++ name ++ "." ++ conditionArgument
  match directive.arguments.lookup conditionArgument with
  | none => throw (.missing conditionPath)
  | some value =>
    match ← value.resolve scope conditionPath with
    | none => throw (.missing conditionPath)
    | some (.bool condition) => return condition == (name == "include")
    | some document => throw (.invalidValue conditionPath "Boolean" document)

/-- Whether all directives let a selection in.  Those behind one that does not are ignored. -/
def admitted (scope : VariableScope) (path : String) :
    List Directive → Except ArgumentError Bool
  | [] => .ok true
  | directive :: directives => do
    let admits ← directive.admits scope path
    if admits then admitted scope path directives else return false

/-- The entries that arguments stand for.  An argument that is given again takes the later value
and keeps its place. -/
def resolveArguments (scope : VariableScope) (path : String) (resolved : JsonEntries) :
    InputArguments → Except ArgumentError JsonEntries
  | [] => .ok resolved
  | (name, value) :: arguments => do
    let document ← value.resolve scope (extendPath path name)
    let extended : JsonEntries := match document with
      | some document => resolved.set name document
      | none => resolved
    resolveArguments scope path extended arguments

/-- What the spread of a fragment stands for at a path, where other fragments are being spread. -/
abbrev Expansion :=
  List String → String → String → Except ArgumentError Selection

mutual

/-- The fields that an item stands for at a path. -/
def SelectionItem.resolve (scope : VariableScope) (expand : Expansion) (spreading : List String)
    (path : String) : SelectionItem → Except ArgumentError Selection
  | .field label name arguments directives items => do
    if ← admitted scope path directives then
      let fieldPath := extendPath path (label.getD name)
      let arguments ← resolveArguments scope fieldPath [] arguments
      let selection ← resolveItems scope expand spreading fieldPath items
      return [⟨name, label, arguments, selection⟩]
    else return []
  | .spread fragment directives => do
    if ← admitted scope path directives then expand spreading path fragment else return []
  | .inline directives items => do
    if ← admitted scope path directives then resolveItems scope expand spreading path items
    else return []

/-- The fields that items stand for at a path. -/
def resolveItems (scope : VariableScope) (expand : Expansion) (spreading : List String)
    (path : String) : List SelectionItem → Except ArgumentError Selection
  | [] => .ok []
  | item :: items => do
    let fields ← item.resolve scope expand spreading path
    let others ← resolveItems scope expand spreading path items
    return fields ++ others

end

/-- What the spread of a fragment stands for.  No fragment is spread inside itself, so spreads do
not nest deeper than there are fragments; the fuel is their number. -/
def expandFragment (scope : VariableScope) (fragments : List FragmentDefinition) :
    Nat → Expansion
  | fuel, spreading, path, name =>
    match fragments.find? fun fragment => fragment.name == name with
    | none => .error (.invalid path (.unknownFragment name))
    | some fragment =>
      match fuel with
      | 0 => .error (.invalid path (.recursiveFragment name))
      | fuel + 1 =>
        if spreading.contains name then .error (.invalid path (.recursiveFragment name))
        else
          resolveItems scope (expandFragment scope fragments fuel) (name :: spreading) path
            fragment.items

/-- The fields that the items of an operation stand for. -/
def resolveSelection (scope : VariableScope) (fragments : List FragmentDefinition)
    (items : List SelectionItem) : Except ArgumentError Selection :=
  resolveItems scope (expandFragment scope fragments fragments.length) [] "" items

end Graphql
end RelationalApi
