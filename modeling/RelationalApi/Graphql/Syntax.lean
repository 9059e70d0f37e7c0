import RelationalApi.Json.Basic

/-!
# Syntax of executable documents

An executable document holds operations and fragments.  Types of variables matter only in whether
they admit null, and type conditions do not matter at all, because every selection has exactly one
type; neither is kept beyond that.
-/

namespace RelationalApi
namespace Graphql

/-- A value in a document. -/
inductive InputValue where
  /-- The value of a variable. -/
  | reference (name : String)
  | null
  | bool (value : Bool)
  | number (value : JsonNumber)
  | text (content : String)
  | enumeration (name : String)
  | list (items : List InputValue)
  | object (fields : List (String × InputValue))
  deriving Repr, Inhabited

/-- The arguments of a field or of a directive, in order. -/
abbrev InputArguments := List (String × InputValue)

/-- A directive with its arguments. -/
structure Directive where
  name : String
  arguments : InputArguments
  deriving Repr

/-- An item of a selection set. -/
inductive SelectionItem where
  | field (label : Option String) (name : String) (arguments : InputArguments)
      (directives : List Directive) (items : List SelectionItem)
  /-- The items of a named fragment. -/
  | spread (fragment : String) (directives : List Directive)
  | inline (directives : List Directive) (items : List SelectionItem)
  deriving Repr, Inhabited

/-- The declaration of a variable. -/
structure VariableDefinition where
  name : String
  /-- Whether the type of the variable admits null. -/
  nullable : Bool
  directives : List Directive
  default : Option InputValue
  deriving Repr

inductive OperationType where
  | query
  | mutation
  | subscription
  deriving Repr, DecidableEq

/-- An operation of a document. -/
structure OperationDefinition where
  type : OperationType
  name : Option String
  declarations : List VariableDefinition
  directives : List Directive
  items : List SelectionItem
  deriving Repr

/-- A named fragment. -/
structure FragmentDefinition where
  name : String
  directives : List Directive
  items : List SelectionItem
  deriving Repr

/-- A definition of a document. -/
inductive Definition where
  | operation (definition : OperationDefinition)
  | fragment (definition : FragmentDefinition)
  deriving Repr

/-- The definitions of a document by kind.  Operations are either one without a name or several of
different names. -/
structure Document where
  operations : List OperationDefinition
  fragments : List FragmentDefinition
  deriving Repr

end Graphql
end RelationalApi
