import RelationalApi.Json.Basic

/-!
# Argument errors

What can be wrong with a request before it reaches the storage.  Most errors name the place in the
request at which they arise, as a path of names and positions joined by points.
-/

namespace RelationalApi

/-- The path of a part of what a path leads to. -/
def joinPath (path part : String) : String :=
  path ++ "." ++ part

/-- The path of a part of what a path leads to, where the empty path leads to the whole request. -/
def extendPath (path part : String) : String :=
  if path.isEmpty then part else joinPath path part

/-- The path of an item of a list. -/
def itemPath (path : String) (index : Nat) : String :=
  joinPath path (toString index)

/-- Why a request cannot be followed at some place. -/
inductive RequestFault where
  /-- A negated filter without any condition. -/
  | emptyNegation
  | nullOperand
  | outOfRange (value : Int) (bits : Nat)
  | tooLong (length : Nat)
  | tableWithoutTypes (table : String)
  | differingArguments (relation : String)
  | subselectionMissing
  | argumentsNotTaken
  | subselectionNotTaken
  | malformedDocument
  | documentTooDeep
  | severalOperations
  | repeatedOperation (name : String)
  | repeatedFragment (name : String)
  | noOperation
  | subscription
  | unknownOperationName (name : String)
  | unknownFragment (name : String)
  | recursiveFragment (name : String)
  | undeclaredVariable (name : String)
  | unsupportedDirective (name : String)
  | notARootField (name root : String)
  deriving DecidableEq, Repr

def RequestFault.message : RequestFault → String
  | emptyNegation => "NOT needs at least one condition"
  | nullOperand => "null is not a comparable value, use isNull instead"
  | outOfRange value bits => s!"{value} is out of range for int{bits}"
  | tooLong length => s!"value is longer than {length} characters"
  | tableWithoutTypes table => "no types generated for table '" ++ table ++ "'"
  | differingArguments relation =>
    "relation '" ++ relation ++ "' is selected more than once with different arguments"
  | subselectionMissing => "relation fields need a sub-selection"
  | argumentsNotTaken => "field takes no arguments"
  | subselectionNotTaken => "field takes no sub-selection"
  | malformedDocument => "<syntax>"
  | documentTooDeep => "recursion limit exceeded."
  | severalOperations => "document contains multiple operations"
  | repeatedOperation name => "operation " ++ name ++ " is defined twice"
  | repeatedFragment name => "fragment " ++ name ++ " is defined twice"
  | noOperation => "document does not contain an operation"
  | subscription => "subscriptions are not supported"
  | unknownOperationName name => "no operation named '" ++ name ++ "'"
  | unknownFragment name => "unknown fragment '" ++ name ++ "'"
  | recursiveFragment name => "fragment '" ++ name ++ "' spreads itself"
  | undeclaredVariable name => "variable '$" ++ name ++ "' is not declared"
  | unsupportedDirective name => "unsupported directive '@" ++ name ++ "'"
  | notARootField name root => "'" ++ name ++ "' is not a field of " ++ root

/-- A request that is refused before it reaches the storage. -/
inductive ArgumentError where
  | unknownField (path field : String)
  | invalidValue (path expected : String) (found : Json)
  | missing (path : String)
  | emptyInsert (operation : String)
  | emptyUpdate (operation : String)
  | unknownOperation (name : String)
  | invalid (path : String) (fault : RequestFault)

def ArgumentError.message : ArgumentError → String
  | unknownField path field => path ++ ": unknown field '" ++ field ++ "'"
  | invalidValue path expected found =>
    path ++ ": expected " ++ expected ++ ", found " ++ found.kindName
  | missing path => path ++ ": missing required value"
  | emptyInsert operation => operation ++ ": no values to insert"
  | emptyUpdate operation => operation ++ ": no fields to update"
  | unknownOperation name => "unknown operation '" ++ name ++ "'"
  | invalid path fault => path ++ ": " ++ fault.message

end RelationalApi
