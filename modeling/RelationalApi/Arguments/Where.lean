import RelationalApi.Scalar.Decoding
import RelationalApi.Storage.Filter

/-!
# Where arguments

A `where` argument is an object with an entry for each condition.  The keys `AND`, `OR` and `NOT`
take lists of such objects; every other key is a column and takes an object of operators, which
may have an `OR` list of operator objects of its own.  The entries of one object hold together.

Null and an empty object hold for every row and become no filter at all.  A disjunction one of
whose branches holds for every row does so too, and an empty one is left out.  A negation needs at
least one condition.
-/

namespace RelationalApi

/-- The keys that combine conditions. -/
inductive Combinator where
  | and
  | or
  | not
  deriving Repr, DecidableEq

namespace Combinator

def ofKey? (key : String) : Option Combinator :=
  if key = "AND" then some .and
  else if key = "OR" then some .or
  else if key = "NOT" then some .not
  else none

end Combinator

/-- The disjunction of branches, where no filter holds for every row. -/
def disjunction (branches : List (Option Filter)) : Option Filter :=
  if branches.any Option.isNone then none else Filter.any (branches.filterMap id)

/-- The conditions of a combinator at a path, given the filters of its list. -/
def Combinator.combine (combinator : Combinator) (path : String)
    (branches : List (Option Filter)) : Except ArgumentError (List Filter) :=
  match combinator with
  | .and => .ok (branches.filterMap id)
  | .or => .ok (disjunction branches).toList
  | .not =>
    match Filter.all (branches.filterMap id) with
    | some inner => .ok [.not inner]
    | none => .error (.invalid path .emptyNegation)

/-- The comparison of an operator's name. -/
def comparisonOfName? (name : String) : Option Comparison :=
  if name = "eq" then some .equal
  else if name = "ne" then some .notEqual
  else if name = "lt" then some .less
  else if name = "lte" then some .lessOrEqual
  else if name = "gt" then some .greater
  else if name = "gte" then some .greaterOrEqual
  else none

/-- The pattern test of an operator's name. -/
def patternOfName? (name : String) : Option PatternTest :=
  if name = "like" then some ⟨false, false⟩
  else if name = "notLike" then some ⟨false, true⟩
  else if name = "ilike" then some ⟨true, false⟩
  else if name = "notIlike" then some ⟨true, true⟩
  else none

/-- Whether the operator tests membership, and whether it is negated. -/
def membershipOfName? (name : String) : Option Bool :=
  if name = "inArray" then some false
  else if name = "notInArray" then some true
  else none

/-- Whether the operator tests for null, and whether it is negated. -/
def nullnessOfName? (name : String) : Option Bool :=
  if name = "isNull" then some false
  else if name = "isNotNull" then some true
  else none

/-- The condition of a comparison. -/
def compileComparison (column : ColumnCodec) (comparison : Comparison) (operand : Json)
    (path : String) : Except ArgumentError (Option Filter) :=
  if operand.isNull then .error (.invalid path .nullOperand)
  else do
    let value ← column.decodeNonNull operand path
    return some (.compare comparison column.column value)

/-- The condition of a pattern test. -/
def compilePattern (column : ColumnCodec) (test : PatternTest) (operand : Json)
    (path : String) : Except ArgumentError (Option Filter) :=
  match operand with
  | .string pattern => .ok (some (.pattern test column.column pattern))
  | _ => .error (.invalidValue path "String" operand)

/-- The condition of a test for membership. -/
def compileMembership (column : ColumnCodec) (negated : Bool) (operand : Json)
    (path : String) : Except ArgumentError (Option Filter) :=
  match operand with
  | .array items => do
    let values ← readItems column.decodeNonNull path 0 items
    return some (.member negated column.column values)
  | _ => .error (.invalidValue path "list" operand)

/-- The condition of a test for null, which can be switched off. -/
def compileNullness (column : ColumnCodec) (negated : Bool) (operand : Json)
    (path : String) : Except ArgumentError (Option Filter) :=
  match operand with
  | .null => .ok none
  | .bool false => .ok none
  | .bool true => .ok (some (.nullness negated column.column))
  | _ => .error (.invalidValue path "Boolean" operand)

/-- The condition of one operator.  `path` leads to the object that holds the operator. -/
def compileOperator (column : ColumnCodec) (path name : String) (operand : Json) :
    Except ArgumentError (Option Filter) :=
  let operatorPath := joinPath path name
  match nullnessOfName? name with
  | some negated => compileNullness column negated operand operatorPath
  | none =>
    match membershipOfName? name with
    | some negated => compileMembership column negated operand operatorPath
    | none =>
      match patternOfName? name, column.isText with
      | some test, true => compilePattern column test operand operatorPath
      | _, _ =>
        match comparisonOfName? name with
        | some comparison => compileComparison column comparison operand operatorPath
        | none => .error (.unknownField path name)

/-- The conditions of entries that are compiled one by one. -/
def compileOperators (compile : String → Json → Except ArgumentError (Option Filter)) :
    JsonEntries → Except ArgumentError (List Filter)
  | [] => .ok []
  | (name, operand) :: entries => do
    let condition ← compile name operand
    let others ← compileOperators compile entries
    return condition.toList ++ others

/-- The filter of an object of operators. -/
def compileOperatorObject (compile : String → Json → Except ArgumentError (Option Filter))
    (path : String) : Json → Except ArgumentError (Option Filter)
  | .null => .ok none
  | .object entries => do
    let conditions ← compileOperators compile entries
    return Filter.all conditions
  | document => .error (.invalidValue path "operator object" document)

/-- The filters of a list of operator objects. -/
def compileAlternatives (column : ColumnCodec) (path : String) (index : Nat) :
    List Json → Except ArgumentError (List (Option Filter))
  | [] => .ok []
  | item :: items => do
    let alternativePath := itemPath path index
    let branch ← compileOperatorObject (compileOperator column alternativePath) alternativePath item
    let branches ← compileAlternatives column path (index + 1) items
    return branch :: branches

/-- The disjunction of a column's own `OR` list. -/
def compileColumnOr (column : ColumnCodec) (path : String) :
    Json → Except ArgumentError (Option Filter)
  | .null => .ok none
  | .array items => do
    let branches ← compileAlternatives column path 0 items
    return disjunction branches
  | document => .error (.invalidValue path "list of operator objects" document)

/-- The filter of a column entry. -/
def compileColumn (column : ColumnCodec) (path : String) (document : Json) :
    Except ArgumentError (Option Filter) :=
  let compile (name : String) (operand : Json) : Except ArgumentError (Option Filter) :=
    if name = "OR" then compileColumnOr column (joinPath path name) operand
    else compileOperator column path name operand
  compileOperatorObject compile path document

/-- The conditions of an entry whose key is not a combinator. -/
def compileColumnEntry (columns : List ColumnCodec) (path key : String) (document : Json) :
    Except ArgumentError (List Filter) :=
  match columns.find? fun column => column.column == key with
  | some column => do
    let condition ← compileColumn column (joinPath path key) document
    return condition.toList
  | none => .error (.unknownField path key)

mutual

/-- The filter of a `where` object, or none if it holds for every row. -/
def compileWhere (columns : List ColumnCodec) (path : String) :
    Json → Except ArgumentError (Option Filter)
  | .null => .ok none
  | .object entries => do
    let conditions ← compileEntries columns path entries
    return Filter.all conditions
  | document => .error (.invalidValue path "filter object" document)

/-- The conditions of the entries of an object, in their order. -/
def compileEntries (columns : List ColumnCodec) (path : String) :
    List (String × Json) → Except ArgumentError (List Filter)
  | [] => .ok []
  | (key, document) :: entries => do
    let conditions ← compileEntry columns path key document
    let others ← compileEntries columns path entries
    return conditions ++ others

/-- The conditions of one entry. -/
def compileEntry (columns : List ColumnCodec) (path key : String) (document : Json) :
    Except ArgumentError (List Filter) :=
  match Combinator.ofKey? key, document with
  | some combinator, .null => combinator.combine (joinPath path key) []
  | some combinator, .array items => do
    let branches ← compileBranches columns (joinPath path key) 0 items
    combinator.combine (joinPath path key) branches
  | some _, document => .error (.invalidValue (joinPath path key) "list of filter objects" document)
  | none, document => compileColumnEntry columns path key document

/-- The filters of a list of `where` objects. -/
def compileBranches (columns : List ColumnCodec) (path : String) (index : Nat) :
    List Json → Except ArgumentError (List (Option Filter))
  | [] => .ok []
  | item :: items => do
    let branch ← compileWhere columns (itemPath path index) item
    let branches ← compileBranches columns path (index + 1) items
    return branch :: branches

end

end RelationalApi
