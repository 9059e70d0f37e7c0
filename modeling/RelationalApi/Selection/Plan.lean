import RelationalApi.Catalog.Table
import RelationalApi.Error.Argument

/-!
# Selection plans

A plan says which columns and relations a storage has to load for a selection, and how the loaded
rows are laid out in the answer.  A storage loads a relation once for each row, so a relation that
is selected several times has one part in the plan.
-/

namespace RelationalApi

/-- An entry of an answered object. -/
inductive OutputEntry (α : Type) where
  | column (key column : String)
  | typename (key : String)
  | relation (key relation : String) (cardinality : Cardinality) (object : α)
  deriving Repr, Inhabited

/-- The layout of an answered object, in the order of the selection. -/
structure ObjectOutput where
  typeName : String
  /-- The table of the rows; an object that is not made of a row has none. -/
  table : Option String
  entries : List (OutputEntry ObjectOutput)
  deriving Repr, Inhabited

/-- The key of an entry. -/
def OutputEntry.key {α : Type} : OutputEntry α → String
  | column key _ => key
  | typename key => key
  | relation key _ _ _ => key

/-- A relation to load, with the arguments of its field. -/
structure RelationPlan (α : Type) where
  name : String
  target : String
  cardinality : Cardinality
  arguments : JsonEntries
  plan : α
  deriving Repr, Inhabited

/-- What to load for the rows of a table, and their layout. -/
structure SelectionPlan where
  columns : List String
  relations : List (RelationPlan SelectionPlan)
  output : ObjectOutput
  deriving Repr, Inhabited

/-- Adds a column, if it is not there. -/
def addColumn (columns : List String) (column : String) : List String :=
  if columns.contains column then columns else columns ++ [column]

/-- Gives the first relation of a name another plan. -/
def replacePlan (name : String) (plan : SelectionPlan) :
    List (RelationPlan SelectionPlan) → List (RelationPlan SelectionPlan)
  | [] => []
  | relation :: relations =>
    if relation.name = name then { relation with plan := plan } :: relations
    else relation :: replacePlan name plan relations

mutual

/-- Adds a relation.  One that is there already must have equal arguments, and its plan then loads
what either asks for. -/
def addRelation (path : String) (relations : List (RelationPlan SelectionPlan)) :
    RelationPlan SelectionPlan → Except ArgumentError (List (RelationPlan SelectionPlan))
  | ⟨name, target, cardinality, arguments, plan⟩ =>
    match relations.find? fun relation => relation.name == name with
    | none => .ok (relations ++ [⟨name, target, cardinality, arguments, plan⟩])
    | some present =>
      if Json.object present.arguments == Json.object arguments then do
        let merged ← mergePlan path present.plan plan
        return replacePlan name merged relations
      else .error (.invalid path (.differingArguments name))

/-- Extends a plan by what another one loads.  The layout stays. -/
def mergePlan (path : String) (plan : SelectionPlan) :
    SelectionPlan → Except ArgumentError SelectionPlan
  | ⟨columns, relations, _⟩ => do
    let merged ← addRelations path plan.relations relations
    return { plan with columns := columns.foldl addColumn plan.columns, relations := merged }

/-- Adds relations one after another. -/
def addRelations (path : String) (relations : List (RelationPlan SelectionPlan)) :
    List (RelationPlan SelectionPlan) →
      Except ArgumentError (List (RelationPlan SelectionPlan))
  | [] => .ok relations
  | relation :: others => do
    let extended ← addRelation path relations relation
    addRelations path extended others

end

end RelationalApi
