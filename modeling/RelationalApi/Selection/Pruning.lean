import RelationalApi.Interface.Generation
import RelationalApi.Selection.Field
import RelationalApi.Selection.Plan

/-!
# Pruning

Pruning checks a selection against the types of the interface and leaves what has to be loaded.
A plan always loads a column: the identity column if the selection asks for none.
-/

namespace RelationalApi

/-- Checks that a field without an object below it has neither arguments nor fields. -/
def checkLeaf (path : String) (field : SelectedField) : Except ArgumentError Unit :=
  if !field.arguments.isEmpty then .error (.invalid path .argumentsNotTaken)
  else if !field.selection.isEmpty then .error (.invalid path .subselectionNotTaken)
  else .ok ()

namespace SelectionPlan

/-- The plan that loads nothing. -/
def empty (typeName table : String) : SelectionPlan :=
  ⟨[], [], ⟨typeName, some table, []⟩⟩

/-- Appends an entry to the layout. -/
def append (plan : SelectionPlan) (entry : OutputEntry ObjectOutput) : SelectionPlan :=
  { plan with output := { plan.output with entries := plan.output.entries ++ [entry] } }

/-- Loads the identity column, if no other column is loaded. -/
def withIdentity (plan : SelectionPlan) (identity : String) : SelectionPlan :=
  if plan.columns.isEmpty then { plan with columns := [identity] } else plan

/-- Adds a column entry. -/
def appendColumn (plan : SelectionPlan) (key column : String) : SelectionPlan :=
  { plan with columns := addColumn plan.columns column }.append (.column key column)

/-- Adds a relation entry together with what its field loads. -/
def appendRelation (plan : SelectionPlan) (path key : String) (relation : Relation)
    (arguments : JsonEntries) (inner : SelectionPlan) : Except ArgumentError SelectionPlan := do
  let relations ← addRelation path plan.relations
    ⟨relation.name, relation.target, relation.cardinality, arguments, inner⟩
  return { plan with relations := relations }.append
    (.relation key relation.name relation.cardinality inner.output)

end SelectionPlan

namespace Interface

/-- The types of a table that a path leads to. -/
def typesAt (interface : Interface) (table path : String) : Except ArgumentError TableTypes :=
  match interface.table? table with
  | some types => .ok types
  | none => .error (.invalid path (.tableWithoutTypes table))

/-- The relation of a shape that a field names. -/
def relationAt (interface : Interface) (shape : Option Shape) (path name : String) :
    Except ArgumentError (Shape × Relation) :=
  match shape.bind fun shape =>
      (shape.relation? interface.schema name).map fun relation => (shape, relation) with
  | some found => .ok found
  | none => .error (.unknownField path name)

mutual

/-- Extends a plan for the rows of a table by a field.  Rows without a shape have no relations. -/
def pruneField (interface : Interface) (types : TableTypes) (shape : Option Shape)
    (path : String) (plan : SelectionPlan) : SelectedField → Except ArgumentError SelectionPlan
  | ⟨name, label, arguments, selection⟩ =>
    let field : SelectedField := ⟨name, label, arguments, selection⟩
    let fieldPath := joinPath path field.key
    if name = typenameField then do
      checkLeaf fieldPath field
      return plan.append (.typename field.key)
    else if (types.column? name).isSome then do
      checkLeaf fieldPath field
      return plan.appendColumn field.key name
    else do
      let (shape, relation) ← relationAt interface shape path name
      if selection.isEmpty then throw (.invalid fieldPath .subselectionMissing)
      let child := shape.follow relation
      let childTypes ← typesAt interface child.table fieldPath
      let inner ← pruneFields interface childTypes (some child) fieldPath
        (SelectionPlan.empty (interface.shapeTypeName child) childTypes.name) selection
      plan.appendRelation fieldPath field.key relation arguments
        (inner.withIdentity childTypes.identity)

/-- Extends a plan by fields one after another. -/
def pruneFields (interface : Interface) (types : TableTypes) (shape : Option Shape)
    (path : String) (plan : SelectionPlan) :
    List SelectedField → Except ArgumentError SelectionPlan
  | [] => .ok plan
  | field :: fields => do
    let extended ← pruneField interface types shape path plan field
    pruneFields interface types shape path extended fields

end

/-- The plan of a selection from the rows of a shape. -/
def prune (interface : Interface) (shape : Shape) (path : String) (selection : Selection) :
    Except ArgumentError SelectionPlan := do
  let types ← interface.typesAt shape.table path
  let plan ← interface.pruneFields types (some shape) path
    (SelectionPlan.empty (interface.shapeTypeName shape) types.name) selection
  return plan.withIdentity types.identity

/-- The plan of a selection from the rows that a mutation of a table returns. -/
def pruneItem (interface : Interface) (table path : String) (selection : Selection) :
    Except ArgumentError SelectionPlan := do
  let types ← interface.typesAt table path
  let plan ← interface.pruneFields types none path
    (SelectionPlan.empty (itemTypeName types.name) types.name) selection
  return plan.withIdentity types.identity

end Interface

/-- The entry for a field of the answer of mutations that return no rows. -/
def successEntry (path : String) (field : SelectedField) :
    Except ArgumentError (OutputEntry ObjectOutput) := do
  checkLeaf (joinPath path field.key) field
  if field.name = typenameField then return .typename field.key
  else if field.name = successField then return .column field.key successField
  else throw (.unknownField path field.name)

/-- The layout of the answer of mutations that return no rows. -/
def pruneSuccess (path : String) (selection : Selection) : Except ArgumentError ObjectOutput := do
  let entries ← selection.mapM (successEntry path)
  return ⟨mutationSuccessType, none, entries⟩

end RelationalApi
