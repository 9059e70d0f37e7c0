import RelationalApi.Proofs.Request.RepeatedFields
import RelationalApi.Proofs.Request.SharedQueries
import RelationalApi.Proofs.Selection.TidyPlans

/-!
# Projections of selects

A select loads for the rows at a path of relations the columns that are requested there, and the
identity column if there is none.  The identity column is added for each field of a relation before
the fields are merged.  So it is loaded as well where one of the fields requests no column but
another one does.
-/

namespace RelationalApi

open Outcome

/-- The queries within a query, each at the path of relations that leads to it. -/
inductive SelectQuery.Level : SelectQuery -> List String -> SelectQuery -> Prop
  | root {query : SelectQuery} : Level query [] query
  | included
      {query included level : SelectQuery}
      {name : String}
      {path : List String}
      (isIncluded : (name, included) ∈ query.includes)
      (inner : Level included path level) :
      Level query (name :: path) level

/-- A plan loads a column for the rows at a path of relations. -/
inductive SelectionPlan.LoadsAt : SelectionPlan -> List String -> String -> Prop
  | here
      {plan : SelectionPlan}
      {column : String}
      (isLoaded : column ∈ plan.columns) :
      LoadsAt plan [] column
  | inside
      {plan : SelectionPlan}
      {relation : RelationPlan SelectionPlan}
      {path : List String}
      {column : String}
      (member : relation ∈ plan.relations)
      (loads : LoadsAt relation.plan path column) :
      LoadsAt plan (relation.name :: path) column

/-- The selections of the fields that lead to the rows at a path of relations, each on its own. -/
def Selection.occurrencesAt : List String -> Selection -> List Selection
  | [], selection => [selection]
  | name :: path, selection =>
      (selection.filter fun field => field.name == name && !field.selection.isEmpty).flatMap
        fun field => occurrencesAt path field.selection

namespace TableTypes

/-- The columns that the fields of a selection request. -/
def requested (types : TableTypes) (selection : Selection) : List String :=
  (selection.map (·.name)).filter fun name =>
    name != typenameField && (types.column? name).isSome

/-- The columns to load for a selection: those that are requested, or else the identity column. -/
def projection (types : TableTypes) (selection : Selection) : List String :=
  if types.requested selection = [] then [types.identity] else types.requested selection

/-- Merging the projections of several selections loads no column that is not requested: where one
of them requests no column, none of them does, or another one requests the identity column. -/
def MergesExactly (types : TableTypes) (parts : List Selection) : Prop :=
  (∃ part ∈ parts, types.requested part = []) ->
    (∃ part ∈ parts, types.identity ∈ types.requested part) ∨
      ∀ part ∈ parts, types.requested part = []

variable {types : TableTypes} {selection : Selection} {column : String}

theorem mem_requested :
    column ∈ types.requested selection ↔
      column ≠ typenameField ∧ (types.column? column).isSome = true ∧
        ∃ field ∈ selection, field.name = column := by
  rw [requested, List.mem_filter, List.mem_map, Bool.and_eq_true, bne_iff_ne]
  tauto

theorem mem_projection :
    column ∈ types.projection selection ↔
      column ∈ types.requested selection ∨
        (types.requested selection = [] ∧ column = types.identity) := by
  rw [projection]
  split
  · rename_i nothing
    rw [nothing]
    simp
  · rename_i something
    simp [something]

theorem exists_mem_projection (types : TableTypes) (selection : Selection) :
    ∃ column, column ∈ types.projection selection := by
  rw [projection]
  split
  · exact ⟨_, List.mem_singleton_self _⟩
  · rename_i something
    exact List.exists_mem_of_ne_nil _ something

end TableTypes

section Occurrences

variable {types : TableTypes} {selection : Selection} {path : List String} {column : String}

theorem Selection.mem_occurrencesAt_cons {name : String} {part : Selection} :
    part ∈ selection.occurrencesAt (name :: path) ↔
      ∃ field ∈ selection, field.name = name ∧ field.selection ≠ [] ∧
        part ∈ occurrencesAt path field.selection := by
  rw [occurrencesAt, List.mem_flatMap]
  simp only [List.mem_filter, Bool.and_eq_true, beq_iff_eq, Bool.not_eq_true',
    List.isEmpty_eq_false_iff, and_assoc]

/-- The fields that are selected at a path are those of the selections that lead there. -/
theorem Selection.mem_selectedAt_iff {field : SelectedField} :
    field ∈ selection.selectedAt path ↔ ∃ part ∈ selection.occurrencesAt path, field ∈ part := by
  induction path generalizing selection with
  | nil => simp [selectedAt, occurrencesAt]
  | cons name path inductionHypothesis =>
      rw [mem_selectedAt_cons]
      simp only [mem_occurrencesAt_cons, inductionHypothesis]
      constructor
      · rintro ⟨parent, isParent, isNamed, part, isPart, member⟩
        have selects : parent.selection ≠ [] := by
          intro nothing
          rw [nothing] at isPart
          cases path with
          | nil =>
              rw [occurrencesAt, List.mem_singleton] at isPart
              rw [isPart] at member
              cases member
          | cons =>
              obtain ⟨_, impossible, _⟩ := mem_occurrencesAt_cons.1 isPart
              cases impossible
        exact ⟨part, ⟨parent, isParent, isNamed, selects, isPart⟩, member⟩
      · rintro ⟨part, ⟨parent, isParent, isNamed, _, isPart⟩, member⟩
        exact ⟨parent, isParent, isNamed, part, isPart, member⟩

/-- A column is requested at a path where one of the selections that lead there requests it. -/
theorem mem_requested_selectedAt :
    column ∈ types.requested (selection.selectedAt path) ↔
      ∃ part ∈ selection.occurrencesAt path, column ∈ types.requested part := by
  simp only [TableTypes.mem_requested, Selection.mem_selectedAt_iff]
  constructor
  · rintro ⟨notTypename, isColumn, field, ⟨part, isPart, member⟩, isNamed⟩
    exact ⟨part, isPart, notTypename, isColumn, field, member, isNamed⟩
  · rintro ⟨part, isPart, notTypename, isColumn, field, member, isNamed⟩
    exact ⟨notTypename, isColumn, field, ⟨part, isPart, member⟩, isNamed⟩

/-- The projections of the selections at a path load what is requested there, and the identity
column for any of them that requests nothing. -/
theorem mem_projections_iff :
    (∃ part ∈ selection.occurrencesAt path, column ∈ types.projection part) ↔
      column ∈ types.requested (selection.selectedAt path) ∨
        ((∃ part ∈ selection.occurrencesAt path, types.requested part = []) ∧
          column = types.identity) := by
  simp only [mem_requested_selectedAt, TableTypes.mem_projection]
  constructor
  · rintro ⟨part, isPart, requested | ⟨nothing, isIdentity⟩⟩
    · exact .inl ⟨part, isPart, requested⟩
    · exact .inr ⟨⟨part, isPart, nothing⟩, isIdentity⟩
  · rintro (⟨part, isPart, requested⟩ | ⟨⟨part, isPart, nothing⟩, isIdentity⟩)
    · exact ⟨part, isPart, .inl requested⟩
    · exact ⟨part, isPart, .inr ⟨nothing, isIdentity⟩⟩

theorem requested_selectedAt_eq_nil :
    types.requested (selection.selectedAt path) = [] ↔
      ∀ part ∈ selection.occurrencesAt path, types.requested part = [] := by
  simp only [List.eq_nil_iff_forall_not_mem, mem_requested_selectedAt, not_exists, not_and]
  constructor
  · exact fun nothing part isPart column => nothing column part isPart
  · exact fun nothing column part isPart => nothing part isPart column

/-- The projections of the selections at a path load the projection of all that is requested there
exactly where they are merged exactly. -/
theorem mergesExactly_iff (occurs : selection.occurrencesAt path ≠ []) :
    types.MergesExactly (selection.occurrencesAt path) ↔
      ∀ column, (∃ part ∈ selection.occurrencesAt path, column ∈ types.projection part) ↔
        column ∈ types.projection (selection.selectedAt path) := by
  obtain ⟨part, isPart⟩ := List.exists_mem_of_ne_nil _ occurs
  simp only [mem_projections_iff]
  simp only [TableTypes.mem_projection, requested_selectedAt_eq_nil, TableTypes.MergesExactly,
    ← mem_requested_selectedAt]
  constructor
  · intro exact column
    constructor
    · rintro (requested | ⟨padded, rfl⟩)
      · exact .inl requested
      · exact (exact padded).imp id fun nothing => ⟨nothing, rfl⟩
    · rintro (requested | ⟨nothing, isIdentity⟩)
      · exact .inl requested
      · exact .inr ⟨⟨part, isPart, nothing part isPart⟩, isIdentity⟩
  · intro same padded
    exact ((same types.identity).1 (.inr ⟨padded, rfl⟩)).imp id And.left

end Occurrences

section Plans

variable {plan merged inner : SelectionPlan} {path : List String} {name column : String}
variable {relations : List (RelationPlan SelectionPlan)}

namespace SelectionPlan

theorem loadsAt_nil : plan.LoadsAt [] column ↔ column ∈ plan.columns := by
  constructor
  · rintro ⟨isLoaded⟩
    exact isLoaded
  · exact .here

theorem loadsAt_cons :
    plan.LoadsAt (name :: path) column ↔
      ∃ relation ∈ plan.relations, relation.name = name ∧ relation.plan.LoadsAt path column := by
  constructor
  · rintro ⟨⟩
    rename_i relation member loads
    exact ⟨relation, member, rfl, loads⟩
  · rintro ⟨relation, member, rfl, loads⟩
    exact .inside member loads

/-- A plan for a relation that is replaced by a merged plan loads what both plans load. -/
theorem loadsAt_replacePlan
    {present : RelationPlan SelectionPlan}
    (found : (relations.find? fun relation => relation.name == name) = some present)
    (merges : merged.LoadsAt path column ↔
      present.plan.LoadsAt path column ∨ inner.LoadsAt path column)
    (other : String) :
    (∃ relation ∈ replacePlan name merged relations,
        relation.name = other ∧ relation.plan.LoadsAt path column) ↔
      (∃ relation ∈ relations, relation.name = other ∧ relation.plan.LoadsAt path column) ∨
        (name = other ∧ inner.LoadsAt path column) := by
  induction relations with
  | nil => cases found
  | cons first relations inductionHypothesis =>
      rw [List.find?_cons] at found
      rw [replacePlan]
      by_cases isFirst : first.name = name
      · rw [beq_iff_eq.2 isFirst] at found
        cases found
        rw [if_pos isFirst]
        simp only [List.exists_mem_cons_iff, merges, isFirst]
        rw [and_or_left, or_right_comm]
      · rw [beq_eq_false_iff_ne.2 isFirst] at found
        rw [if_neg isFirst]
        simp only [List.exists_mem_cons_iff, inductionHypothesis found, or_assoc]

end SelectionPlan

-- The recursion follows the relation or plan that is added, as merging does.
mutual

/-- A relation that is added is loaded with what its plan loads, beside what is loaded already. -/
theorem addRelation_loadsAt :
    (relation : RelationPlan SelectionPlan) -> ∀ {fault relations merged},
      addRelation fault relations relation = .ok merged -> ∀ name path column,
        (∃ loaded ∈ merged, loaded.name = name ∧ loaded.plan.LoadsAt path column) ↔
          (∃ loaded ∈ relations, loaded.name = name ∧ loaded.plan.LoadsAt path column) ∨
            (relation.name = name ∧ relation.plan.LoadsAt path column)
  | ⟨name, target, cardinality, arguments, plan⟩, fault, relations, merged, added => by
      rw [addRelation] at added
      split at added
      · cases added
        intro other path column
        simp only [List.mem_append, List.mem_singleton, or_and_right, exists_or, exists_eq_left]
      · rename_i present found
        split at added
        · obtain ⟨mergedPlan, merges, same⟩ := bind_eq_ok.1 added
          rw [pure_eq_ok] at same
          subst same
          intro other path column
          exact SelectionPlan.loadsAt_replacePlan found
            (mergePlan_loadsAt plan merges path column) other
        · cases added

/-- A merged plan loads what each of the plans loads. -/
theorem mergePlan_loadsAt :
    (plan : SelectionPlan) -> ∀ {fault present merged},
      mergePlan fault present plan = .ok merged -> ∀ path column,
        merged.LoadsAt path column ↔ present.LoadsAt path column ∨ plan.LoadsAt path column
  | ⟨columns, relations, output⟩, fault, present, merged, merges => by
      rw [mergePlan] at merges
      obtain ⟨mergedRelations, added, same⟩ := bind_eq_ok.1 merges
      rw [pure_eq_ok] at same
      subst same
      have loads := addRelations_loadsAt relations added
      intro path column
      cases path with
      | nil =>
          simp only [SelectionPlan.loadsAt_nil]
          exact mem_foldl_addColumn
      | cons name path =>
          simp only [SelectionPlan.loadsAt_cons]
          exact loads name path column

theorem addRelations_loadsAt :
    (added : List (RelationPlan SelectionPlan)) -> ∀ {fault relations merged},
      addRelations fault relations added = .ok merged -> ∀ name path column,
        (∃ loaded ∈ merged, loaded.name = name ∧ loaded.plan.LoadsAt path column) ↔
          (∃ loaded ∈ relations, loaded.name = name ∧ loaded.plan.LoadsAt path column) ∨
            ∃ loaded ∈ added, loaded.name = name ∧ loaded.plan.LoadsAt path column
  | [], fault, relations, merged, adds => by
      rw [addRelations] at adds
      cases adds
      simp
  | relation :: added, fault, relations, merged, adds => by
      rw [addRelations] at adds
      obtain ⟨extended, addsFirst, addsOthers⟩ := bind_eq_ok.1 adds
      have first := addRelation_loadsAt relation addsFirst
      have others := addRelations_loadsAt added addsOthers
      intro name path column
      rw [others, first, List.exists_mem_cons_iff, or_assoc]

end

end Plans

namespace Interface

variable {interface : Interface} {types : TableTypes} {shape : Shape} {table fault : String}
variable {plan extended : SelectionPlan} {field : SelectedField} {selection : Selection}
variable {name column : String} {path : List String}

/-- A selection of the rows of a table projects a column at a path of relations. -/
def ProjectsAt (interface : Interface) (table : String) (selection : Selection)
    (path : List String) (column : String) : Prop :=
  ∃ last types, interface.schema.tableAlong? table path = some last ∧
    interface.table? last = some types ∧
      ∃ part ∈ selection.occurrencesAt path, column ∈ types.projection part

theorem projectsAt_nil (isTable : interface.table? table = some types) :
    interface.ProjectsAt table selection [] column ↔ column ∈ types.projection selection := by
  simp [ProjectsAt, Schema.tableAlong?, Selection.occurrencesAt, isTable]

theorem projectsAt_cons :
    interface.ProjectsAt table selection (name :: path) column ↔
      ∃ field ∈ selection, field.name = name ∧ field.selection ≠ [] ∧
        ∃ relation, interface.schema.relation? table name = some relation ∧
          interface.ProjectsAt relation.target field.selection path column := by
  simp only [ProjectsAt, Schema.tableAlong?, Option.bind_eq_some_iff,
    Selection.mem_occurrencesAt_cons]
  constructor
  · rintro ⟨last, types, ⟨relation, leads, along⟩, isTable, part,
      ⟨field, isField, isNamed, selects, isPart⟩, projected⟩
    exact ⟨field, isField, isNamed, selects, relation, leads, last, types, along, isTable, part,
      isPart, projected⟩
  · rintro ⟨field, isField, isNamed, selects, relation, leads, last, types, along, isTable, part,
      isPart, projected⟩
    exact ⟨last, types, ⟨relation, leads, along⟩, isTable, part,
      ⟨field, isField, isNamed, selects, isPart⟩, projected⟩

/-- What a field loads for the rows of a table, at the path of the rows and below it. -/
def LoadsFor (interface : Interface) (types : TableTypes) (field : SelectedField) :
    List String -> String -> Prop
  | [], column =>
      field.name = column ∧ column ≠ typenameField ∧ (types.column? column).isSome = true
  | name :: path, column => field.name = name ∧ field.selection ≠ [] ∧
      ∃ relation, interface.schema.relation? types.name name = some relation ∧
        interface.ProjectsAt relation.target field.selection path column

theorem loadsAt_append (entry : OutputEntry ObjectOutput) :
    (plan.append entry).LoadsAt path column ↔ plan.LoadsAt path column := by
  cases path with
  | nil => rw [SelectionPlan.loadsAt_nil, SelectionPlan.loadsAt_nil, SelectionPlan.append]
  | cons name path =>
      rw [SelectionPlan.loadsAt_cons, SelectionPlan.loadsAt_cons, SelectionPlan.append]

/-- A field without fields of its own loads nothing below the rows. -/
theorem not_loadsFor_of_leaf (noFields : field.selection = []) :
    ¬interface.LoadsFor types field (name :: path) column :=
  fun ⟨_, selects, _⟩ => selects noFields

/-- The plan for a field loads what the field loads, beside what is loaded already. -/
theorem loadsAt_of_pruneField
    (isTable : interface.table? shape.table = some types)
    (below : ∀ types shape fault typeName inner, interface.table? shape.table = some types ->
      interface.pruneFields types (some shape) fault (SelectionPlan.empty typeName types.name)
          field.selection = .ok inner ->
        ∀ path column, (inner.withIdentity types.identity).LoadsAt path column ↔
          interface.ProjectsAt shape.table field.selection path column)
    (pruned : interface.pruneField types (some shape) fault plan field = .ok extended)
    (path : List String)
    (column : String) :
    extended.LoadsAt path column ↔
      plan.LoadsAt path column ∨ interface.LoadsFor types field path column := by
  rcases pruneField_eq_ok.1 pruned with
    ⟨isTypename, isLeaf, rfl⟩ | ⟨notTypename, isColumn, isLeaf, rfl⟩ |
      ⟨_, notColumn, parent, relation, childTypes, inner, atShape, hasFields, atTable,
        prunedInner, appended⟩
  · rw [loadsAt_append]
    cases path with
    | nil =>
        refine (or_iff_left ?_).symm
        rintro ⟨isNamed, notTypename, _⟩
        exact notTypename (isNamed.symm.trans isTypename)
    | cons name path =>
        exact (or_iff_left (not_loadsFor_of_leaf (checkLeaf_eq_ok.1 isLeaf).2)).symm
  · rw [SelectionPlan.appendColumn, loadsAt_append]
    cases path with
    | nil =>
        rw [SelectionPlan.loadsAt_nil, SelectionPlan.loadsAt_nil, mem_addColumn]
        refine or_congr_right ⟨?_, fun ⟨isNamed, _⟩ => isNamed.symm⟩
        rintro rfl
        exact ⟨rfl, notTypename, isColumn⟩
    | cons name path =>
        rw [or_iff_left (not_loadsFor_of_leaf (checkLeaf_eq_ok.1 isLeaf).2),
          SelectionPlan.loadsAt_cons, SelectionPlan.loadsAt_cons]
  · obtain ⟨isParent, isRelation⟩ := relationAt_eq_ok.1 atShape
    cases isParent
    have leads := (Shape.relation?_eq_some.1 isRelation).2
    have isNamed := (Schema.mem_of_relation? leads).2
    rw [← name_of_table? isTable] at leads
    rw [SelectionPlan.appendRelation, bind_eq_ok] at appended
    obtain ⟨relations, added, same⟩ := appended
    rw [pure_eq_ok] at same
    subst same
    rw [loadsAt_append]
    cases path with
    | nil =>
        rw [SelectionPlan.loadsAt_nil, SelectionPlan.loadsAt_nil]
        refine (or_iff_left ?_).symm
        rintro ⟨rfl, _, isColumn⟩
        rw [notColumn] at isColumn
        cases isColumn
    | cons name path =>
        have loads := addRelation_loadsAt _ added name path column
        have loadsInner := below _ _ _ _ _ (typesAt_eq_ok.1 atTable) prunedInner path column
        rw [SelectionPlan.loadsAt_cons, SelectionPlan.loadsAt_cons, loads]
        refine or_congr_right ?_
        dsimp only
        rw [isNamed, loadsInner, LoadsFor]
        refine and_congr_right ?_
        rintro rfl
        rw [List.isEmpty_eq_false_iff] at hasFields
        simp only [leads, Option.some.injEq, exists_eq_left', ne_eq, hasFields, not_false_eq_true,
          true_and]
        rfl

theorem loadsAt_of_pruneFields
    (each : ∀ field ∈ selection, ∀ plan extended,
      interface.pruneField types (some shape) fault plan field = .ok extended ->
        ∀ path column, extended.LoadsAt path column ↔
          plan.LoadsAt path column ∨ interface.LoadsFor types field path column)
    (pruned : interface.pruneFields types (some shape) fault plan selection = .ok extended)
    (path : List String)
    (column : String) :
    extended.LoadsAt path column ↔
      plan.LoadsAt path column ∨
        ∃ field ∈ selection, interface.LoadsFor types field path column := by
  induction selection generalizing plan with
  | nil =>
      rw [pruneFields] at pruned
      cases pruned
      simp
  | cons field selection inductionHypothesis =>
      rw [List.forall_mem_cons] at each
      rw [pruneFields] at pruned
      obtain ⟨next, prunedFirst, prunedRest⟩ := bind_eq_ok.1 pruned
      rw [inductionHypothesis each.2 prunedRest, each.1 _ _ prunedFirst, List.exists_mem_cons_iff,
        or_assoc]

/-- The plan for a selection loads at every path what the selections that lead there project. -/
theorem loadsAt_iff_projectsAt
    {typeName : String}
    (isTable : interface.table? shape.table = some types)
    (pruned : interface.pruneFields types (some shape) fault
      (SelectionPlan.empty typeName types.name) selection = .ok plan)
    (path : List String)
    (column : String) :
    (plan.withIdentity types.identity).LoadsAt path column ↔
      interface.ProjectsAt shape.table selection path column := by
  induction selection using Selection.below_induction
    generalizing types shape fault typeName plan path column with
  | step selection below =>
      have loads := loadsAt_of_pruneFields (fun field isField plan extended prunedField =>
        loadsAt_of_pruneField isTable (fun _ _ _ _ _ isTable prunedInner path column =>
          below field isField isTable prunedInner path column) prunedField) pruned
      cases path with
      | nil =>
          have columns : ∀ column, column ∈ plan.columns ↔ column ∈ types.requested selection := by
            intro column
            have loadsHere := loads [] column
            simp only [SelectionPlan.loadsAt_nil, SelectionPlan.empty, List.not_mem_nil, false_or,
              LoadsFor] at loadsHere
            rw [loadsHere, TableTypes.mem_requested]
            tauto
          have isEmpty : plan.columns = [] ↔ types.requested selection = [] := by
            simp only [List.eq_nil_iff_forall_not_mem, columns]
          rw [SelectionPlan.loadsAt_nil, projectsAt_nil isTable, SelectionPlan.withIdentity,
            TableTypes.projection]
          simp only [List.isEmpty_iff, isEmpty]
          split
          · rfl
          · exact columns column
      | cons name path =>
          have sameRelations : (plan.withIdentity types.identity).relations = plan.relations := by
            rw [SelectionPlan.withIdentity]
            split <;> rfl
          have loadsBelow := loads (name :: path) column
          rw [SelectionPlan.loadsAt_cons, SelectionPlan.loadsAt_cons] at loadsBelow
          rw [SelectionPlan.loadsAt_cons, sameRelations, loadsBelow, projectsAt_cons,
            ← name_of_table? isTable]
          simp [SelectionPlan.empty, LoadsFor]

/-- Every path of relations that fields with fields of their own lead along is one of the schema,
to a table with types. -/
theorem exists_types_of_occurrence
    {part : Selection}
    (isTable : interface.table? shape.table = some types)
    (pruned : interface.pruneFields types (some shape) fault plan selection = .ok extended)
    (occurs : part ∈ selection.occurrencesAt path) :
    ∃ last reached, interface.schema.tableAlong? shape.table path = some last ∧
      interface.table? last = some reached := by
  induction path generalizing types shape fault plan extended selection with
  | nil => exact ⟨_, types, rfl, isTable⟩
  | cons name path inductionHypothesis =>
      obtain ⟨field, isField, rfl, selects, occursBelow⟩ :=
        Selection.mem_occurrencesAt_cons.1 occurs
      obtain ⟨_, _, prunedField⟩ := pruneField_of_mem pruned field isField
      rcases pruneField_eq_ok.1 prunedField with
        ⟨_, isLeaf, _⟩ | ⟨_, _, isLeaf, _⟩ |
          ⟨_, _, parent, relation, childTypes, inner, atShape, _, atTable, prunedInner, _⟩
      · exact absurd (checkLeaf_eq_ok.1 isLeaf).2 selects
      · exact absurd (checkLeaf_eq_ok.1 isLeaf).2 selects
      · obtain ⟨isParent, isRelation⟩ := relationAt_eq_ok.1 atShape
        cases isParent
        obtain ⟨last, reached, along, isReached⟩ :=
          inductionHypothesis (typesAt_eq_ok.1 atTable) prunedInner occursBelow
        refine ⟨last, reached, ?_, isReached⟩
        rw [Schema.tableAlong?, (Shape.relation?_eq_some.1 isRelation).2]
        exact along

section Queries

variable {query level : SelectQuery} {given : SelectArguments} {remaining : Option Nat}
variable {fields : Selection}

/-- The columns of the queries within the query for a plan are those that the plan loads. -/
theorem columns_of_level
    (tidy : plan.Tidy remaining)
    (loads : plan.columns ≠ [])
    (made : plan.MadeFrom interface.schema shape fields)
    (isTable : interface.table? shape.table = some types)
    (queried : plan.toQuery interface types given fault = .ok query)
    (isLevel : query.Level path level) :
    interface.schema.tableAlong? shape.table path = some level.table ∧
      (∃ reached, interface.table? level.table = some reached) ∧
      level.columns.Nodup ∧ level.columns ≠ [] ∧
      ∀ column, column ∈ level.columns ↔ plan.LoadsAt path column := by
  induction isLevel generalizing plan shape types given fault remaining fields with
  | root =>
      obtain ⟨_, _, _, _, _, _, rfl⟩ := toQuery_eq_ok.1 queried
      have isNamed := name_of_table? isTable
      refine ⟨congrArg some isNamed.symm, ⟨types, ?_⟩, (SelectionPlan.tidy_iff.1 tidy).1, loads,
        fun column => SelectionPlan.loadsAt_nil.symm⟩
      rw [isNamed]
      exact isTable
  | @included _ included level name path isIncluded _ inductionHypothesis =>
      obtain ⟨_, _, includes, _, _, pairs, rfl⟩ := toQuery_eq_ok.1 queried
      obtain ⟨relation, isRelation, isNamed, childTypes, _, atTable, _, queriedInner⟩ :=
        exists_item pairs _ isIncluded
      obtain ⟨_, names, followed, tidyInner⟩ := tidy
      obtain ⟨_, known, _, madeInner⟩ := made
      obtain ⟨leading, leads, sameTarget, _⟩ := known relation isRelation
      obtain ⟨along, reached, distinct, nonempty, columns⟩ :=
        inductionHypothesis (tidyInner relation isRelation) (followed relation isRelation).2
          (madeInner relation isRelation) (typesAt_eq_ok.1 atTable) queriedInner
      refine ⟨?_, reached, distinct, nonempty, fun column => ?_⟩
      · dsimp only at isNamed
        rw [Schema.tableAlong?, isNamed, (Shape.relation?_eq_some.1 leads).2, Option.bind_some,
          sameTarget]
        exact along
      · rw [columns, SelectionPlan.loadsAt_cons]
        constructor
        · exact fun loaded => ⟨relation, isRelation, isNamed.symm, loaded⟩
        · rintro ⟨other, isOther, sameName, loaded⟩
          have same := List.inj_on_of_nodup_map names isOther isRelation (sameName.trans isNamed)
          exact same ▸ loaded

/-- Where a plan loads a column, its query has a query. -/
theorem exists_level_of_loadsAt
    (loaded : plan.LoadsAt path column)
    (queried : plan.toQuery interface types given fault = .ok query) :
    ∃ level, query.Level path level := by
  induction loaded generalizing types given fault query with
  | here => exact ⟨query, .root⟩
  | inside isRelation _ inductionHypothesis =>
      obtain ⟨_, _, includes, _, _, pairs, rfl⟩ := toQuery_eq_ok.1 queried
      obtain ⟨⟨_, included⟩, isIncluded, rfl, _, _, _, _, queriedInner⟩ :=
        exists_result pairs _ isRelation
      obtain ⟨level, isLevel⟩ := inductionHypothesis queriedInner
      exact ⟨level, .included isIncluded isLevel⟩

end Queries

section Selects

variable {operation : Operation} {arguments : JsonEntries} {compiled : CompiledOperation}
variable {query : SelectQuery}

/-- The queries within a query for the rows of a table are those at the paths that fields lead
along, and load the columns that any of these fields projects. -/
structure LoadsOccurrences (interface : Interface) (table : String) (selection : Selection)
    (query : SelectQuery) : Prop where
  level_iff : ∀ path, (∃ level, query.Level path level) ↔ selection.occurrencesAt path ≠ []
  table_eq : ∀ path level, query.Level path level ->
    interface.schema.tableAlong? table path = some level.table
  columns_nodup : ∀ path level, query.Level path level -> level.columns.Nodup
  mem_columns : ∀ path level, query.Level path level -> ∃ types,
    interface.table? level.table = some types ∧ ∀ column, column ∈ level.columns ↔
      ∃ part ∈ selection.occurrencesAt path, column ∈ types.projection part

/-- Every query within a query loads exactly the columns that are requested at its path, each once,
or else the identity column. -/
def ProjectsExactly (interface : Interface) (selection : Selection) (query : SelectQuery) : Prop :=
  ∀ path level, query.Level path level -> ∃ types, interface.table? level.table = some types ∧
    level.columns.Nodup ∧
      ∀ column, column ∈ level.columns ↔ column ∈ types.projection (selection.selectedAt path)

/-- The projections of the fields that lead along a path are merged exactly, at every path. -/
def MergesExactly (interface : Interface) (table : String) (selection : Selection) : Prop :=
  ∀ path last types, interface.schema.tableAlong? table path = some last ->
    interface.table? last = some types -> types.MergesExactly (selection.occurrencesAt path)

theorem LoadsOccurrences.projectsExactly_iff
    (loads : interface.LoadsOccurrences table selection query) :
    interface.ProjectsExactly selection query ↔ interface.MergesExactly table selection := by
  constructor
  · intro exactly path last types along isTypes
    by_cases occurs : selection.occurrencesAt path = []
    · rw [occurs]
      exact fun ⟨_, impossible, _⟩ => absurd impossible List.not_mem_nil
    · obtain ⟨level, isLevel⟩ := (loads.level_iff path).2 occurs
      obtain ⟨_, isReached, columns⟩ := loads.mem_columns path level isLevel
      obtain ⟨_, isReachedAgain, _, projected⟩ := exactly path level isLevel
      have isLast := loads.table_eq path level isLevel
      rw [along, Option.some.injEq] at isLast
      rw [← isLast, isTypes] at isReached isReachedAgain
      cases isReached
      cases isReachedAgain
      exact (mergesExactly_iff occurs).2 fun column =>
        (columns column).symm.trans (projected column)
  · intro merges path level isLevel
    obtain ⟨types, isReached, columns⟩ := loads.mem_columns path level isLevel
    have occurs := (loads.level_iff path).1 ⟨level, isLevel⟩
    have mergesHere := merges path level.table types (loads.table_eq path level isLevel) isReached
    exact ⟨types, isReached, loads.columns_nodup path level isLevel, fun column =>
      (columns column).trans ((mergesExactly_iff occurs).1 mergesHere column)⟩

/-- The query of a select loads the columns that the fields of its selection project. -/
theorem loadsOccurrences_of_compile
    (found : interface.operation? name = some operation)
    (isSelect : operation.kind.isMutation = false)
    (compiles : interface.compile name arguments selection = .ok compiled) :
    ∃ query, compiled.request = .select query ∧
      interface.LoadsOccurrences operation.table selection query := by
  obtain ⟨plan, query, pruned, requested, _, types, given, isTable, queried⟩ :=
    compile_select found isSelect compiles
  obtain ⟨tidy, nonempty⟩ := tidy_of_prune pruned
  simp only [prune, bind_eq_ok, pure_eq_ok, typesAt_eq_ok] at pruned
  obtain ⟨_, isTableAgain, inner, prunedFields, rfl⟩ := pruned
  rw [topShape, isTable] at isTableAgain
  cases isTableAgain
  have made := SelectionPlan.madeFrom_withIdentity (madeFrom_of_pruneFields
    (fun _ isField => isField) (madeFrom_empty _ _) prunedFields) types.identity
  have columnsAt := fun path level (isLevel : query.Level path level) =>
    columns_of_level tidy nonempty made isTable queried isLevel
  have projects := loadsAt_iff_projectsAt isTable prunedFields
  have mem_columns : ∀ path level, query.Level path level -> ∃ types,
      interface.table? level.table = some types ∧ ∀ column, column ∈ level.columns ↔
        ∃ part ∈ selection.occurrencesAt path, column ∈ types.projection part := by
    intro path level isLevel
    obtain ⟨along, ⟨reached, isReached⟩, _, _, columns⟩ := columnsAt path level isLevel
    refine ⟨reached, isReached, fun column => ?_⟩
    rw [columns, projects, ProjectsAt]
    simp [along, isReached]
  refine ⟨query, requested, fun path => ⟨?_, ?_⟩, fun path level isLevel =>
    (columnsAt path level isLevel).1, fun path level isLevel =>
    (columnsAt path level isLevel).2.2.1, mem_columns⟩
  · rintro ⟨level, isLevel⟩
    obtain ⟨_, _, _, loads, _⟩ := columnsAt path level isLevel
    obtain ⟨_, _, columns⟩ := mem_columns path level isLevel
    obtain ⟨column, isLoaded⟩ := List.exists_mem_of_ne_nil _ loads
    obtain ⟨part, isPart, _⟩ := (columns column).1 isLoaded
    exact List.ne_nil_of_mem isPart
  · intro occurs
    obtain ⟨part, isPart⟩ := List.exists_mem_of_ne_nil _ occurs
    obtain ⟨last, reached, along, isReached⟩ :=
      exists_types_of_occurrence isTable prunedFields isPart
    obtain ⟨column, projected⟩ := reached.exists_mem_projection part
    exact exists_level_of_loadsAt ((projects path column).2
      ⟨last, reached, along, isReached, part, isPart, projected⟩) queried

/-- The queries within the query of a select are those at the paths that fields lead along.  Each of
them loads the columns that any of these fields projects, each once.  These are exactly the columns
that are requested at the path, or else the identity column, where at every path all fields request
a column, or none does, or one of them requests the identity column. -/
theorem projectsExactly_iff_mergesExactly
    (found : interface.operation? name = some operation)
    (isSelect : operation.kind.isMutation = false)
    (compiles : interface.compile name arguments selection = .ok compiled) :
    ∃ query, compiled.request = .select query ∧
      interface.LoadsOccurrences operation.table selection query ∧
      (interface.ProjectsExactly selection query ↔
        interface.MergesExactly operation.table selection) := by
  obtain ⟨query, requested, loads⟩ := loadsOccurrences_of_compile found isSelect compiles
  exact ⟨query, requested, loads, loads.projectsExactly_iff⟩

/-- Nothing but the posts leads to rows of their own, and nothing leads on from there. -/
theorem eq_of_mem_occurrencesAt_postFields
    {columns : List (List String)}
    {first : String}
    {part : Selection}
    (isPart : part ∈ (postFields columns).occurrencesAt (first :: path)) :
    first = "posts" ∧ path = [] := by
  obtain ⟨field, isField, isNamed, _, inner⟩ := Selection.mem_occurrencesAt_cons.1 isPart
  obtain ⟨names, _, rfl⟩ := List.mem_map.1 isField
  refine ⟨isNamed.symm, ?_⟩
  cases path with
  | nil => rfl
  | cons second path =>
      obtain ⟨leaf, isLeaf, _, selects, _⟩ := Selection.mem_occurrencesAt_cons.1 inner
      obtain ⟨_, _, rfl⟩ := List.mem_map.1 isLeaf
      exact absurd rfl selects

theorem projectsExactly_journal :
    ∃ interface compiled query, generate journal {} = .ok interface ∧
      interface.compile "users" [] (postFields [["__typename"], ["title", "id"]])
        = .ok compiled ∧
      compiled.request = .select query ∧
      interface.ProjectsExactly (postFields [["__typename"], ["title", "id"]]) query := by
  have made : ((generate journal {}).toOption.map fun interface =>
      (interface.operation? "users",
        (interface.compile "users" []
          (postFields [["__typename"], ["title", "id"]])).toOption.isSome,
        interface.schema.tableAlong? "users" ["posts"],
        (interface.table? "posts").map fun types =>
          (types.requested [{ name := "title" }, { name := "id" }]).contains types.identity)) =
      some (some ⟨.selectMany, "users"⟩, true, some "posts", some true) := by
    decide +kernel
  obtain ⟨interface, generated, facts⟩ := Option.map_eq_some_iff.1 made
  rw [toOption_eq_some] at generated
  simp only [Prod.mk.injEq, Option.isSome_iff_exists, Option.map_eq_some_iff,
    toOption_eq_some] at facts
  obtain ⟨found, ⟨compiled, compiles⟩, toPosts, posts, isPosts, requestsIdentity⟩ := facts
  obtain ⟨query, requested, _, isExact⟩ := projectsExactly_iff_mergesExactly found rfl compiles
  refine ⟨interface, compiled, query, generated, compiles, requested, isExact.2 ?_⟩
  intro path last types along isTypes padded
  obtain ⟨part, isPart, nothing⟩ := padded
  cases path with
  | nil =>
      refine .inr fun other isOther => ?_
      rw [Selection.occurrencesAt, List.mem_singleton] at isPart isOther
      rw [isOther, ← isPart]
      exact nothing
  | cons first path =>
      obtain ⟨rfl, rfl⟩ := eq_of_mem_occurrencesAt_postFields isPart
      change interface.schema.tableAlong? "users" ["posts"] = some last at along
      rw [toPosts, Option.some.injEq] at along
      subst along
      rw [isPosts, Option.some.injEq] at isTypes
      subst isTypes
      refine .inl ⟨[{ name := "title" }, { name := "id" }], ?_,
        List.contains_iff_mem.1 requestsIdentity⟩
      exact Selection.mem_occurrencesAt_cons.2 ⟨{ name := "posts", selection := _ },
        List.mem_cons_of_mem _ List.mem_cons_self, rfl, List.cons_ne_nil _ _,
        List.mem_singleton_self _⟩

/-- The relations that a request includes, with their tables and columns. -/
def includedColumns : Request -> List (String × String × List String)
  | .select query => query.includes.map fun entry => (entry.1, entry.2.table, entry.2.columns)
  | .mutate _ => []

/-- Where the posts are selected once without a column and once with their title, their identity
column is loaded although it is not requested. -/
theorem not_projectsExactly_journal :
    ∃ interface compiled query, generate journal {} = .ok interface ∧
      interface.operation? "users" = some ⟨.selectMany, "users"⟩ ∧
      interface.compile "users" [] (postFields [["__typename"], ["title"]]) = .ok compiled ∧
      compiled.request = .select query ∧
      includedColumns compiled.request = [("posts", "posts", ["id", "title"])] ∧
      ¬interface.ProjectsExactly (postFields [["__typename"], ["title"]]) query := by
  have made : ((generate journal {}).toOption.map fun interface =>
      (interface.operation? "users",
        (interface.compile "users" [] (postFields [["__typename"], ["title"]])).toOption.map
          fun compiled => decide
            (includedColumns compiled.request = [("posts", "posts", ["id", "title"])]),
        (interface.table? "posts").map fun types =>
          types.projection ((postFields [["__typename"], ["title"]]).selectedAt ["posts"]))) =
      some (some ⟨.selectMany, "users"⟩, some true, some ["title"]) := by
    decide +kernel
  obtain ⟨interface, generated, facts⟩ := Option.map_eq_some_iff.1 made
  rw [toOption_eq_some] at generated
  simp only [Prod.mk.injEq, Option.map_eq_some_iff, toOption_eq_some, decide_eq_true_eq] at facts
  obtain ⟨found, ⟨compiled, compiles, asks⟩, types, isTypes, projected⟩ := facts
  cases requested : compiled.request with
  | mutate mutation =>
      rw [requested] at asks
      cases asks
  | select query =>
      refine ⟨interface, compiled, query, generated, found, compiles, requested, asks, ?_⟩
      intro exactly
      rw [requested] at asks
      obtain ⟨⟨name, posts⟩, others, isIncludes, isPosts, _⟩ := List.map_eq_cons_iff.1 asks
      simp only [Prod.mk.injEq] at isPosts
      obtain ⟨rfl, isTable, columns⟩ := isPosts
      have isLevel : query.Level ["posts"] posts :=
        .included (isIncludes ▸ List.mem_cons_self) .root
      obtain ⟨reached, isReached, _, exact⟩ := exactly ["posts"] posts isLevel
      rw [isTable, isTypes, Option.some.injEq] at isReached
      subst isReached
      have loadsIdentity : "id" ∈ posts.columns := by
        rw [columns]
        exact List.mem_cons_self
      rw [exact, projected] at loadsIdentity
      exact absurd loadsIdentity (by decide)

end Selects

end Interface
end RelationalApi
