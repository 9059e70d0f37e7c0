import RelationalApi.Proofs.Answer.Levels
import RelationalApi.Proofs.Request.RearrangedArguments
import RelationalApi.Proofs.Selection.Siblings
import RelationalApi.Proofs.Storage.AlikeQueries
import RelationalApi.Proofs.Storage.Loading
import RelationalApi.Request.Compilation

/-!
# Queries for what plans share

The query for a plan includes a query for each of its relations, with the arguments of its field. So
a plan that loads as much as another one has a query that loads as much, and what a plan shows can
be filled from the rows of either query.
-/

namespace RelationalApi

open Outcome

/-- Two lists of arguments differ at most in how they are arranged. -/
def ArgumentsRearranged (arguments others : JsonEntries) : Prop :=
  Json.Rearranged (.object arguments) (.object others)

instance : IsPreorder JsonEntries ArgumentsRearranged where
  refl arguments := .same (.object arguments)
  trans _ _ _ first second := Json.Rearranged.trans first second

section Queries

variable {interface : Interface} {types : TableTypes} {path : String}
variable {arguments : SelectArguments} {plan : SelectionPlan} {query : SelectQuery}

/-- The query for a relation is included under its name. -/
def RelationPlan.QueriedBy (interface : Interface) (path : String)
    (relation : RelationPlan SelectionPlan) (entry : String × SelectQuery) : Prop :=
  entry.1 = relation.name ∧ ∃ types arguments,
    interface.typesAt relation.target (extendPath path relation.name) = .ok types ∧
      readRelationArguments relation.cardinality (extendPath path relation.name) relation.arguments
        = .ok arguments ∧
      relation.plan.toQuery interface types arguments (extendPath path relation.name)
        = .ok entry.2

theorem toQueries_eq_ok
    {relations : List (RelationPlan SelectionPlan)}
    {queries : List (String × SelectQuery)} :
    RelationPlan.toQueries interface path relations = .ok queries ↔
      List.Forall₂ (RelationPlan.QueriedBy interface path) relations queries := by
  induction relations generalizing queries with
  | nil => rw [RelationPlan.toQueries, List.forall₂_nil_left_iff, Except.ok.injEq, eq_comm]
  | cons relation relations inductionHypothesis =>
      simp only [RelationPlan.toQueries, bind_eq_ok, pure_eq_ok, inductionHypothesis,
        List.forall₂_cons_left_iff]
      constructor
      · rintro ⟨types, atTable, arguments, given, query, queried, others, rest, rfl⟩
        exact ⟨(_, query), others, ⟨rfl, types, arguments, atTable, given, queried⟩, rest, rfl⟩
      · rintro ⟨⟨_, query⟩, others, ⟨rfl, types, arguments, atTable, given, queried⟩, rest, rfl⟩
        exact ⟨types, atTable, arguments, given, query, queried, others, rest, rfl⟩

theorem toQuery_eq_ok :
    plan.toQuery interface types arguments path = .ok query ↔
      ∃ filter orderBy includes,
        compileWhere types.columns (extendPath path "where") arguments.filter = .ok filter ∧
        compileOrderBy types.columns (extendPath path "orderBy") arguments.orderBy = .ok orderBy ∧
        List.Forall₂ (RelationPlan.QueriedBy interface path) plan.relations includes ∧
        ⟨types.name, plan.columns, filter, orderBy, arguments.offset, arguments.limit, includes⟩
          = query := by
  obtain ⟨columns, relations, output⟩ := plan
  rw [SelectionPlan.toQuery]
  simp only [bind_eq_ok, pure_eq_ok, toQueries_eq_ok]
  constructor
  · rintro ⟨filter, filters, orderBy, orders, includes, queried, same⟩
    exact ⟨filter, orderBy, includes, filters, orders, queried, same⟩
  · rintro ⟨filter, orderBy, includes, filters, orders, queried, same⟩
    exact ⟨filter, filters, orderBy, orders, includes, queried, same⟩

/-- The query for the relation of a name is the one that is included under it. -/
theorem exists_include
    {name : String}
    {relation : RelationPlan SelectionPlan}
    (queried : plan.toQuery interface types arguments path = .ok query)
    (found : plan.relation? name = some relation) :
    ∃ included, query.include? name = some included ∧
      relation.QueriedBy interface path (name, included) := by
  obtain ⟨_, _, includes, _, _, pairs, rfl⟩ := toQuery_eq_ok.1 queried
  rw [SelectionPlan.relation?] at found
  rw [SelectQuery.include?]
  clear queried
  generalize plan.relations = relations at pairs found
  induction pairs with
  | nil => cases found
  | @cons first entry relations includes firstQueried _ inductionHypothesis =>
      obtain ⟨entryName, included⟩ := entry
      obtain ⟨rfl, isQueried⟩ := firstQueried
      rw [List.find?_cons] at found
      rw [List.lookup_cons]
      by_cases isName : first.name = name
      · subst isName
        rw [beq_self_eq_true] at found ⊢
        cases found
        exact ⟨included, rfl, rfl, isQueried⟩
      · rw [beq_eq_false_iff_ne.2 isName] at found
        rw [beq_eq_false_iff_ne.2 (Ne.symm isName)]
        exact inductionHypothesis found

/-- The query for a plan loads as much as the query for every plan that it loads as much as. -/
theorem exists_toQuery_of_loads
    {whole part : SelectionPlan}
    {others : SelectArguments}
    (loads : whole.Loads ArgumentsRearranged part)
    (rearranged : arguments.Rearranged others)
    (queried : whole.toQuery interface types arguments path = .ok query)
    (schema : Schema) :
    ∃ partQuery, part.toQuery interface types others path = .ok partQuery ∧
      query.Loads schema partQuery := by
  induction loads generalizing types arguments others path query with
  | @plan whole part columns relations inner inductionHypothesis =>
      obtain ⟨filter, orderBy, includes, filters, orders, pairs, rfl⟩ := toQuery_eq_ok.1 queried
      obtain ⟨partFilter, partFilters, alike⟩ :=
        (compileWhere_agree types.columns rearranged.filter _).exists_ok filters
      obtain ⟨_, partOrders, rfl⟩ :=
        (compileOrderBy_agree types.columns rearranged.orderBy _).exists_ok orders
      have eachRelation : ∀ relation ∈ part.relations, ∃ entry,
          relation.QueriedBy interface path entry ∧ ∃ loaded,
            includes.lookup entry.1 = some loaded ∧ loaded.Loads schema entry.2 := by
        intro relation member
        obtain ⟨loaded, isLoaded, sameTarget, sameCardinality, given⟩ := relations relation member
        have isName : loaded.name = relation.name := by simpa using List.find?_some isLoaded
        obtain ⟨included, isIncluded, _, innerTypes, sorted, atTable, read, queriedInner⟩ :=
          exists_include queried isLoaded
        rw [isName, sameTarget] at atTable
        rw [isName, sameCardinality] at read
        rw [isName] at queriedInner
        obtain ⟨partSorted, partRead, sortedAlike⟩ :=
          (readRelationArguments_agree given _ _).exists_ok read
        obtain ⟨partIncluded, partQueried, loadsIncluded⟩ :=
          inductionHypothesis relation member loaded isLoaded sortedAlike queriedInner
        exact ⟨(relation.name, partIncluded),
          ⟨rfl, innerTypes, partSorted, atTable, partRead, partQueried⟩, included, isIncluded,
          loadsIncluded⟩
      obtain ⟨partIncludes, partPairs⟩ := exists_results eachRelation
      refine ⟨_, toQuery_eq_ok.2 ⟨partFilter, orderBy, partIncludes, partFilters, partOrders,
        partPairs.imp fun _ _ both => both.1, rfl⟩, .query rfl ?_ ?_ ?_ ?_⟩
      · intro table _ known
        rw [Store.checkColumns_eq_ok] at known ⊢
        exact fun column member => known column (columns column member)
      · intro candidates
        rw [Store.selected, Store.selected]
        dsimp only
        rw [Store.accepts_eq alike, rearranged.offset_eq, rearranged.limit_eq]
      · intro entry member
        obtain ⟨_, _, _, loaded, isLoaded, _⟩ := exists_item partPairs entry member
        exact ⟨loaded, isLoaded⟩
      · intro entry member loaded isLoaded
        obtain ⟨_, _, _, other, isOther, loads⟩ := exists_item partPairs entry member
        rw [SelectQuery.include?, isOther] at isLoaded
        cases isLoaded
        exact loads

end Queries

/-! ## Layouts that are filled from shared rows

The rows of a query that loads as much as another one fill a layout just as the rows of that query
do, where the plan of that query shows the layout. -/

@[simp] theorem first?_nest (cardinality : Cardinality) (rows : List Row) :
    (Store.nest cardinality rows).first? = rows.head? := by
  cases cardinality <;> rfl

namespace Interface

variable {interface : Interface} {typeName table : String} {row other : Row}
variable {entries : List (OutputEntry ObjectOutput)} {filled result : JsonEntries}

/-- A row fills entries as another one does, if it fills each of them as the other one does. -/
theorem fillEntries_of_entries
    (same : ∀ entry ∈ entries, ∀ value, fillEntry interface typeName table entry row = .ok value ->
      fillEntry interface typeName table entry other = .ok value)
    (fills : fillEntries interface typeName table entries row filled = .ok result) :
    fillEntries interface typeName table entries other filled = .ok result := by
  induction entries generalizing filled with
  | nil =>
      rw [fillEntries] at fills ⊢
      exact fills
  | cons entry entries inductionHypothesis =>
      rw [List.forall_mem_cons] at same
      rw [fillEntries, bind_eq_ok] at fills ⊢
      obtain ⟨value, first, rest⟩ := fills
      exact ⟨value, same.1 value first, inductionHypothesis same.2 rest⟩

/-- A column that is returned for a stored row is filled with the same value from every row that
returns it. -/
theorem fillColumn_project
    {stored : StoredRow}
    {columns others : List String}
    {column : String}
    {value : Json}
    (fields : row.fields = Store.project columns stored)
    (otherFields : other.fields = Store.project others stored)
    (returned : column ∈ others)
    (fills : fillColumn interface table column row = .ok value) :
    fillColumn interface table column other = .ok value := by
  rw [fillColumn] at fills ⊢
  split at fills
  · cases fills
  · rw [Row.field?, fields] at fills
    rw [Row.field?, otherFields, Store.fieldValue?_project stored returned]
    split at fills
    · cases fills
    · rename_i found
      obtain ⟨_, isLoaded, isColumn⟩ := List.mem_map.1 (mem_of_fieldValue? found)
      cases isColumn
      rw [Store.fieldValue?_project stored isLoaded] at found
      cases found
      exact fills

/-- Rows that fill an object as paired rows do fill a relation as those rows do. -/
theorem fillEntry_nest
    {key name : String}
    {cardinality relationCardinality : Cardinality}
    {object : ObjectOutput}
    {rows otherRows : List Row}
    {value : Json}
    (found : row.relation? name = some (Store.nest relationCardinality rows))
    (otherFound : other.relation? name = some (Store.nest relationCardinality otherRows))
    (pairs : List.Forall₂ (fun row other => ∀ value, fillObject interface object row = .ok value ->
      fillObject interface object other = .ok value) rows otherRows)
    (fills : fillEntry interface typeName table (.relation key name cardinality object) row
      = .ok value) :
    fillEntry interface typeName table (.relation key name cardinality object) other
      = .ok value := by
  cases cardinality with
  | one =>
      rw [fillEntry, found, Option.bind_some, first?_nest] at fills
      rw [fillEntry, otherFound, Option.bind_some, first?_nest]
      cases pairs with
      | nil => exact fills
      | cons first _ => exact first value fills
  | many =>
      rw [fillEntry, found, Option.map_some, Option.getD_some, bind_eq_ok] at fills
      rw [fillEntry, otherFound, Option.map_some, Option.getD_some, bind_eq_ok]
      obtain ⟨items, made, isArray⟩ := fills
      refine ⟨items, mapM_eq_ok.2 ?_, isArray⟩
      have listed : List.Forall₂ (fun other row => ∀ value,
          fillObject interface object row = .ok value ->
            fillObject interface object other = .ok value)
          (Store.nest relationCardinality otherRows).toList
          (Store.nest relationCardinality rows).toList := by
        cases relationCardinality with
        | one =>
            cases pairs with
            | nil => exact .nil
            | cons first _ => exact .cons first .nil
        | many => exact pairs.flip
      exact forall₂_trans (fun _ _ row item same fillsItem => same item fillsItem) listed
        (mapM_eq_ok.1 made)

variable {types : TableTypes} {arguments : SelectArguments} {path : String}
variable {plan : SelectionPlan} {object : ObjectOutput} {schema : Schema} {store : Store}
variable {whole query : SelectQuery} {stored : StoredRow} {answer : Json}

/-- What a plan shows is filled from a row of its query as it is from the row that a query which
loads as much returns for the same stored row. -/
theorem fillObject_of_loads
    (shows : plan.Shows object)
    (queried : plan.toQuery interface types arguments path = .ok query)
    (loads : whole.Loads schema query)
    (returned : Store.Returns schema store whole stored row)
    (otherReturned : Store.Returns schema store query stored other)
    (fills : fillObject interface object row = .ok answer) :
    fillObject interface object other = .ok answer := by
  induction shows generalizing types arguments path whole query stored row other answer with
  | @object plan object columns relations inner inductionHypothesis =>
      obtain ⟨typeName, table, entries⟩ := object
      rw [fillObject, bind_eq_ok] at fills ⊢
      obtain ⟨filled, fillsEntries, isObject⟩ := fills
      refine ⟨filled, fillEntries_of_entries (fun entry member value fillsEntry => ?_) fillsEntries,
        isObject⟩
      obtain ⟨sameTable, _, _, includes, innerLoads⟩ := loads
      cases entry with
      | typename key =>
          rw [fillEntry] at fillsEntry ⊢
          exact fillsEntry
      | column key column =>
          rw [fillEntry] at fillsEntry ⊢
          have isColumn : column ∈ query.columns := by
            obtain ⟨_, _, _, _, _, _, rfl⟩ := toQuery_eq_ok.1 queried
            exact columns key column member
          exact fillColumn_project returned.1 otherReturned.1 isColumn fillsEntry
      | relation key name cardinality inner =>
          obtain ⟨relation, found⟩ := relations key name cardinality inner member
          obtain ⟨included, isIncluded, _, innerTypes, sorted, _, _, queriedInner⟩ :=
            exists_include queried found
          have isEntry := SelectQuery.mem_of_include? isIncluded
          obtain ⟨loaded, isLoaded⟩ := includes _ isEntry
          obtain ⟨_, isNested, joined, fromColumn, toColumn, rows, isJoined, selects, same⟩ :=
            Store.exists_followed returned.2 isLoaded
          obtain ⟨_, otherNested, _, _, _, otherRows, otherJoined, otherSelects, otherSame⟩ :=
            Store.exists_followed otherReturned.2 isIncluded
          rw [sameTable, isJoined] at otherJoined
          cases otherJoined
          cases same
          cases otherSame
          have loadsInner := innerLoads _ isEntry loaded isLoaded
          have rowPairs := Store.returns_of_loads loadsInner selects otherSelects
          refine fillEntry_nest isNested otherNested (rowPairs.imp ?_) fillsEntry
          rintro _ _ ⟨innerStored, returnedInner, otherReturnedInner⟩ answer
          exact inductionHypothesis key name cardinality inner member relation found queriedInner
            loadsInner returnedInner otherReturnedInner

end Interface

end RelationalApi
