import RelationalApi.Proofs.Request.RepeatedFields
import RelationalApi.Proofs.Request.SharedQueries

/-!
# Independence of sibling fields

The fields of a selection share one query, which loads what any of them asks for.  Still each of
them is answered as if it were selected alone, provided that fields of one relation whose arguments
are equal also have the same arguments.  Documents are equal that differ in the sign of a zero, but
a decimal column tells them apart.
-/

namespace RelationalApi

open Outcome

namespace SelectQuery

variable {schema : Schema} {whole part : SelectQuery}

/-- A query that loads as much as another one loads as much as the query with the identity column
that a plan without columns loads. -/
theorem Loads.withIdentity
    {plan : SelectionPlan}
    {identity : String}
    (loads : whole.Loads schema part)
    (sameColumns : part.columns = plan.columns)
    (isColumn : ∀ table, schema.table? whole.table = some table -> identity ∈ table.columnNames) :
    whole.Loads schema { part with columns := (plan.withIdentity identity).columns } := by
  obtain ⟨sameTable, known, selects, includes, inner⟩ := loads
  refine .query sameTable (fun table isTable checked => ?_) selects includes inner
  rw [SelectionPlan.withIdentity]
  split
  · rw [Store.checkColumns_eq_ok]
    exact List.forall_mem_singleton.2 (isColumn table isTable)
  · rw [← sameColumns]
    exact known table isTable checked

end SelectQuery

namespace Interface

variable {interface : Interface} {schema storage : Schema} {config : EngineConfig}
variable {now : Timestamp} {store changed : Store} {types : TableTypes}
variable {name : String} {operation : Operation} {arguments : JsonEntries} {selection : Selection}
variable {compiled : CompiledOperation} {answer : Json} {row : Row}

theorem compile_selectMany_eq_ok
    (found : interface.operation? name = some operation)
    (isMany : operation.kind = .selectMany) :
    interface.compile name arguments selection = .ok compiled ↔
      ∃ given types plan query,
        OperationArguments.read operation arguments = .ok (.select given) ∧
          interface.table? operation.table = some types ∧
          interface.prune (interface.topShape operation.table) operation.name selection
            = .ok plan ∧
          plan.toQuery interface types given "" = .ok query ∧
          ⟨operation, .select query, .list plan⟩ = compiled := by
  have isSelect : operation.kind.isMutation = false := by
    rw [isMany]
    rfl
  have notOne : operation.kind ≠ .selectOne := by simp [isMany]
  simp only [compile_select_eq_ok found isSelect, notOne, if_false]

/-- A select of many rows succeeds where its arguments are sorted, its selection is pruned and its
plan is queried, and the rows of its query fill its layout. -/
theorem execute_selectMany_eq_ok
    (found : interface.operation? name = some operation)
    (isMany : operation.kind = .selectMany) :
    interface.execute (Store.executor storage now) name arguments selection store
        = (.ok answer, changed) ↔
      store = changed ∧ ∃ given types plan query rows items,
        OperationArguments.read operation arguments = .ok (.select given) ∧
          interface.table? operation.table = some types ∧
          interface.prune (interface.topShape operation.table) operation.name selection
            = .ok plan ∧
          plan.toQuery interface types given "" = .ok query ∧
          store.select storage query = .ok rows ∧
          rows.mapM (fillObject interface plan.output) = .ok items ∧
          .array items = answer := by
  simp only [execute_eq_ok, compile_selectMany_eq_ok found isMany]
  constructor
  · rintro ⟨_, ⟨given, types, plan, query, read, isTable, pruned, queried, rfl⟩, ran⟩
    obtain ⟨kept, rows, selects, answered⟩ := (run_select rfl).1 ran
    rw [ResponsePlan.ofRows, fillRows, bind_eq_ok] at answered
    obtain ⟨items, fills, same⟩ := answered
    exact ⟨kept, given, types, plan, query, rows, items, read, isTable, pruned, queried, selects,
      fills, pure_eq_ok.1 same⟩
  · rintro ⟨kept, given, types, plan, query, rows, items, read, isTable, pruned, queried, selects,
      fills, same⟩
    refine ⟨_, ⟨given, types, plan, query, read, isTable, pruned, queried, rfl⟩,
      (run_select rfl).2 ⟨kept, rows, selects, ?_⟩⟩
    rw [ResponsePlan.ofRows, fillRows, bind_eq_ok]
    exact ⟨items, fills, pure_eq_ok.2 same⟩

section Entries

variable {typeName table key : String} {entries : List (OutputEntry ObjectOutput)}
variable {filled result : JsonEntries}

/-- Entries of other keys leave what is filled under a key. -/
theorem lookup_fillEntries_of_ne
    (others : ∀ entry ∈ entries, entry.key ≠ key)
    (fills : fillEntries interface typeName table entries row filled = .ok result) :
    result.lookup key = filled.lookup key := by
  induction entries generalizing filled with
  | nil =>
      rw [fillEntries] at fills
      cases fills
      rfl
  | cons entry entries inductionHypothesis =>
      rw [List.forall_mem_cons] at others
      rw [fillEntries, bind_eq_ok] at fills
      obtain ⟨value, _, rest⟩ := fills
      rw [inductionHypothesis others.2 rest, JsonEntries.lookup_set, if_neg (Ne.symm others.1)]

/-- Under distinct keys, each entry gives its key its own value. -/
theorem lookup_fillEntries_of_mem
    (distinct : (entries.map (·.key)).Nodup)
    {entry : OutputEntry ObjectOutput}
    (member : entry ∈ entries)
    (fills : fillEntries interface typeName table entries row filled = .ok result) :
    ∃ value, fillEntry interface typeName table entry row = .ok value ∧
      result.lookup entry.key = some value := by
  induction entries generalizing filled with
  | nil => cases member
  | cons first entries inductionHypothesis =>
      rw [List.map_cons, List.nodup_cons] at distinct
      rw [fillEntries, bind_eq_ok] at fills
      obtain ⟨value, fillsFirst, rest⟩ := fills
      rcases List.mem_cons.1 member with rfl | later
      · refine ⟨value, fillsFirst, ?_⟩
        have others : ∀ other ∈ entries, other.key ≠ entry.key := fun other isOther same =>
          distinct.1 (List.mem_map.2 ⟨other, isOther, same⟩)
        rw [lookup_fillEntries_of_ne others rest, JsonEntries.lookup_set, if_pos rfl]
      · exact inductionHypothesis distinct.2 later rest

end Entries

/-- The plan for one field is what the field asks for alone. -/
theorem PrunesAlone.prune_eq
    {shape : Shape}
    {path : String}
    {field : SelectedField}
    {alone : SelectionPlan}
    {entry : OutputEntry ObjectOutput}
    (prunes : interface.PrunesAlone types shape path (interface.shapeTypeName shape) types.name
      field alone entry)
    (found : interface.table? shape.table = some types) :
    interface.prune shape path [field] = .ok (alone.withIdentity types.identity) := by
  rw [prune, typesAt_eq_ok.2 found]
  simp only [bind_eq_ok, pure_eq_ok, pruneFields]
  exact ⟨types, rfl, alone, ⟨alone, prunes.1, rfl⟩, rfl⟩

theorem exists_toQuery_withIdentity
    {plan : SelectionPlan}
    {given : SelectArguments}
    {path : String}
    {query : SelectQuery}
    (queried : plan.toQuery interface types given path = .ok query)
    (identity : String) :
    query.columns = plan.columns ∧
      (plan.withIdentity identity).toQuery interface types given path
        = .ok { query with columns := (plan.withIdentity identity).columns } := by
  obtain ⟨filter, orderBy, includes, filters, orders, pairs, rfl⟩ := toQuery_eq_ok.1 queried
  have sameRelations : (plan.withIdentity identity).relations = plan.relations := by
    rw [SelectionPlan.withIdentity]
    split <;> rfl
  exact ⟨rfl, toQuery_eq_ok.2
    ⟨filter, orderBy, includes, filters, orders, sameRelations ▸ pairs, rfl⟩⟩

/-- The plan that a field alone asks for shows its layout. -/
theorem PrunesAlone.shows
    {shape : Shape}
    {path typeName table : String}
    {field : SelectedField}
    {alone : SelectionPlan}
    {entry : OutputEntry ObjectOutput}
    (prunes : interface.PrunesAlone types shape path typeName table field alone entry)
    (relates : selection.RelatesArguments ArgumentsRearranged)
    (isField : field ∈ selection) :
    alone.Shows alone.output := by
  rw [SelectionPlan.shows_iff, prunes.2]
  refine List.forall_mem_singleton.2 (prunes.showsEntry fun _ _ _ _ _ _ prunedInner => ?_)
  refine shows_of_pruneFields (relates.below field.name) (fun inner isInner => ?_)
    (madeFrom_empty _ _) ?_ prunedInner
  · exact Selection.mem_fieldsBelow.2 ⟨field, isField, rfl, isInner⟩
  · exact SelectionPlan.shows_iff.2 (by simp [SelectionPlan.empty])

/-- An answered object shows under the key of a field what the field alone is answered with. -/
def ShowsAlone (field : SelectedField) (item alone : Json) : Prop :=
  ∃ value, item.get? field.key = some value ∧ alone = .object [(field.key, value)]

/-- The layout of a field alone is filled from a row with what the layout of the whole selection
shows under its key. -/
theorem exists_alone_of_fillObject
    {typeName table : String}
    {entries : List (OutputEntry ObjectOutput)}
    {field : SelectedField}
    {entry : OutputEntry ObjectOutput}
    {item : Json}
    (distinct : (entries.map (·.key)).Nodup)
    (member : entry ∈ entries)
    (sameKey : entry.key = field.key)
    (fills : fillObject interface ⟨typeName, some table, entries⟩ row = .ok item) :
    ∃ alone, ShowsAlone field item alone ∧
      fillObject interface ⟨typeName, some table, [entry]⟩ row = .ok alone := by
  obtain ⟨filled, rfl, fillsEntries⟩ := exists_entries_of_fillObject fills
  obtain ⟨value, fillsEntry, shown⟩ := lookup_fillEntries_of_mem distinct member fillsEntries
  refine ⟨.object [(field.key, value)], ⟨value, sameKey ▸ shown, rfl⟩, ?_⟩
  rw [fillObject]
  simp only [fillEntries, bind_eq_ok, pure_eq_ok]
  exact ⟨_, ⟨value, fillsEntry, rfl⟩, by rw [JsonEntries.set_nil, sameKey]⟩

/-- Every field of a select of many rows that succeeds with distinct response keys is answered as if
it were selected alone. -/
def KeepsSiblingsApart (interface : Interface) (schema : Schema) : Prop :=
  ∀ (now : Timestamp) (name : String) (operation : Operation) (arguments : JsonEntries)
    (selection : Selection) (store changed : Store) (answer : Json),
    interface.operation? name = some operation -> operation.kind = .selectMany ->
      (selection.map (·.key)).Nodup ->
        interface.execute (Store.executor schema now) name arguments selection store
            = (.ok answer, changed) ->
          ∃ items, answer = .array items ∧ ∀ field ∈ selection, ∃ answers,
            interface.execute (Store.executor schema now) name arguments [field] store
                = (.ok (.array answers), store) ∧
              List.Forall₂ (ShowsAlone field) items answers

/-- Each field of a select of many rows is answered as if it were selected alone.  If the select
succeeds, its response keys are distinct, and fields of one relation on one path have the same
arguments where their arguments are equal, then the select of any one of its fields succeeds as
well, with a row for each row of the whole answer, and shows under the key of the field what the
whole answer shows there. -/
theorem siblings_are_independent
    (generated : generate schema config = .ok interface)
    (found : interface.operation? name = some operation)
    (isMany : operation.kind = .selectMany)
    (relates : selection.RelatesArguments ArgumentsRearranged)
    (distinct : (selection.map (·.key)).Nodup)
    (succeeded : interface.execute (Store.executor schema now) name arguments selection store
      = (.ok answer, changed)) :
    ∃ items, answer = .array items ∧ ∀ field ∈ selection, ∃ answers,
      interface.execute (Store.executor schema now) name arguments [field] store
          = (.ok (.array answers), store) ∧
        List.Forall₂ (ShowsAlone field) items answers := by
  have represents := represents_of_generate generated
  obtain ⟨rfl, given, types, plan, query, rows, items, read, isTable, pruned, queried, selects,
    fills, rfl⟩ := (execute_selectMany_eq_ok found isMany).1 succeeded
  refine ⟨items, rfl, fun field isField => ?_⟩
  simp only [prune, bind_eq_ok, pure_eq_ok, typesAt_eq_ok] at pruned
  obtain ⟨_, isTableAgain, inner, prunedFields, rfl⟩ := pruned
  rw [topShape, isTable] at isTableAgain
  cases isTableAgain
  obtain ⟨_, entries, laidOut, pairs⟩ := loads_of_pruneFields relates (fun _ member => member)
    (madeFrom_empty _ _) prunedFields
    (interface.shapeTypeName (interface.topShape operation.table)) types.name
  have layout : inner.output = ⟨interface.shapeTypeName (interface.topShape operation.table),
      some types.name, entries⟩ := laidOut
  obtain ⟨entry, isEntry, alone, prunes, loadsAlone⟩ := exists_result pairs field isField
  -- The query of the field alone selects the same rows as the query of all fields.
  obtain ⟨part, queriedPart, loadsPart⟩ := exists_toQuery_of_loads
    (loadsAlone.withIdentity types.identity) ⟨rfl, rfl, .same _, .same _⟩ queried schema
  obtain ⟨sameColumns, queriedAlone⟩ := exists_toQuery_withIdentity queriedPart types.identity
  have isNamed : query.table = operation.table := by
    obtain ⟨_, _, _, _, _, _, rfl⟩ := toQuery_eq_ok.1 queried
    exact name_of_table? isTable
  have loadsQuery := loadsPart.withIdentity sameColumns fun table isStored =>
    represents.identity_mem isTable (isNamed ▸ isStored)
  obtain ⟨aloneRows, selectsAlone, rowPairs⟩ := Store.exists_select_of_loads loadsQuery selects
  have entriesFor : List.Forall₂ interface.EntryFor selection entries := by
    refine pairs.imp ?_
    rintro _ _ ⟨_, prunes, _⟩
    exact prunes.entryFor
  have keys := map_key_entries entriesFor
  have fillsAlone : List.Forall₂ (fun item aloneRow => ∃ alone', ShowsAlone field item alone' ∧
      fillObject interface alone.output aloneRow = .ok alone') items aloneRows := by
    refine forall₂_trans ?_ (mapM_eq_ok.1 fills).flip rowPairs
    rintro item _ row aloneRow fillsItem ⟨stored, returned, aloneReturned⟩
    rw [output_withIdentity, layout] at fillsItem
    obtain ⟨value, shows, fillsWhole⟩ := exists_alone_of_fillObject (keys ▸ distinct) isEntry
      prunes.entryFor.key_eq fillsItem
    refine ⟨value, shows, ?_⟩
    rw [← prunes.2] at fillsWhole
    exact fillObject_of_loads (SelectionPlan.shows_withIdentity (prunes.shows relates isField) _)
      queriedAlone loadsQuery returned aloneReturned fillsWhole
  obtain ⟨answers, shown, filled⟩ := exists_between fillsAlone
  refine ⟨answers, (execute_selectMany_eq_ok found isMany).2 ⟨rfl, given, types, _, _, aloneRows,
    answers, read, isTable, prunes.prune_eq isTable, queriedAlone, selectsAlone, ?_, rfl⟩, shown⟩
  rw [output_withIdentity]
  exact mapM_eq_ok.2 filled.flip

/-- Users and the goods that they offer. -/
def market : Schema :=
  ((Schema.empty.withTable
    { name := "users"
      columns := [{ name := "id", kind := .integer 32 false, primaryKey := true }] }).withTable
    { name := "offers"
      columns :=
        [ { name := "id", kind := .integer 32 false, primaryKey := true },
          { name := "user_id", kind := .integer 32 false },
          { name := "price", kind := .decimal none none } ] }).withRelation
    { name := "offers", source := "users", target := "offers", cardinality := .many
      fromColumn := some "id", toColumn := some "user_id" }

/-- One user who offers one thing for nothing. -/
def freeOffer : Store :=
  ⟨[("users", [[⟨"id", .int 1⟩]]),
    ("offers", [[⟨"id", .int 10⟩, ⟨"user_id", .int 1⟩, ⟨"price", .string "0.0"⟩]])]⟩

/-- The offers of users at a price, under a response key of their own. -/
def offersAt (key : String) (price : Float) (columns : List String) : SelectedField where
  name := "offers"
  label := some key
  arguments := [("where", .object [("price", .object [("eq", .number (.float price))])])]
  selection := columns.map fun column => { name := column }

def selectOffers (interface : Interface) (selection : Selection) : Except EngineError Json :=
  (interface.execute (Store.executor market default) "users" [] selection freeOffer).1

/-- How many offers an answer shows under a key. -/
def offerCount (key : String) (answer : Json) : Nat :=
  (answer.objectsAt [key]).length

theorem selectOffers_market :
    ∃ interface, generate market {} = .ok interface ∧
      interface.operation? "users" = some ⟨.selectMany, "users"⟩ ∧
      (∃ answer, interface.selectOffers [offersAt "ids" 0 ["id"], offersAt "prices" 0 ["price"]]
          = .ok answer ∧ offerCount "prices" answer = 1) ∧
      (∃ answer, interface.selectOffers [offersAt "free" 0 ["id"], offersAt "owed" (-0) ["id"]]
          = .ok answer ∧ offerCount "owed" answer = 1) ∧
      ∃ answer, interface.selectOffers [offersAt "owed" (-0) ["id"]] = .ok answer ∧
        offerCount "owed" answer = 0 := by
  have runs : ((generate market {}).toOption.map fun interface =>
      (interface.operation? "users",
        [("prices", [offersAt "ids" 0 ["id"], offersAt "prices" 0 ["price"]]),
          ("owed", [offersAt "free" 0 ["id"], offersAt "owed" (-0) ["id"]]),
          ("owed", [offersAt "owed" (-0) ["id"]])].map fun (key, selection) =>
          (interface.selectOffers selection).toOption.map (offerCount key))) =
      some (some ⟨.selectMany, "users"⟩, [some 1, some 1, some 0]) := by
    decide +kernel
  obtain ⟨interface, generated, made⟩ := Option.map_eq_some_iff.1 runs
  rw [toOption_eq_some] at generated
  simp only [Prod.mk.injEq, List.map_cons, List.map_nil, List.cons.injEq, and_true,
    Option.map_eq_some_iff, toOption_eq_some] at made
  exact ⟨interface, generated, made⟩

/-- Two fields of the same offers have the same arguments, and nothing is selected below them with
arguments. -/
theorem relates_offers :
    Selection.RelatesArguments ArgumentsRearranged
      [offersAt "ids" 0 ["id"], offersAt "prices" 0 ["price"]] := by
  refine Selection.relatesArguments_iff.2 ⟨?_, fun name => ?_⟩
  · intro field isField other isOther _ _
    simp only [List.mem_cons, List.not_mem_nil, or_false] at isField isOther
    rcases isField with rfl | rfl <;> rcases isOther with rfl | rfl <;> exact Json.Rearranged.same _
  · refine Selection.relatesArguments_leaves fun inner member => ?_
    obtain ⟨field, isField, _, isInner⟩ := Selection.mem_fieldsBelow.1 member
    simp only [List.mem_cons, List.not_mem_nil, or_false] at isField
    rcases isField with rfl | rfl
    · rw [List.mem_singleton.1 isInner]
      exact ⟨rfl, rfl⟩
    · rw [List.mem_singleton.1 isInner]
      exact ⟨rfl, rfl⟩

theorem siblings_are_independent_market :
    ∃ interface items, generate market {} = .ok interface ∧
      interface.selectOffers [offersAt "ids" 0 ["id"], offersAt "prices" 0 ["price"]]
          = .ok (.array items) ∧
      ∃ answers,
        interface.selectOffers [offersAt "prices" 0 ["price"]] = .ok (.array answers) ∧
          List.Forall₂ (ShowsAlone (offersAt "prices" 0 ["price"])) items answers := by
  obtain ⟨interface, generated, found, ⟨answer, answered, _⟩, _⟩ := selectOffers_market
  obtain ⟨items, rfl, alone⟩ := siblings_are_independent generated found rfl relates_offers
    (by decide) (Prod.ext answered rfl)
  obtain ⟨answers, answeredAlone, shown⟩ := alone (offersAt "prices" 0 ["price"]) (by simp)
  exact ⟨interface, items, generated, answered, answers, congrArg Prod.fst answeredAlone, shown⟩

theorem offerCount_showsAlone
    {field : SelectedField}
    {items answers : List Json}
    (shown : List.Forall₂ (ShowsAlone field) items answers) :
    offerCount field.key (.array items) = offerCount field.key (.array answers) := by
  have objects : ∀ documents : List Json, Json.objectsAt [field.key] (.array documents) =
      documents.flatMap fun document =>
        ((document.get? field.key).map (Json.objectsAt [])).getD [] := fun _ => rfl
  rw [offerCount, offerCount, objects, objects]
  induction shown with
  | nil => rfl
  | cons first _ inductionHypothesis =>
      obtain ⟨value, isValue, rfl⟩ := first
      have isAlone : (Json.object [(field.key, value)]).get? field.key = some value := by
        simp [Json.get?, Json.object?]
      rw [List.flatMap_cons, List.flatMap_cons, List.length_append, List.length_append,
        inductionHypothesis, isValue, isAlone]

/-- Zero and negative zero are equal arguments, so the fields share the offers at the price of the
first one.  The price of the second one is another decimal, at which nothing is offered. -/
theorem not_keepsSiblingsApart_market :
    ∃ interface whole alone, generate market {} = .ok interface ∧
      interface.selectOffers [offersAt "free" 0 ["id"], offersAt "owed" (-0) ["id"]] = .ok whole ∧
      interface.selectOffers [offersAt "owed" (-0) ["id"]] = .ok alone ∧
      offerCount "owed" whole = 1 ∧ offerCount "owed" alone = 0 ∧
      ¬interface.KeepsSiblingsApart market := by
  obtain ⟨interface, generated, found, _, ⟨whole, answered, one⟩, alone, answeredAlone, none⟩ :=
    selectOffers_market
  refine ⟨interface, whole, alone, generated, answered, answeredAlone, one, none, ?_⟩
  intro keepsApart
  obtain ⟨items, rfl, each⟩ := keepsApart default "users" _ [] _ freeOffer _ whole found rfl
    (by decide) (Prod.ext answered rfl)
  obtain ⟨answers, answeredAgain, shown⟩ := each (offersAt "owed" (-0) ["id"]) (by simp)
  have sameAnswer : alone = .array answers := by
    have same := congrArg Prod.fst answeredAgain
    exact Except.ok.inj (answeredAlone.symm.trans same)
  subst sameAnswer
  have sameCount := offerCount_showsAlone shown
  change offerCount "owed" _ = offerCount "owed" _ at sameCount
  rw [one, none] at sameCount
  exact absurd sameCount (by decide)

end Interface
end RelationalApi
