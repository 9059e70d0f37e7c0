import RelationalApi.Proofs.Answer.RowNulls
import RelationalApi.Proofs.Request.ClientCalls
import RelationalApi.Proofs.Request.SafeSelects

/-!
# Nullability of answers

Types say of every value of an answer whether it may be null.  Whatever clients have done before, an
operation that answers rows breaks this only in the columns of rows: in columns that the storage
computes, which rows may leave out though they do not admit null, and for documents that are null
themselves.
-/

namespace RelationalApi

open Outcome

/-- The place of the answer of an operation. -/
def AnswerPlace.ofOperation (name : String) : AnswerPlace :=
  ⟨"", name, 0⟩

/-- The arguments of a mutation are sorted as such. -/
theorem OperationArguments.not_select
    {operation : Operation}
    {arguments : JsonEntries}
    {given : SelectArguments}
    (isMutation : operation.kind.isMutation = true) :
    OperationArguments.read operation arguments ≠ .ok (.select given) := by
  intro read
  rw [OperationArguments.read, check_bind_eq_ok] at read
  obtain ⟨_, read⟩ := read
  obtain ⟨kind, table⟩ := operation
  cases kind with
  | selectMany | selectOne => cases isMutation
  | insertMany | insertOne | update =>
      simp only [bind_eq_ok, pure_eq_ok] at read
      obtain ⟨_, _, _, _, impossible⟩ := read
      cases impossible
  | delete => cases read

namespace Interface

variable {interface : Interface} {schema : Schema} {config : EngineConfig} {now : Timestamp}
variable {store changed : Store} {name : String} {operation : Operation} {arguments : JsonEntries}
variable {selection : Selection} {answer : Json} {compiled : CompiledOperation}
variable {place found : AnswerPlace}

/-- An operation answers with rows: it is a select, or mutations return rows. -/
def AnswersRows (interface : Interface) (operation : Operation) : Prop :=
  operation.kind.isMutation = false ∨ interface.config.mutationResponse = .returning

/-- Whatever clients have done before, operations that succeed and answer with rows have nulls
against their declared types only at admitted places. -/
def NullsOnlyAt (interface : Interface) (admitted : AnswerPlace -> Prop) : Prop :=
  ∀ (calls : List (Timestamp × ClientCall)) (now : Timestamp) (name : String)
    (operation : Operation) (arguments : JsonEntries) (selection : Selection) (answer : Json)
    (changed : Store) (root : OutputField) (found : AnswerPlace),
    (∀ call ∈ calls, call.2.WellFormed) -> (Json.object arguments).isWellFormed = true ->
      interface.operation? name = some operation -> interface.AnswersRows operation ->
        interface.executeOn now name arguments selection (interface.afterCalls calls)
            = (.ok answer, changed) ->
          interface.registry.rootField? name = some root ->
            interface.registry.MisplacedNull (.ofOperation name) root.type selection answer found ->
              admitted found

/-- An operation that compiles is that of its name, and a mutation asks for a mutation. -/
theorem compile_operation
    (foundOperation : interface.operation? name = some operation)
    (compiles : interface.compile name arguments selection = .ok compiled) :
    compiled.operation = operation ∧
      (operation.kind.isMutation = true -> ∃ mutation, compiled.request = .mutate mutation) := by
  rw [compile, foundOperation] at compiles
  simp only [bind_eq_ok, pure_eq_ok, Prod.exists] at compiles
  obtain ⟨sorted, read, types, _, request, response, compiledArguments, rfl⟩ := compiles
  refine ⟨rfl, fun isMutation => ?_⟩
  cases sorted with
  | select given => exact absurd read (OperationArguments.not_select isMutation)
  | insert rows =>
      simp only [compileArguments, bind_eq_ok, pure_eq_ok, Prod.exists, Prod.mk.injEq]
        at compiledArguments
      obtain ⟨_, _, _, _, _, rfl, _⟩ := compiledArguments
      exact ⟨_, rfl⟩
  | update entries document =>
      simp only [compileArguments, bind_eq_ok, pure_eq_ok, Prod.exists, Prod.mk.injEq]
        at compiledArguments
      obtain ⟨_, _, _, _, _, _, _, rfl, _⟩ := compiledArguments
      exact ⟨_, rfl⟩
  | delete document =>
      simp only [compileArguments, bind_eq_ok, pure_eq_ok, Prod.exists, Prod.mk.injEq]
        at compiledArguments
      obtain ⟨_, _, _, _, _, rfl, _⟩ := compiledArguments
      exact ⟨_, rfl⟩

section Responses

variable {isOne : Prop} [Decidable isOne] {plan : SelectionPlan} {rows : List Row}

/-- The answer for rows is filled for them, in the form of the plan. -/
theorem filledFor_of_ofRows
    (answered : ResponsePlan.ofRows interface rows
      (if isOne then .single plan else .list plan) = .ok answer) :
    interface.FilledFor plan.output (· ∈ rows) (if isOne then .one else .many) answer := by
  split at answered
  · rename_i one
    rw [if_pos one]
    exact filledFor_of_fillFirst answered
  · rename_i many
    rw [if_neg many]
    exact filledFor_of_fillRows answered

theorem ofResult_eq_ofRows
    {result : MutationResult}
    (returned : result.rows = some rows) :
    ResponsePlan.ofResult interface name result (if isOne then .single plan else .list plan) =
      ResponsePlan.ofRows interface rows (if isOne then .single plan else .list plan) := by
  split <;> rw [ResponsePlan.ofResult, returned] <;> exact fun _ => ResponsePlan.noConfusion

end Responses

theorem type_rootFieldOf_select (isSelect : operation.kind.isMutation = false) :
    (rootFieldOf interface.config operation).type =
      Cardinality.answerType (interface.shapeTypeName (interface.topShape operation.table))
        (if operation.kind = .selectOne then .one else .many) := by
  obtain ⟨kind, table⟩ := operation
  cases kind with
  | selectMany | selectOne => rfl
  | _ => cases isSelect

theorem type_rootFieldOf_returning
    (isMutation : operation.kind.isMutation = true)
    (isReturning : interface.config.mutationResponse = .returning) :
    (rootFieldOf interface.config operation).type =
      Cardinality.answerType (itemTypeName operation.table)
        (if operation.kind = .insertOne then .one else .many) := by
  rw [rootFieldOf, isReturning]
  obtain ⟨kind, table⟩ := operation
  cases kind with
  | selectMany | selectOne => cases isMutation
  | _ => rfl

section Columns

variable (generated : generate schema config = .ok interface)
variable (reached : Store.Reached schema (Mutation.Read schema) store)
include generated reached

/-- The columns of every table hold the rows of a store that clients fill. -/
theorem holds_of_reached :
    ∀ types ∈ interface.tables, ∀ stored ∈ store.rows types.name, types.Holds stored := by
  intro types member stored storedMember
  obtain ⟨table, tableMember, mapped⟩ :=
    exists_item (mapM_eq_ok.1 (represents_of_generate generated).tables_eq) types member
  rw [TableTypes.name_ofTable mapped] at storedMember
  exact reached.holds tableMember mapped stored storedMember

/-- A select answers null against its type only where a column may show it. -/
theorem admitsNull_of_select
    (foundOperation : interface.operation? name = some operation)
    (isSelect : operation.kind.isMutation = false)
    (succeeded : interface.executeOn now name arguments selection store = (.ok answer, changed))
    (misplaced : interface.registry.MisplacedNull place
      (rootFieldOf interface.config operation).type selection answer found) :
    interface.AdmitsNull found := by
  have represents := represents_of_generate generated
  obtain ⟨compiled, compiles, ran⟩ := execute_eq_ok.1 succeeded
  obtain ⟨types, plan, query, asks⟩ := exists_asksFor generated foundOperation isSelect compiles
  obtain ⟨_, rows, selects, answered⟩ := (run_select asks.requested).1 ran
  rw [asks.response] at answered
  rw [type_rootFieldOf_select isSelect] at misplaced
  rw [represents.schema_eq] at selects
  obtain ⟨row, item, within, isRow, fills, misplacedInRow⟩ :=
    (filledFor_of_ofRows answered).exists_row misplaced
  have views := Store.views_of_selectFrom asks.declared (fun _ member => member) selects row isRow
  rw [asks.table_eq] at views
  refine admitsNull_of_fillObject generated (holds_of_reached generated reached) asks.laidOut ?_
    views fills misplacedInRow
  rintro _ ⟨⟩
  obtain ⟨table, isTable, _⟩ := represents.table?_eq_some.1 asks.laidOut.1
  rw [topShape, represents.config_eq, ← asks.isTable, ← Schema.name_of_table? isTable]
  exact Schema.topShape_mem_shapes (validate_of_generate generated) _ (Schema.mem_of_table? isTable)

/-- A mutation that returns rows answers null against its type only where a column may show it. -/
theorem admitsNull_of_mutation
    (foundOperation : interface.operation? name = some operation)
    (isMutation : operation.kind.isMutation = true)
    (isReturning : interface.config.mutationResponse = .returning)
    (wellFormed : (Json.object arguments).isWellFormed = true)
    (succeeded : interface.executeOn now name arguments selection store = (.ok answer, changed))
    (misplaced : interface.registry.MisplacedNull place
      (rootFieldOf interface.config operation).type selection answer found) :
    interface.AdmitsNull found := by
  have represents := represents_of_generate generated
  obtain ⟨compiled, compiles, ran⟩ := execute_eq_ok.1 succeeded
  obtain ⟨rfl, isMutate⟩ := compile_operation foundOperation compiles
  obtain ⟨mutation, requested⟩ := isMutate isMutation
  obtain ⟨result, mutated, answered⟩ := (run_mutate requested).1 ran
  obtain ⟨types, foundTypes, sameName, _, answers⟩ := compile_mutate compiles requested
  rw [represents.schema_eq] at mutated
  have reachedAfter : Store.Reached schema (Mutation.Read schema) changed :=
    .mutate reached (represents.read_of_compile wellFormed compiles requested) mutated
  obtain ⟨table, affected, named, rfl, stood⟩ := Store.answer_of_mutate mutated
  rw [sameName] at named
  rw [type_rootFieldOf_returning isMutation isReturning] at misplaced
  generalize isResponse : compiled.response = response at answers answered
  generalize isReturned : mutation.returning = returned at answers answered
  cases answers with
  | success configured =>
      rw [isReturning] at configured
      cases configured
  | @returning plan _ _ pruned form =>
      rw [form, ofResult_eq_ofRows rfl] at answered
      obtain ⟨row, item, within, isRow, fills, misplacedInRow⟩ :=
        (filledFor_of_ofRows answered).exists_row misplaced
      obtain ⟨stored, isAffected, rfl⟩ := List.mem_map.1 isRow
      obtain ⟨rowTypes, isTable, laidOut⟩ := laysOutRows_of_pruneItem pruned
      have foundRows := laidOut.1
      rw [isTable, foundTypes] at foundRows
      cases foundRows
      rw [Schema.name_of_table? named] at stood
      have isStored : stored ∈ store.rows types.name ∨ stored ∈ changed.rows types.name :=
        stood stored isAffected
      have holds : ∀ types ∈ interface.tables, ∀ stored,
          (stored ∈ store.rows types.name ∨ stored ∈ changed.rows types.name) ->
            types.Holds stored := by
        rintro types member stored (before | after)
        · exact holds_of_reached generated reached types member stored before
        · exact holds_of_reached generated reachedAfter types member stored after
      rw [← isTable] at misplacedInRow
      exact @admitsNull_of_fillObject _ _ _ types none _ _ _ _ _ _
        (fun table stored => stored ∈ store.rows table ∨ stored ∈ changed.rows table) generated
        holds laidOut (fun _ isShape => nomatch isShape)
        (Row.views_project isStored plan.columns) fills misplacedInRow

end Columns

/-- Operations that answer with rows have nulls against their declared types only in columns which
the storage computes, and for documents. -/
theorem nulls_only_in_columns (generated : generate schema config = .ok interface) :
    interface.NullsOnlyAt interface.AdmitsNull := by
  intro calls now name operation arguments selection answer changed root found callsWellFormed
    wellFormed foundOperation answersRows succeeded isRoot misplaced
  have reached := (represents_of_generate generated).reached_afterCalls callsWellFormed
  rw [rootField?_eq generated foundOperation] at isRoot
  cases isRoot
  cases isMutation : operation.kind.isMutation with
  | false =>
      exact admitsNull_of_select generated reached foundOperation isMutation succeeded misplaced
  | true =>
      refine admitsNull_of_mutation generated reached foundOperation isMutation ?_ wellFormed
        succeeded misplaced
      refine answersRows.resolve_left ?_
      rw [isMutation]
      exact Bool.noConfusion

theorem NullsOnlyAt.mono
    {admitted more : AnswerPlace -> Prop}
    (only : interface.NullsOnlyAt admitted)
    (admitsMore : ∀ place, admitted place -> more place) :
    interface.NullsOnlyAt more := by
  intro calls now name operation arguments selection answer changed root found callsWellFormed
    wellFormed foundOperation answersRows succeeded isRoot misplaced
  exact admitsMore found (only calls now name operation arguments selection answer changed root
    found callsWellFormed wellFormed foundOperation answersRows succeeded isRoot misplaced)

/-- Without documents only computed columns may show null against their types. -/
theorem AdmitsNull.isGenerated
    (admits : interface.AdmitsNull place)
    (noDocuments : ∀ types ∈ interface.tables, ∀ codec ∈ types.columns,
      codec.codec.innermost ≠ .json) :
    ∃ types ∈ interface.tables, ∃ column ∈ types.table.columns,
      column.name = place.field ∧ column.generated = true ∧ place.lists = 0 := by
  obtain ⟨types, member, _, column, codec, _, _, foundColumn, foundCodec, shows⟩ := admits
  have notDocument := noDocuments types member codec (List.mem_of_find?_eq_some foundCodec)
  refine ⟨types, member, column, Table.mem_of_column? foundColumn,
    Table.name_of_column? foundColumn, ?_⟩
  generalize place.lists = depth at shows
  cases shows with
  | generated _ isGenerated => exact ⟨isGenerated, rfl⟩
  | item isDocument _ => exact absurd isDocument notDocument
  | default isDocument _ _ =>
      rw [isDocument] at notDocument
      exact absurd rfl notDocument

/-- Articles, the slug of which is computed from their title. -/
def articles : Schema :=
  Schema.empty.withTable
    { name := "articles"
      columns :=
        [ { name := "id", kind := .integer 32 false, primaryKey := true },
          { name := "title", kind := .text none, nullable := true },
          { name := "slug", kind := .text none, generated := true } ] }

theorem nulls_only_in_columns_articles :
    ∃ interface, generate articles {} = .ok interface ∧
      interface.NullsOnlyAt fun place => place.field = "slug" ∧ place.lists = 0 := by
  have checks : ((generate articles {}).toOption.map fun interface =>
      interface.tables.all fun types =>
        types.columns.all (fun codec => codec.codec.innermost != .json) &&
          types.table.columns.all fun column => !column.generated || column.name == "slug") =
      some true := by
    decide +kernel
  obtain ⟨interface, generated, checked⟩ := Option.map_eq_some_iff.1 checks
  rw [toOption_eq_some] at generated
  simp only [List.all_eq_true, Bool.and_eq_true, Bool.or_eq_true, Bool.not_eq_true', bne_iff_ne,
    beq_iff_eq] at checked
  refine ⟨interface, generated, (nulls_only_in_columns generated).mono fun place admits => ?_⟩
  obtain ⟨types, member, column, isColumn, sameName, isGenerated, noLists⟩ :=
    admits.isGenerated fun types member => (checked types member).1
  have isSlug := ((checked types member).2 column isColumn).resolve_left
    (by rw [isGenerated]; exact Bool.noConfusion)
  exact ⟨sameName.symm.trans isSlug, noLists⟩

/-- An inserted article has no slug, though the type of slugs does not admit null. -/
theorem not_nullsNowhere_articles :
    ∃ interface, generate articles {} = .ok interface ∧
      ¬interface.NullsOnlyAt fun _ => False := by
  let values : JsonEntries := [("values", .object [("id", .int 1)])]
  let selection : Selection := [{ name := "id" }, { name := "slug" }]
  have checks : ((generate articles {}).toOption.map fun interface =>
      (interface.operation? "insertIntoArticlesSingle",
        interface.config.mutationResponse,
        (interface.registry.rootField? "insertIntoArticlesSingle").map (·.type),
        (interface.registry.field? "ArticlesItem" "slug").map (·.type),
        (interface.executeOn default "insertIntoArticlesSingle" values selection
          Store.empty).1.toOption.bind fun answer => (answer.get? "slug").map Json.isNull)) =
      some (some ⟨.insertOne, "articles"⟩, .returning, some (.named "ArticlesItem"),
        some (.nonNull (.named "String")), some true) := by
    decide +kernel
  obtain ⟨interface, generated, checked⟩ := Option.map_eq_some_iff.1 checks
  rw [toOption_eq_some] at generated
  simp only [Prod.mk.injEq] at checked
  obtain ⟨foundOperation, isReturning, isRoot, isSlug, answersNull⟩ := checked
  refine ⟨interface, generated, fun nullsNowhere => ?_⟩
  obtain ⟨root, foundRoot, rootType⟩ := Option.map_eq_some_iff.1 isRoot
  obtain ⟨definition, foundSlug, slugType⟩ := Option.map_eq_some_iff.1 isSlug
  obtain ⟨answer, answered, answersNull⟩ := Option.bind_eq_some_iff.1 answersNull
  obtain ⟨value, isValue, isNull⟩ := Option.map_eq_some_iff.1 answersNull
  obtain ⟨entries, isObject, isValue⟩ := Option.bind_eq_some_iff.1 isValue
  have isAnswer : answer = .object entries := by
    cases answer <;> cases isObject
    rfl
  have shown : value = .null := by
    cases value <;> first | rfl | cases isNull
  rw [toOption_eq_some, isAnswer] at answered
  subst shown
  refine nullsNowhere [] default "insertIntoArticlesSingle" _ values selection _ _ root
    ⟨"ArticlesItem", "slug", 0⟩ (by simp) (by decide +kernel) foundOperation (.inr isReturning)
    (Prod.ext answered rfl) foundRoot ?_
  rw [rootType]
  refine @TypeRegistry.MisplacedNull.entry _ _ _ _ "slug" _ { name := "slug" } definition _ _
    isValue rfl foundSlug ?_
  rw [slugType]
  exact .here

end Interface
end RelationalApi
