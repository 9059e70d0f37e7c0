import RelationalApi.Proofs.Interface.Paths
import RelationalApi.Proofs.Selection.AddedNulls
import RelationalApi.Request.Execution

/-!
# Requests with added nulls

A null under a declared key means the same as no entry: among the arguments of an operation and of
the relations it selects, and inside filters and orders at any depth.  The request to the executor
stays the same, whatever nulls are added, as long as the arguments of relations that are selected
more than once at one place stay equal.
-/

namespace RelationalApi

open Outcome

/-- The arguments of two operations on a table compile alike. -/
inductive OperationArguments.CompileAlike (columns : List ColumnCodec) :
    OperationArguments -> OperationArguments -> Prop
  | select
      {arguments others : SelectArguments}
      (given : arguments.CompileAlike columns others) :
      OperationArguments.CompileAlike columns (.select arguments) (.select others)
  | insert (rows : List JsonEntries) :
      OperationArguments.CompileAlike columns (.insert rows) (.insert rows)
  | update
      (assignments : JsonEntries)
      {filter other : Json}
      (filters : ∀ path, compileWhere columns path filter = compileWhere columns path other) :
      OperationArguments.CompileAlike columns (.update assignments filter)
        (.update assignments other)
  | delete
      {filter other : Json}
      (filters : ∀ path, compileWhere columns path filter = compileWhere columns path other) :
      OperationArguments.CompileAlike columns (.delete filter) (.delete other)

/-- The arguments of an operation are read alike with added nulls. -/
theorem OperationArguments.read_addNull
    {operation : Operation}
    {columns : List ColumnCodec}
    {arguments others : JsonEntries}
    (adds : ArgumentsAddNull operation.kind.argumentNames columns arguments others) :
    EndAlike (CompileAlike columns) (OperationArguments.read operation arguments)
      (OperationArguments.read operation others) := by
  have filters := fun path => (compileWhere_given adds path).symm
  have selects := SelectArguments.read_addNull adds operation.name
  have required : ∀ name ∈ ["values", "set"],
      requireArgument operation.name others name =
        requireArgument operation.name arguments name := by
    intro name member
    simp only [List.mem_cons, List.not_mem_nil, or_false] at member
    rcases member with rfl | rfl <;>
      exact requireArgument_addNull adds _ (by decide) (by decide)
  rw [OperationArguments.read, OperationArguments.read, checkArguments_addNull adds]
  refine EndAlike.after _ fun _ => ?_
  obtain ⟨kind, table⟩ := operation
  cases kind with
  | selectMany => exact selects.bind fun _ _ _ _ given => .ok (.select given)
  | selectOne => exact selects.bind fun _ _ _ _ given => .ok (.select given)
  | insertMany =>
      dsimp only
      rw [required "values" (by simp)]
      exact EndAlike.after _ fun _ => EndAlike.after _ fun rows => .ok (.insert rows)
  | insertOne =>
      dsimp only
      rw [required "values" (by simp)]
      exact EndAlike.after _ fun _ => EndAlike.after _ fun row => .ok (.insert [row])
  | update =>
      dsimp only
      rw [required "set" (by simp)]
      exact EndAlike.after _ fun _ => EndAlike.after _ fun entries => .ok (.update entries filters)
  | delete => exact .ok (.delete filters)

section Queries

variable {interface : Interface}

/-- A plan is translated alike with arguments that compile alike. -/
theorem SelectionPlan.toQuery_compileAlike
    {types : TableTypes}
    {arguments others : SelectArguments}
    (given : arguments.CompileAlike types.columns others)
    (plan : SelectionPlan)
    (path : String) :
    plan.toQuery interface types others path = plan.toQuery interface types arguments path := by
  obtain ⟨columns, relations, output⟩ := plan
  rw [toQuery, toQuery, given.filter_eq, given.orderBy_eq, given.offset_eq, given.limit_eq]

/-- The arguments of a relation are translated alike with added nulls. -/
theorem toQuery_relationArguments
    {types : TableTypes}
    {cardinality : Cardinality}
    {arguments others : JsonEntries}
    (adds : ArgumentsAddNulls (relationArgumentNames cardinality) types.columns arguments others)
    (plan : SelectionPlan)
    (path : String) :
    (readRelationArguments cardinality path others >>= fun sorted =>
        plan.toQuery interface types sorted path) =
      readRelationArguments cardinality path arguments >>= fun sorted =>
        plan.toQuery interface types sorted path := by
  induction adds with
  | refl => rfl
  | tail _ adds inductionHypothesis =>
      rw [← inductionHypothesis, readRelationArguments, readRelationArguments,
        checkArguments_addNull adds]
      cases checkArguments (relationArgumentNames cardinality) path _ with
      | error fault => rfl
      | ok _ =>
          have alike := SelectArguments.read_addNull adds path
          change (SelectArguments.read path _ >>= _) = (SelectArguments.read path _ >>= _)
          generalize SelectArguments.read path _ = outcome at alike ⊢
          generalize SelectArguments.read path _ = otherOutcome at alike ⊢
          cases alike with
          | ok given => exact plan.toQuery_compileAlike given path
          | error => rfl

-- The recursion follows the plan, as its translation does.
mutual

/-- A plan is translated to the same query with added nulls. -/
theorem toQuery_addsNulls :
    (plan : SelectionPlan) -> ∀ {pairs : FieldPairs} {other : SelectionPlan},
      PlanAddsNulls interface pairs plan other -> ∀ types arguments path,
        other.toQuery interface types arguments path = plan.toQuery interface types arguments path
  | ⟨columns, relations, output⟩, pairs, other, adds, types, arguments, path => by
      cases adds with
      | plan _ _ loaded =>
          rw [SelectionPlan.toQuery, SelectionPlan.toQuery, toQueries_addsNulls relations loaded]

theorem toQueries_addsNulls :
    (relations : List (RelationPlan SelectionPlan)) -> ∀ {pairs : FieldPairs} {others},
      RelationsAddNulls interface pairs relations others -> ∀ path,
        RelationPlan.toQueries interface path others =
          RelationPlan.toQueries interface path relations
  | [], pairs, others, adds, path => by
      cases adds
      rfl
  | ⟨name, target, cardinality, arguments, plan⟩ :: relations, pairs, others, adds, path => by
      cases adds with
      | @cons _ pair _ _ types _ otherPlan _ _ isPair hasTypes given plans later =>
          have known : interface.typesAt target (extendPath path pair.1.name) = .ok types :=
            Interface.typesAt_eq_ok.2 hasTypes
          have sameQuery : (readRelationArguments cardinality (extendPath path pair.1.name)
                pair.2.arguments >>= fun sorted =>
                  otherPlan.toQuery interface types sorted (extendPath path pair.1.name)) =
              readRelationArguments cardinality (extendPath path pair.1.name)
                pair.1.arguments >>= fun sorted =>
                  plan.toQuery interface types sorted (extendPath path pair.1.name) := by
            simp only [toQuery_addsNulls plan plans]
            exact toQuery_relationArguments given plan _
          rw [RelationPlan.toQueries, RelationPlan.toQueries, known,
            toQueries_addsNulls relations later]
          change (readRelationArguments _ _ _ >>= fun _ => _ >>= _) =
            (readRelationArguments _ _ _ >>= fun _ => _ >>= _)
          rw [← bind_assoc, ← bind_assoc, sameQuery]

end

end Queries

/-- The shape of the rows that an operation selects relations from.  The rows that a mutation
returns have none. -/
def Interface.shapeOf (interface : Interface) (operation : Operation) : Option Shape :=
  if operation.kind.isMutation then none else some (interface.topShape operation.table)

/-- Two plans of an answer have the same layout. -/
inductive ResponsePlan.LaidOutAlike : ResponsePlan -> ResponsePlan -> Prop
  | list {plan other : SelectionPlan} (same : plan.output = other.output) :
      ResponsePlan.LaidOutAlike (.list plan) (.list other)
  | single {plan other : SelectionPlan} (same : plan.output = other.output) :
      ResponsePlan.LaidOutAlike (.single plan) (.single other)
  | same (response : ResponsePlan) : ResponsePlan.LaidOutAlike response response

namespace Interface

variable {interface : Interface} {operation : Operation} {types : TableTypes} {name : String}
variable {arguments others : JsonEntries} {selection otherSelection : Selection}

/-- Nulls are added to the arguments of an operation and of the relations that it selects. -/
structure AddsNulls (interface : Interface) (operation : Operation) (types : TableTypes)
    (arguments others : JsonEntries) (selection otherSelection : Selection) : Prop where
  arguments_add :
    ArgumentsAddNulls operation.kind.argumentNames types.columns arguments others
  selection_add :
    FieldsAddNulls interface types (interface.shapeOf operation) selection otherSelection
  keepEqual : FieldPairs.KeepEqualArguments (selection.zip otherSelection)

theorem compileSelect_compileAlike
    {given otherGiven : SelectArguments}
    (alike : given.CompileAlike types.columns otherGiven) :
    interface.compileSelect types operation otherGiven selection =
      interface.compileSelect types operation given selection := by
  have first : SelectArguments.CompileAlike types.columns { given with limit := some 1 }
      { otherGiven with limit := some 1 } :=
    ⟨alike.offset_eq, rfl, alike.filter_eq, alike.orderBy_eq⟩
  rw [compileSelect, compileSelect]
  simp only [SelectionPlan.toQuery_compileAlike alike, SelectionPlan.toQuery_compileAlike first]

/-- Arguments that compile alike lead to the same request. -/
theorem compileArguments_compileAlike
    {given otherGiven : OperationArguments}
    (alike : given.CompileAlike types.columns otherGiven) :
    interface.compileArguments types operation otherGiven selection =
      interface.compileArguments types operation given selection := by
  cases alike with
  | select alike => exact compileSelect_compileAlike alike
  | insert rows => rfl
  | update assignments filters =>
      rw [compileArguments, compileArguments]
      simp only [filters]
  | delete filters =>
      rw [compileArguments, compileArguments]
      simp only [filters]

/-- Nulls that are added to the arguments of an operation change nothing at all. -/
theorem compile_addNulls
    (isOperation : interface.operation? name = some operation)
    (hasTypes : interface.table? operation.table = some types)
    (adds : ArgumentsAddNulls operation.kind.argumentNames types.columns arguments others) :
    interface.compile name others selection = interface.compile name arguments selection := by
  induction adds with
  | refl => rfl
  | tail _ adds inductionHypothesis =>
      have known : interface.typesAt operation.table operation.name = .ok types :=
        typesAt_eq_ok.2 hasTypes
      have alike := OperationArguments.read_addNull adds
      rw [← inductionHypothesis, compile, compile, isOperation]
      dsimp only
      generalize OperationArguments.read operation _ = outcome at alike ⊢
      generalize OperationArguments.read operation _ = otherOutcome at alike ⊢
      cases alike with
      | error => rfl
      | ok given =>
          rw [known]
          change (compileArguments _ _ _ _ _ >>= _) = (compileArguments _ _ _ _ _ >>= _)
          rw [compileArguments_compileAlike given]

/-- A select compiles to the same query with added nulls. -/
theorem compileSelect_addsNulls
    {given : SelectArguments}
    {request : Request}
    {response : ResponsePlan}
    (hasTypes : interface.table? operation.table = some types)
    (keeps : FieldPairs.KeepEqualArguments (selection.zip otherSelection))
    (adds : FieldsAddNulls interface types (some (interface.topShape operation.table)) selection
      otherSelection)
    (compiled : interface.compileSelect types operation given selection = .ok (request, response)) :
    ∃ other, interface.compileSelect types operation given otherSelection = .ok (request, other) ∧
      response.LaidOutAlike other := by
  rw [compileSelect] at compiled ⊢
  obtain ⟨plan, pruned, translated⟩ := bind_eq_ok.1 compiled
  obtain ⟨otherPlan, otherPruned, plans⟩ := prune_addsNulls hasTypes keeps adds pruned
  have sameLayout : plan.output = otherPlan.output := by
    cases plans
    rfl
  rw [otherPruned]
  change ∃ other, (if operation.kind = .selectOne then _ else _) = _ ∧ _
  simp only [toQuery_addsNulls plan plans]
  split at translated
  · obtain ⟨query, isQuery, same⟩ := bind_eq_ok.1 translated
    cases pure_eq_ok.1 same
    rename_i isOne
    rw [if_pos isOne, isQuery]
    exact ⟨_, rfl, .single sameLayout⟩
  · obtain ⟨query, isQuery, same⟩ := bind_eq_ok.1 translated
    cases pure_eq_ok.1 same
    rename_i isMany
    rw [if_neg isMany, isQuery]
    exact ⟨_, rfl, .list sameLayout⟩

/-- The arguments of an operation that is no mutation are those of a select. -/
theorem exists_select_of_read
    {given : OperationArguments}
    (notMutation : operation.kind.isMutation = false)
    (read : OperationArguments.read operation arguments = .ok given) :
    ∃ sorted, given = .select sorted := by
  obtain ⟨kind, table⟩ := operation
  rw [OperationArguments.read, check_bind_eq_ok] at read
  cases kind with
  | selectMany | selectOne =>
      obtain ⟨sorted, _, same⟩ := bind_eq_ok.1 read.2
      exact ⟨sorted, (pure_eq_ok.1 same).symm⟩
  | _ => cases notMutation

/-- Nulls that are added to the arguments of an operation and of the relations that it selects leave
the request and the layout of the answer as they are. -/
theorem compile_addsNulls
    {compiled : CompiledOperation}
    (isOperation : interface.operation? name = some operation)
    (hasTypes : interface.table? operation.table = some types)
    (adds : interface.AddsNulls operation types arguments others selection otherSelection)
    (compiles : interface.compile name arguments selection = .ok compiled) :
    ∃ other, interface.compile name others otherSelection = .ok other ∧
      other.operation = compiled.operation ∧ other.request = compiled.request ∧
        compiled.response.LaidOutAlike other.response := by
  rw [← compile_addNulls isOperation hasTypes adds.arguments_add] at compiles
  have selected := adds.selection_add
  rw [shapeOf] at selected
  split at selected
  · rw [selected.eq_of_none]
    exact ⟨compiled, compiles, rfl, rfl, .same _⟩
  · rename_i notMutation
    rw [compile, isOperation] at compiles ⊢
    dsimp only at compiles ⊢
    obtain ⟨given, read, rest⟩ := bind_eq_ok.1 compiles
    obtain ⟨found, known, rest⟩ := bind_eq_ok.1 rest
    obtain ⟨⟨request, response⟩, parts, same⟩ := bind_eq_ok.1 rest
    rw [pure_eq_ok] at same
    subst same
    obtain ⟨sorted, rfl⟩ := exists_select_of_read (by simpa using notMutation) read
    cases (typesAt_eq_ok.1 known).symm.trans hasTypes
    obtain ⟨other, otherCompiled, alike⟩ :=
      compileSelect_addsNulls hasTypes adds.keepEqual selected parts
    refine ⟨⟨operation, request, other⟩, ?_, rfl, rfl, alike⟩
    rw [read, known]
    change (compileSelect _ _ _ _ _ >>= _) = _
    rw [otherCompiled]
    rfl

theorem ofRows_laidOutAlike
    {response other : ResponsePlan}
    (alike : response.LaidOutAlike other)
    (rows : List Row) :
    other.ofRows interface rows = response.ofRows interface rows := by
  cases alike with
  | list same | single same => rw [ResponsePlan.ofRows, ResponsePlan.ofRows, same]
  | same => rfl

theorem ofResult_laidOutAlike
    {response other : ResponsePlan}
    (alike : response.LaidOutAlike other)
    (operation : String)
    (result : MutationResult) :
    other.ofResult interface operation result = response.ofResult interface operation result := by
  have filled := @ofRows_laidOutAlike interface _ _ alike
  cases alike with
  | list _ | single _ =>
      rw [ResponsePlan.ofResult, ResponsePlan.ofResult]
      · simp only [filled]
      all_goals simp
  | same => rfl

/-- Every executor carries out operations alike that ask for the same and are laid out alike. -/
theorem run_laidOutAlike
    {m : Type -> Type}
    [Monad m]
    {compiled other : CompiledOperation}
    (sameOperation : other.operation = compiled.operation)
    (sameRequest : other.request = compiled.request)
    (alike : compiled.response.LaidOutAlike other.response)
    (executor : Executor m) :
    interface.run executor other = interface.run executor compiled := by
  obtain ⟨operation, request, response⟩ := compiled
  obtain ⟨_, _, otherResponse⟩ := other
  cases sameOperation
  cases sameRequest
  rw [run.eq_def, run.eq_def]
  dsimp only at alike ⊢
  cases request with
  | select query => simp only [ofRows_laidOutAlike alike]
  | mutate mutation => simp only [ofResult_laidOutAlike alike]

/-- Null means the same as no entry.  An operation that compiles does so with nulls under declared
keys, in its arguments and in those of the relations it selects, as long as arguments of relations
that were equal at one place stay so: to the same request, which every executor carries out
alike. -/
theorem nulls_count_as_absent
    {compiled : CompiledOperation}
    (isOperation : interface.operation? name = some operation)
    (hasTypes : interface.table? operation.table = some types)
    (adds : interface.AddsNulls operation types arguments others selection otherSelection)
    (compiles : interface.compile name arguments selection = .ok compiled) :
    ∃ other, interface.compile name others otherSelection = .ok other ∧
      other.operation = compiled.operation ∧ other.request = compiled.request ∧
      ∀ (m : Type -> Type) [Monad m] (executor : Executor m),
        interface.execute executor name others otherSelection =
          interface.execute executor name arguments selection := by
  obtain ⟨other, compilesOther, sameOperation, sameRequest, alike⟩ :=
    compile_addsNulls isOperation hasTypes adds compiles
  refine ⟨other, compilesOther, sameOperation, sameRequest, fun m _ executor => ?_⟩
  rw [execute, execute, compiles, compilesOther]
  dsimp only
  rw [run_laidOutAlike sameOperation sameRequest alike]

/-- The posts of users. -/
def postsOf (key : String) (arguments : JsonEntries) : SelectedField :=
  { name := "posts", label := key, arguments := arguments, selection := [{ name := "id" }] }

/-- A filter of users by a conjunction inside a negation, without and with nulls. -/
def notFirst (nulls : JsonEntries) : Json :=
  .object [("NOT", .array [.object (("id", .object [("eq", .int 1)]) :: nulls)])]

/-- Posts keep equal arguments, if those they get equal themselves. -/
theorem keepEqual_postsOf
    {key : String}
    {arguments others : JsonEntries}
    (equalsItself : (Json.object others == Json.object others) = true) :
    FieldPairs.KeepEqualArguments [(postsOf key arguments, postsOf key others)] := by
  refine .of_below ?_ fun name => .of_leaves ?_
  · intro pair isPair other isOther _ _
    cases List.mem_singleton.1 isPair
    cases List.mem_singleton.1 isOther
    exact equalsItself
  · intro leaf isBelow
    obtain ⟨_, isFiltered, isLeaf⟩ := List.mem_flatMap.1 isBelow
    cases List.mem_singleton.1 (List.mem_filter.1 isFiltered).1
    cases List.mem_singleton.1 isLeaf
    exact ⟨rfl, rfl⟩

/-- Whether an operation on the users compiles. -/
def compilesUsers (interface : Interface) (arguments : JsonEntries) (selection : Selection) :
    Bool :=
  (interface.compile "users" arguments selection).toOption.isSome

theorem compilesUsers_eq_true :
    interface.compilesUsers arguments selection = true ↔
      ∃ compiled, interface.compile "users" arguments selection = .ok compiled := by
  simp only [compilesUsers, Option.isSome_iff_exists, toOption_eq_some]

theorem compilesUsers_eq_false :
    interface.compilesUsers arguments selection = false ↔
      ∀ compiled, interface.compile "users" arguments selection ≠ .ok compiled := by
  rw [← Bool.not_eq_true, compilesUsers_eq_true, not_exists]

/-- The interface of the blog: users have posts, and operations on them compile with an empty
filter and with equal arguments of posts that are selected twice, but not with nulls there. -/
theorem exists_blogInterface :
    ∃ interface types relation childTypes,
      generate blog {} = .ok interface ∧
      interface.operation? "users" = some ⟨.selectMany, "users"⟩ ∧
      interface.table? "users" = some types ∧
      types.column? "posts" = none ∧
      (interface.topShape "users").relation? interface.schema "posts" = some relation ∧
      interface.table? relation.target = some childTypes ∧
      interface.compilesUsers [("where", notFirst [])] [postsOf "posts" []] = true ∧
      interface.compilesUsers [("where", .object [])] [{ name := "id" }] = true ∧
      interface.compilesUsers [("where", .object [("NOT", .null)])] [{ name := "id" }] = false ∧
      interface.compilesUsers [] [postsOf "first" [], postsOf "second" []] = true ∧
      interface.compilesUsers [] [postsOf "first" [], postsOf "second" [("where", .null)]] =
        false := by
  have checked : ((generate blog {}).toOption.bind fun interface =>
      (interface.table? "users").bind fun types =>
      ((interface.topShape "users").relation? interface.schema "posts").bind fun relation =>
      (interface.table? relation.target).map fun _ =>
        (interface.operation? "users", [(types.column? "posts").isNone,
          interface.compilesUsers [("where", notFirst [])] [postsOf "posts" []],
          interface.compilesUsers [("where", .object [])] [{ name := "id" }],
          interface.compilesUsers [("where", .object [("NOT", .null)])] [{ name := "id" }],
          interface.compilesUsers [] [postsOf "first" [], postsOf "second" []],
          interface.compilesUsers [] [postsOf "first" [], postsOf "second" [("where", .null)]]])) =
      some (some ⟨.selectMany, "users"⟩, [true, true, true, false, true, false]) := by
    decide +kernel
  simp only [Option.bind_eq_some_iff, Option.map_eq_some_iff, toOption_eq_some,
    Prod.mk.injEq, List.cons.injEq, Option.isNone_iff_eq_none, and_true] at checked
  obtain ⟨interface, generated, types, hasTypes, relation, isRelation, childTypes, hasChildTypes,
    isOperation, noColumn, outcomes⟩ := checked
  exact ⟨interface, types, relation, childTypes, generated, isOperation, hasTypes, noColumn,
    isRelation, hasChildTypes, outcomes⟩

theorem nulls_count_as_absent_blog :
    ∃ interface operation types compiled, generate blog {} = .ok interface ∧
      interface.operation? "users" = some operation ∧
      interface.table? operation.table = some types ∧
      interface.AddsNulls operation types [("where", notFirst [])]
        [("where", notFirst [("OR", .null)]), ("limit", .null)] [postsOf "posts" []]
        [postsOf "posts" [("orderBy", .null)]] ∧
      interface.compile "users" [("where", notFirst [])] [postsOf "posts" []] = .ok compiled ∧
      ∃ other, interface.compile "users" [("where", notFirst [("OR", .null)]), ("limit", .null)]
          [postsOf "posts" [("orderBy", .null)]] = .ok other ∧
        other.request = compiled.request := by
  obtain ⟨interface, types, relation, childTypes, generated, isOperation, hasTypes, noColumn,
    isRelation, hasChildTypes, compiles, _⟩ := exists_blogInterface
  obtain ⟨compiled, compiles⟩ := compilesUsers_eq_true.1 compiles
  have inFilter : ArgumentsAddNull OperationKind.selectMany.argumentNames types.columns
      [("where", notFirst [])] [("where", notFirst [("OR", .null)])] :=
    .filter [] [] (.add (.inside [] [] .not [] [] (.here [("id", .object [("eq", .int 1)])] []))
      (.inr (.inl rfl)))
  have inArguments : ArgumentsAddNull OperationKind.selectMany.argumentNames types.columns
      ([("where", notFirst [("OR", .null)])] ++ [])
      [("where", notFirst [("OR", .null)]), ("limit", .null)] :=
    .argument (.add (by decide) (by decide))
  have inRelation : ArgumentsAddNull (relationArgumentNames relation.cardinality)
      childTypes.columns ([] ++ []) [("orderBy", .null)] := by
    refine .argument (.add ?_ (by decide))
    cases relation.cardinality <;> decide
  have selection : FieldsAddNulls interface types (interface.shapeOf ⟨.selectMany, "users"⟩)
      [postsOf "posts" []] [postsOf "posts" [("orderBy", .null)]] :=
    .cons (.relation (by decide) noColumn isRelation hasChildTypes (.single inRelation)
      (.refl _ _ _ _)) (.nil _ _)
  have adds : interface.AddsNulls ⟨.selectMany, "users"⟩ types _ _ _ _ :=
    ⟨.tail (.single inFilter) inArguments, selection, keepEqual_postsOf (by decide)⟩
  obtain ⟨other, compilesOther, _, sameRequest, _⟩ :=
    nulls_count_as_absent isOperation hasTypes adds compiles
  exact ⟨interface, _, types, compiled, generated, isOperation, hasTypes, adds, compiles, other,
    compilesOther, sameRequest⟩

/-- A null is not the same as no entry under the key for negations, nor in the arguments of one of
two fields that select the same relation. -/
theorem not_nulls_count_as_absent_blog :
    ∃ interface, generate blog {} = .ok interface ∧
      (∃ compiled,
        interface.compile "users" [("where", .object [])] [{ name := "id" }] = .ok compiled) ∧
      (∀ compiled,
        interface.compile "users" [("where", .object [("NOT", .null)])] [{ name := "id" }]
          ≠ .ok compiled) ∧
      (∃ compiled,
        interface.compile "users" [] [postsOf "first" [], postsOf "second" []] = .ok compiled) ∧
      ∀ compiled,
        interface.compile "users" [] [postsOf "first" [], postsOf "second" [("where", .null)]]
          ≠ .ok compiled := by
  obtain ⟨interface, _, _, _, generated, _, _, _, _, _, _, compilesEmpty, failsNot, compilesTwice,
    failsTwice⟩ := exists_blogInterface
  exact ⟨interface, generated, compilesUsers_eq_true.1 compilesEmpty,
    compilesUsers_eq_false.1 failsNot, compilesUsers_eq_true.1 compilesTwice,
    compilesUsers_eq_false.1 failsTwice⟩

end Interface

end RelationalApi
