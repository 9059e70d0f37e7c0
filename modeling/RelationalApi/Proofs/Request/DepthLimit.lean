import RelationalApi.Proofs.Interface.Generation
import RelationalApi.Proofs.Selection.DepthLimit
import RelationalApi.Request.Compilation

/-!
# Requests under depth limits

A request depends on what plans load, and plans load the same under every limit that admits them.  A
limit therefore only takes requests away and never changes one.
-/

namespace RelationalApi

open Outcome

namespace Interface

variable {first second : Interface}

mutual

/-- The query of a plan depends on what the plan loads and on the types of tables alone. -/
theorem toQuery_bare
    (sameTypes : ∀ table path, first.typesAt table path = second.typesAt table path) :
    (plan : SelectionPlan) -> ∀ types arguments path,
      plan.toQuery first types arguments path = plan.bare.toQuery second types arguments path
  | ⟨columns, relations, output⟩, types, arguments, path => by
      rw [SelectionPlan.bare, SelectionPlan.toQuery, SelectionPlan.toQuery,
        toQueries_bare sameTypes relations]

theorem toQueries_bare
    (sameTypes : ∀ table path, first.typesAt table path = second.typesAt table path) :
    (relations : List (RelationPlan SelectionPlan)) -> ∀ path,
      RelationPlan.toQueries first path relations =
        RelationPlan.toQueries second path (bareRelations relations)
  | [], path => by rw [bareRelations, RelationPlan.toQueries, RelationPlan.toQueries]
  | ⟨name, target, cardinality, given, plan⟩ :: relations, path => by
      simp only [bareRelations, RelationPlan.toQueries, sameTypes, toQuery_bare sameTypes plan,
        toQueries_bare sameTypes relations]

end

/-- Plans that load the same have the same queries. -/
theorem toQuery_eq_of_bare
    (sameTypes : ∀ table path, first.typesAt table path = second.typesAt table path)
    {plan other : SelectionPlan}
    (samePlan : plan.bare = other.bare)
    (types : TableTypes)
    (arguments : SelectArguments)
    (path : String) :
    plan.toQuery first types arguments path = other.toQuery second types arguments path := by
  rw [toQuery_bare sameTypes, samePlan, ← toQuery_bare fun _ _ => rfl]

mutual

/-- The query of a plan follows relations as deep as the plan. -/
theorem depth_toQuery :
    (plan : SelectionPlan) -> ∀ {types arguments path query},
      plan.toQuery first types arguments path = .ok query -> query.depth = plan.depth
  | ⟨columns, relations, output⟩, types, arguments, path, query, compiled => by
      simp only [SelectionPlan.toQuery, bind_eq_ok, pure_eq_ok] at compiled
      obtain ⟨_, _, _, _, includes, queries, rfl⟩ := compiled
      rw [SelectQuery.depth, SelectionPlan.depth]
      exact depth_toQueries relations queries

theorem depth_toQueries :
    (relations : List (RelationPlan SelectionPlan)) -> ∀ {path queries},
      RelationPlan.toQueries first path relations = .ok queries ->
        SelectQuery.includesDepth queries = relationsDepth relations
  | [], path, queries, compiled => by
      rw [RelationPlan.toQueries] at compiled
      cases compiled
      rw [SelectQuery.includesDepth, relationsDepth]
  | ⟨name, target, cardinality, given, plan⟩ :: relations, path, queries, compiled => by
      simp only [RelationPlan.toQueries, bind_eq_ok, pure_eq_ok] at compiled
      obtain ⟨_, _, _, _, query, compiledFirst, others, compiledOthers, rfl⟩ := compiled
      rw [SelectQuery.includesDepth, relationsDepth, depth_toQuery plan compiledFirst,
        depth_toQueries relations compiledOthers]

end

end Interface

/-- The greatest number of relations that a request follows one after another. -/
def Request.depth : Request -> Nat
  | select query => query.depth
  | mutate _ => 0

namespace Interface

variable {first second : Interface}

/-- Interfaces of one schema and of configurations that differ in the depth limit only. -/
theorem sameButLimit_of_generate
    {schema : Schema}
    {config : EngineConfig}
    {limit otherLimit : Option Nat}
    (generated : generate schema { config with depthLimit := limit } = .ok first)
    (otherGenerated : generate schema { config with depthLimit := otherLimit } = .ok second) :
    SameButLimit first second := by
  have represents := represents_of_generate generated
  have otherRepresents := represents_of_generate otherGenerated
  refine ⟨?_, ?_, ?_, ?_⟩
  · exact represents.schema_eq.trans otherRepresents.schema_eq.symm
  · rw [represents.config_eq, otherRepresents.config_eq]
  · have tables := represents.tables_eq
    rw [otherRepresents.tables_eq] at tables
    exact (Except.ok.inj tables).symm
  · exact represents.operations_eq.trans otherRepresents.operations_eq.symm

/-- The plan of a selection under one interface loads the same as under another one whose limit is
as deep as the plan. -/
theorem prune_alike
    (same : SameButLimit first second)
    {table path : String}
    {selection : Selection}
    {plan : SelectionPlan}
    (pruned : first.prune (first.topShape table) path selection = .ok plan)
    (reaches : ∀ limit, second.config.depthLimit = some limit -> plan.depth ≤ limit) :
    ∃ other, second.prune (second.topShape table) path selection = .ok other ∧
      plan.bare = other.bare := by
  simp only [prune, bind_eq_ok, pure_eq_ok] at pruned
  obtain ⟨types, found, between, prunedFields, rfl⟩ := pruned
  rw [same.typesAt_eq] at found
  rw [SelectionPlan.depth_withIdentity] at reaches
  have reachesTop : Reaches (some (second.topShape table)) between.depth := by
    intro _ limit isTop
    rw [topShape, Option.some.injEq, Shape.mk.injEq] at isTop
    exact reaches limit isTop.2
  have sameEmpty := SelectionPlan.bare_empty (first.shapeTypeName (first.topShape table))
    (second.shapeTypeName (second.topShape table)) types.name
  obtain ⟨other, otherPruned, sameOther⟩ :=
    pruneFields_alike same selection (.some table _ _) sameEmpty prunedFields reachesTop
  refine ⟨other.withIdentity types.identity, ?_, SelectionPlan.bare_withIdentity sameOther _⟩
  simp only [prune, bind_eq_ok, pure_eq_ok]
  exact ⟨types, found, other, otherPruned, rfl⟩

/-- Mutations return the same columns under any limit. -/
theorem mutationPlan_alike
    (same : SameButLimit first second)
    {operation : Operation}
    {selection : Selection}
    {returning : Option (List String)}
    {response : ResponsePlan}
    (planned : first.mutationPlan operation selection = .ok (returning, response)) :
    ∃ otherResponse, second.mutationPlan operation selection = .ok (returning, otherResponse) := by
  have sameResponse : second.config.mutationResponse = first.config.mutationResponse := by
    rw [← same.config_eq]
  rw [mutationPlan] at planned ⊢
  rw [sameResponse]
  split at planned
  · exact ⟨response, planned⟩
  · simp only [pruneItem, bind_eq_ok, pure_eq_ok, Prod.mk.injEq] at planned ⊢
    obtain ⟨_, ⟨types, found, between, pruned, rfl⟩, rfl, _⟩ := planned
    rw [same.typesAt_eq] at found
    obtain ⟨other, otherPruned, sameOther⟩ :=
      pruneFields_alike same selection .none rfl pruned (fun _ _ impossible => nomatch impossible)
    have columns := SelectionPlan.bare_eq_iff.1
      (SelectionPlan.bare_withIdentity sameOther types.identity)
    exact ⟨_, _, ⟨types, found, other, otherPruned, rfl⟩, congrArg some columns.1.symm, rfl⟩

/-- A select compiles to the same query under an interface whose limit is as deep as the query. -/
theorem compileSelect_alike
    (same : SameButLimit first second)
    {types : TableTypes}
    {operation : Operation}
    {arguments : SelectArguments}
    {selection : Selection}
    {request : Request}
    {response : ResponsePlan}
    (compiled : first.compileSelect types operation arguments selection = .ok (request, response))
    (reaches : ∀ limit, second.config.depthLimit = some limit -> request.depth ≤ limit) :
    ∃ otherResponse,
      second.compileSelect types operation arguments selection = .ok (request, otherResponse) := by
  rw [compileSelect, bind_eq_ok] at compiled
  obtain ⟨plan, pruned, queried⟩ := compiled
  have planDepth : request.depth = plan.depth := by
    split at queried
    all_goals
      simp only [bind_eq_ok, pure_eq_ok, Prod.mk.injEq] at queried
      obtain ⟨query, isQuery, rfl, _⟩ := queried
      exact depth_toQuery plan isQuery
  rw [planDepth] at reaches
  obtain ⟨other, otherPruned, sameOther⟩ := prune_alike same pruned reaches
  rw [compileSelect, otherPruned]
  change ∃ otherResponse, (if operation.kind = .selectOne then _ else _) = _
  split at queried
  all_goals
    rename_i kind
    simp only [toQuery_eq_of_bare same.typesAt_eq sameOther, bind_eq_ok, pure_eq_ok, Prod.mk.injEq] at queried
    obtain ⟨query, isQuery, sameRequest, _⟩ := queried
  · rw [if_pos kind, isQuery]
    exact ⟨_, congrArg (fun request => Except.ok (request, _)) sameRequest⟩
  · rw [if_neg kind, isQuery]
    exact ⟨_, congrArg (fun request => Except.ok (request, _)) sameRequest⟩

/-- An operation whose arguments are sorted compiles to the same request under an interface whose
limit is as deep as the request. -/
theorem compileArguments_alike
    (same : SameButLimit first second)
    {types : TableTypes}
    {operation : Operation}
    {arguments : OperationArguments}
    {selection : Selection}
    {request : Request}
    {response : ResponsePlan}
    (compiled :
      first.compileArguments types operation arguments selection = .ok (request, response))
    (reaches : ∀ limit, second.config.depthLimit = some limit -> request.depth ≤ limit) :
    ∃ otherResponse,
      second.compileArguments types operation arguments selection
        = .ok (request, otherResponse) := by
  have samePolicy : second.config.policyFor types.name = first.config.policyFor types.name := by
    rw [← same.config_eq]
    rfl
  cases arguments with
  | select arguments => exact compileSelect_alike same compiled reaches
  | insert rows =>
      simp only [compileArguments, bind_eq_ok, pure_eq_ok, Prod.exists, Prod.mk.injEq] at compiled ⊢
      obtain ⟨returning, _, planned, fields, read, rfl, _⟩ := compiled
      obtain ⟨otherResponse, otherPlanned⟩ := mutationPlan_alike same planned
      refine ⟨_, returning, otherResponse, otherPlanned, fields, read, ?_, rfl⟩
      rw [samePolicy]
  | update assignments filter =>
      simp only [compileArguments, bind_eq_ok, pure_eq_ok, Prod.exists, Prod.mk.injEq] at compiled ⊢
      obtain ⟨returning, _, planned, fields, read, filter, filtered, rfl, _⟩ := compiled
      obtain ⟨otherResponse, otherPlanned⟩ := mutationPlan_alike same planned
      exact ⟨_, returning, otherResponse, otherPlanned, fields, read, filter, filtered, rfl, rfl⟩
  | delete filter =>
      simp only [compileArguments, bind_eq_ok, pure_eq_ok, Prod.exists, Prod.mk.injEq] at compiled ⊢
      obtain ⟨returning, _, planned, filter, filtered, rfl, _⟩ := compiled
      obtain ⟨otherResponse, otherPlanned⟩ := mutationPlan_alike same planned
      exact ⟨_, returning, otherResponse, otherPlanned, filter, filtered, rfl, rfl⟩

/-- An operation compiles to the same request under an interface whose limit is as deep as the
request. -/
theorem compile_alike
    (same : SameButLimit first second)
    {name : String}
    {arguments : JsonEntries}
    {selection : Selection}
    {compiled : CompiledOperation}
    (succeeded : first.compile name arguments selection = .ok compiled)
    (reaches : ∀ limit, second.config.depthLimit = some limit ->
      compiled.request.depth ≤ limit) :
    ∃ other, second.compile name arguments selection = .ok other ∧
      other.request = compiled.request := by
  have sameOperation : first.operation? name = second.operation? name := by
    rw [operation?, operation?, same.operations_eq]
  rw [compile, sameOperation] at succeeded
  rw [compile]
  split at succeeded
  · cases succeeded
  · rename_i operation found
    simp only [bind_eq_ok, pure_eq_ok, Prod.exists] at succeeded
    obtain ⟨sorted, read, types, typesFound, request, response, compiledArguments, rfl⟩ := succeeded
    rw [same.typesAt_eq] at typesFound
    obtain ⟨otherResponse, otherCompiled⟩ :=
      compileArguments_alike same compiledArguments reaches
    refine ⟨⟨operation, request, otherResponse⟩, ?_, rfl⟩
    simp only [bind_eq_ok, pure_eq_ok, Prod.exists]
    exact ⟨sorted, read, types, typesFound, request, otherResponse, otherCompiled, rfl⟩

/-- A depth limit only restricts: what compiles under it compiles to the same request without a
limit, and what compiles without a limit to a mutation, or to a query that follows no more relations
one after another than the limit admits, compiles to the same request under it. -/
theorem depthLimit_only_restricts
    (schema : Schema)
    (config : EngineConfig)
    (limit : Nat)
    (limited unlimited : Interface)
    (generatedLimited : generate schema { config with depthLimit := some limit } = .ok limited)
    (generatedUnlimited : generate schema { config with depthLimit := none } = .ok unlimited)
    (name : String)
    (arguments : JsonEntries)
    (selection : Selection) :
    (∀ compiled, limited.compile name arguments selection = .ok compiled ->
      ∃ other, unlimited.compile name arguments selection = .ok other ∧
        other.request = compiled.request) ∧
    (∀ compiled, unlimited.compile name arguments selection = .ok compiled ->
      compiled.request.depth ≤ limit ->
        ∃ other, limited.compile name arguments selection = .ok other ∧
          other.request = compiled.request) := by
  constructor
  · intro compiled succeeded
    refine compile_alike (sameButLimit_of_generate generatedLimited generatedUnlimited) succeeded ?_
    intro other isLimit
    rw [(represents_of_generate generatedUnlimited).config_eq] at isLimit
    cases isLimit
  · intro compiled succeeded bounded
    refine compile_alike (sameButLimit_of_generate generatedUnlimited generatedLimited) succeeded ?_
    intro other isLimit
    rw [(represents_of_generate generatedLimited).config_eq] at isLimit
    cases isLimit
    exact bounded

/-- A schema whose only relation leads from categories to their parents. -/
def categories : Schema :=
  (Schema.empty.withTable
    { name := "categories"
      columns :=
        [ { name := "id", kind := .integer 32 false, primaryKey := true },
          { name := "parent_id", kind := .integer 32 false, nullable := true } ] }).withRelation
    { name := "parent", source := "categories", target := "categories", cardinality := .one
      fromColumn := some "parent_id", toColumn := some "id" }

/-- Categories with the parents of their parents, the parents selected in two parts. -/
def grandparents : Selection :=
  [ { name := "parent", selection := [{ name := "id" }] },
    { name := "parent", label := some "again",
      selection := [{ name := "parent", selection := [{ name := "id" }] }] } ]

theorem depthLimit_grandparents :
    ∃ limited unlimited compiled,
      generate categories { depthLimit := some 2 } = .ok limited ∧
      generate categories {} = .ok unlimited ∧
      unlimited.compile "categories" [] grandparents = .ok compiled ∧
      compiled.request.depth = 2 ∧
      ∃ other, limited.compile "categories" [] grandparents = .ok other ∧
        other.request = compiled.request := by
  have limitedRuns : (generate categories { depthLimit := some 2 }).toOption.isSome = true := by
    decide +kernel
  have unlimitedRuns : ((generate categories {}).toOption.bind fun unlimited =>
      (unlimited.compile "categories" [] grandparents).toOption.map (·.request.depth)) =
        some 2 := by
    decide +kernel
  obtain ⟨limited, generatedLimited⟩ := Option.isSome_iff_exists.1 limitedRuns
  obtain ⟨unlimited, generatedUnlimited, runs⟩ := Option.bind_eq_some_iff.1 unlimitedRuns
  obtain ⟨compiled, succeeded, depth⟩ := Option.map_eq_some_iff.1 runs
  rw [toOption_eq_some] at generatedLimited generatedUnlimited succeeded
  refine ⟨limited, unlimited, compiled, generatedLimited, generatedUnlimited, succeeded, depth, ?_⟩
  exact (depthLimit_only_restricts categories {} 2 limited unlimited generatedLimited
    generatedUnlimited "categories" [] grandparents).2 compiled succeeded (Nat.le_of_eq depth)

end Interface
end RelationalApi
