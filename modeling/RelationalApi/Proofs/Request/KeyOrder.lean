import RelationalApi.Proofs.Interface.Paths
import RelationalApi.Proofs.Request.RearrangedArguments
import RelationalApi.Proofs.Selection.Rearrangement
import RelationalApi.Proofs.Storage.AlikeQueries
import RelationalApi.Request.Execution

/-!
# Requests whose keys are reordered

The order of the keys of a request never matters.  Orders and input objects are read in the order of
the columns, and filters, which are compiled in the order of their entries, accept the same rows in
any order.  So a rearranged request compiles where the request does, and has the same answer and the
same effect.
-/

namespace RelationalApi

open Outcome

section Queries

variable {interface : Interface}

-- The recursion follows the plan, as its translation does.
mutual

/-- A rearranged plan is translated where the plan is, to a query that is alike. -/
theorem toQuery_agree :
    (plan : SelectionPlan) -> ∀ {other : SelectionPlan} {arguments others : SelectArguments},
      plan.Rearranged other -> arguments.Rearranged others -> ∀ types path,
        Agree SelectQuery.Alike (plan.toQuery interface types arguments path)
          (other.toQuery interface types others path)
  | ⟨columns, relations, output⟩, other, arguments, others, rearranged, given, types, path => by
      cases rearranged with
      | plan _ _ pairs =>
          rw [SelectionPlan.toQuery, SelectionPlan.toQuery]
          refine (compileWhere_agree types.columns given.filter _).bind fun _ _ filters => ?_
          refine (compileOrderBy_agree types.columns given.orderBy _).bind fun orderBy _ same => ?_
          cases same
          refine (toQueries_agree relations pairs path).bind fun _ _ includes => ?_
          rw [given.offset_eq, given.limit_eq]
          exact .ok (.query _ _ _ _ _ filters includes)

theorem toQueries_agree :
    (relations : List (RelationPlan SelectionPlan)) -> ∀ {others},
      List.Forall₂ RelationPlan.Rearranged relations others -> ∀ path,
        Agree (List.Forall₂ IncludeAlike) (RelationPlan.toQueries interface path relations)
          (RelationPlan.toQueries interface path others)
  | [], others, pairs, path => by
      cases pairs
      rw [RelationPlan.toQueries]
      exact .ok .nil
  | ⟨name, target, cardinality, arguments, plan⟩ :: relations, others, pairs, path => by
      cases pairs with
      | cons first later =>
          cases first with
          | relation _ _ _ given plans =>
              rw [RelationPlan.toQueries, RelationPlan.toQueries]
              have known := Agree.refl (fun _ => rfl)
                (interface.typesAt target (extendPath path name))
              refine known.bind fun types _ same => ?_
              cases same
              refine (readRelationArguments_agree given cardinality _).bind fun _ _ sorted => ?_
              refine (toQuery_agree plan plans sorted types _).bind fun _ _ queries => ?_
              exact (toQueries_agree relations later path).bind fun _ _ includes =>
                .ok (.cons (.entry name queries) includes)

end

end Queries

/-- Two requests to an executor are alike. -/
inductive Request.Alike : Request -> Request -> Prop
  | select {query other : SelectQuery} (queries : query.Alike other) :
      Request.Alike (.select query) (.select other)
  | mutate {mutation other : Mutation} (mutations : mutation.Alike other) :
      Request.Alike (.mutate mutation) (.mutate other)

/-- Two plans of an answer have the same layout. -/
inductive ResponsePlan.Rearranged : ResponsePlan -> ResponsePlan -> Prop
  | list {plan other : SelectionPlan} (plans : plan.Rearranged other) :
      ResponsePlan.Rearranged (.list plan) (.list other)
  | single {plan other : SelectionPlan} (plans : plan.Rearranged other) :
      ResponsePlan.Rearranged (.single plan) (.single other)
  | success (output : ObjectOutput) : ResponsePlan.Rearranged (.success output) (.success output)

/-- Two compiled operations ask for the same and answer the same. -/
structure CompiledOperation.Alike (compiled other : CompiledOperation) : Prop where
  operation_eq : compiled.operation = other.operation
  request : compiled.request.Alike other.request
  response : compiled.response.Rearranged other.response

/-- The parts of a compiled operation that depend on its arguments and selection. -/
def PartsAlike (parts others : Request × ResponsePlan) : Prop :=
  parts.1.Alike others.1 ∧ parts.2.Rearranged others.2

namespace Interface

variable {interface : Interface} {types : TableTypes} {selection otherSelection : Selection}

theorem compileSelect_agree
    {arguments others : SelectArguments}
    (given : arguments.Rearranged others)
    (selected : selection.Rearranged otherSelection)
    (operation : Operation) :
    Agree PartsAlike (interface.compileSelect types operation arguments selection)
      (interface.compileSelect types operation others otherSelection) := by
  rw [compileSelect, compileSelect]
  refine (prune_agree selected _ _).bind fun plan other plans => ?_
  split
  · have first : SelectArguments.Rearranged { arguments with limit := some 1 }
        { others with limit := some 1 } :=
      ⟨given.offset_eq, rfl, given.orderBy, given.filter⟩
    exact (toQuery_agree plan plans first types _).bind fun _ _ queries =>
      .ok ⟨.select queries, .single plans⟩
  · exact (toQuery_agree plan plans given types _).bind fun _ _ queries =>
      .ok ⟨.select queries, .list plans⟩

theorem mutationPlan_agree
    (selected : selection.Rearranged otherSelection)
    (operation : Operation) :
    Agree (fun parts others => parts.1 = others.1 ∧ parts.2.Rearranged others.2)
      (interface.mutationPlan operation selection)
      (interface.mutationPlan operation otherSelection) := by
  rw [mutationPlan, mutationPlan]
  split
  · refine (pruneSuccess_agree selected _).bind fun output _ same => ?_
    cases same
    exact .ok ⟨rfl, .success output⟩
  · refine (pruneItem_agree selected _ _).bind fun plan other plans => ?_
    have sameColumns : plan.columns = other.columns := by
      cases plans
      rfl
    refine .ok ⟨congrArg some sameColumns, ?_⟩
    dsimp only
    split
    · exact .single plans
    · exact .list plans

theorem compileArguments_agree
    {arguments others : OperationArguments}
    (given : arguments.Rearranged types.columns others)
    (selected : selection.Rearranged otherSelection)
    (operation : Operation) :
    Agree PartsAlike (interface.compileArguments types operation arguments selection)
      (interface.compileArguments types operation others otherSelection) := by
  have planned := @mutationPlan_agree interface _ _ selected operation
  cases given with
  | select given => exact compileSelect_agree given selected operation
  | insert pairs =>
      refine planned.bind fun (returning, response) (otherReturning, otherResponse) plans => ?_
      obtain ⟨rfl, responses⟩ := plans
      refine (readInsertRows_agree pairs).bind fun rows _ same => ?_
      cases same
      exact .ok ⟨.mutate (.insert _), responses⟩
  | update inputs filters =>
      refine planned.bind fun (returning, response) (otherReturning, otherResponse) plans => ?_
      obtain ⟨rfl, responses⟩ := plans
      refine (readInputRow_agree inputs _ _).bind fun assignments _ same => ?_
      cases same
      exact (compileWhere_agree _ filters _).bind fun _ _ alike =>
        .ok ⟨.mutate (.update _ _ _ alike), responses⟩
  | delete filters =>
      refine planned.bind fun (returning, response) (otherReturning, otherResponse) plans => ?_
      obtain ⟨rfl, responses⟩ := plans
      exact (compileWhere_agree _ filters _).bind fun _ _ alike =>
        .ok ⟨.mutate (.delete _ _ alike), responses⟩

/-- Two requests for an operation differ at most in the order of keys at any depth.  Documents that
columns keep as they are given are the same. -/
structure ReordersKeys (interface : Interface) (name : String) (arguments others : JsonEntries)
    (selection otherSelection : Selection) : Prop where
  arguments_rearranged : Json.Rearranged (.object arguments) (.object others)
  selection_rearranged : selection.Rearranged otherSelection
  keepsInputs : ∀ operation types, interface.operation? name = some operation ->
    interface.table? operation.table = some types ->
      KeepsInputs types.columns arguments others

/-- A rearranged request compiles where the request does, to an operation that is alike. -/
theorem compile_agree
    {name : String}
    {arguments others : JsonEntries}
    (reorders : interface.ReordersKeys name arguments others selection otherSelection) :
    Agree CompiledOperation.Alike (interface.compile name arguments selection)
      (interface.compile name others otherSelection) := by
  rw [compile, compile]
  cases isOperation : interface.operation? name with
  | none => exact .error
  | some operation =>
      dsimp only
      cases found : interface.table? operation.table with
      | none =>
          have noTypes : interface.typesAt operation.table operation.name =
              .error (.invalid operation.name (.tableWithoutTypes operation.table)) := by
            rw [typesAt, found]
          rw [noTypes]
          cases OperationArguments.read operation arguments <;>
            cases OperationArguments.read operation others <;> exact .error
      | some types =>
          have hasTypes : interface.typesAt operation.table operation.name = .ok types := by
            rw [typesAt, found]
          rw [hasTypes]
          have keeps := reorders.keepsInputs operation types isOperation found
          refine (OperationArguments.read_agree reorders.arguments_rearranged keeps operation).bind
            fun _ _ given => ?_
          refine (compileArguments_agree given reorders.selection_rearranged operation).bind
            fun _ _ parts => ?_
          exact .ok ⟨rfl, parts.1, parts.2⟩

theorem ofRows_rearranged
    {response other : ResponsePlan}
    (responses : response.Rearranged other)
    (rows : List Row) :
    response.ofRows interface rows = other.ofRows interface rows := by
  cases responses with
  | list plans =>
      cases plans
      rfl
  | single plans =>
      cases plans
      rfl
  | success output => rfl

theorem ofResult_rearranged
    {response other : ResponsePlan}
    (responses : response.Rearranged other)
    (operation : String)
    (result : MutationResult) :
    response.ofResult interface operation result = other.ofResult interface operation result := by
  have filled := @ofRows_rearranged interface _ _ responses
  cases responses with
  | list plans =>
      rw [ResponsePlan.ofResult, ResponsePlan.ofResult]
      · simp only [filled]
      all_goals simp
  | single plans =>
      rw [ResponsePlan.ofResult, ResponsePlan.ofResult]
      · simp only [filled]
      all_goals simp
  | success output => rfl

/-- Compiled operations that are alike are carried out alike by a store. -/
theorem run_alike
    {compiled other : CompiledOperation}
    (alike : compiled.Alike other)
    (schema : Schema)
    (now : Timestamp)
    (store : Store) :
    interface.run (Store.executor schema now) compiled store =
      interface.run (Store.executor schema now) other store := by
  obtain ⟨operation, request, response⟩ := compiled
  obtain ⟨otherOperation, otherRequest, otherResponse⟩ := other
  obtain ⟨sameOperation, requests, responses⟩ := alike
  dsimp only at sameOperation requests responses
  cases requests with
  | @select query other queries =>
      change (((store.select schema query).bind fun rows => response.ofRows interface rows), store)
        = ((store.select schema other).bind fun rows => otherResponse.ofRows interface rows, store)
      rw [Store.select_alike queries]
      simp only [ofRows_rearranged responses]
  | @mutate mutation other mutations =>
      change ((store.apply schema now mutation).1.bind fun result =>
          response.ofResult interface operation.name result,
          (store.apply schema now mutation).2) =
        ((store.apply schema now other).1.bind fun result =>
          otherResponse.ofResult interface otherOperation.name result,
          (store.apply schema now other).2)
      rw [Store.apply, Store.apply, Store.mutate_alike mutations, sameOperation]
      simp only [ofResult_rearranged responses]

/-- A request whose keys are reordered, at any depth of its arguments and of the arguments of
relations, compiles exactly where the request does.  Carried out on one store, the two have the same
answer and leave the same store. -/
theorem keyOrder_never_matters
    {name : String}
    {arguments others : JsonEntries}
    (reorders : interface.ReordersKeys name arguments others selection otherSelection)
    (schema : Schema)
    (now : Timestamp)
    (store : Store) :
    ((∃ compiled, interface.compile name arguments selection = .ok compiled) ↔
      ∃ compiled, interface.compile name others otherSelection = .ok compiled) ∧
    ((∃ compiled, interface.compile name arguments selection = .ok compiled) ->
      interface.execute (Store.executor schema now) name arguments selection store =
        interface.execute (Store.executor schema now) name others otherSelection store) := by
  have agree := compile_agree reorders
  refine ⟨agree.exists_ok_iff, ?_⟩
  rintro ⟨compiled, compiles⟩
  obtain ⟨other, compilesOther, alike⟩ := agree.exists_ok compiles
  have sameRun := @run_alike interface _ _ alike schema now store
  rw [execute, execute, compiles, compilesOther]
  exact congrArg (fun result : Except ExecutionError Json × Store =>
    (result.1.mapError EngineError.execution, result.2)) sameRun

/-- A filter on two columns, one of them between two bounds. -/
def boundedNames : JsonEntries :=
  [("where", .object
    [("name", .object [("like", .string "a%")]),
      ("id", .object [("gt", .int 1), ("lt", .int 9)])])]

/-- The same filter, written the other way round. -/
def boundedNamesReversed : JsonEntries :=
  [("where", .object
    [("id", .object [("lt", .int 9), ("gt", .int 1)]),
      ("name", .object [("like", .string "a%")])])]

theorem boundedNames_rearranged :
    Json.Rearranged (.object boundedNames) (.object boundedNamesReversed) := by
  have bounds : Json.Rearranged (.object [("gt", .int 1), ("lt", .int 9)])
      (.object [("lt", .int 9), ("gt", .int 1)]) :=
    .object (by decide) (.swap _ _ _)
      (.cons (.entry _ (.same _)) (.cons (.entry _ (.same _)) .nil))
  have columns : Json.Rearranged
      (.object [("name", .object [("like", .string "a%")]),
        ("id", .object [("gt", .int 1), ("lt", .int 9)])])
      (.object [("id", .object [("lt", .int 9), ("gt", .int 1)]),
        ("name", .object [("like", .string "a%")])]) :=
    .object (by decide) (.swap _ _ _)
      (.cons (.entry _ bounds) (.cons (.entry _ (.same _)) .nil))
  exact .object (by decide) (.refl _) (.cons (.entry _ columns) .nil)

/-- The filter compiles, and the two ways of writing it select the same names from every store. -/
theorem keyOrder_never_matters_blog :
    ∃ interface, generate blog {} = .ok interface ∧
      interface.ReordersKeys "users" boundedNames boundedNamesReversed [{ name := "name" }]
        [{ name := "name" }] ∧
      (∃ compiled, interface.compile "users" boundedNames [{ name := "name" }] = .ok compiled) ∧
      ∀ now store,
        interface.execute (Store.executor blog now) "users" boundedNames [{ name := "name" }] store
          = interface.execute (Store.executor blog now) "users" boundedNamesReversed
            [{ name := "name" }] store := by
  have compiles : ((generate blog {}).toOption.bind fun interface =>
      (interface.compile "users" boundedNames [{ name := "name" }]).toOption).isSome = true := by
    decide +kernel
  obtain ⟨compiled, found⟩ := Option.isSome_iff_exists.1 compiles
  obtain ⟨interface, generated, compiled⟩ := Option.bind_eq_some_iff.1 found
  rw [toOption_eq_some] at generated compiled
  have reorders : interface.ReordersKeys "users" boundedNames boundedNamesReversed
      [{ name := "name" }] [{ name := "name" }] := by
    refine ⟨boundedNames_rearranged, .cons (.field _ _ (.same _) .nil) .nil, ?_⟩
    intro operation types _ _ name member document other found
    rcases List.mem_cons.1 member with rfl | later
    · cases found
    · rw [List.mem_singleton] at later
      subst later
      cases found
  refine ⟨interface, generated, reorders, ⟨_, compiled⟩, fun now store => ?_⟩
  exact (keyOrder_never_matters reorders blog now store).2 ⟨_, compiled⟩

end Interface

end RelationalApi
