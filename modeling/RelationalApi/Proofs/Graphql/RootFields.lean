import RelationalApi.Graphql.Response
import RelationalApi.Proofs.Request.Nullability
import RelationalApi.Proofs.Request.RepeatedFields
import RelationalApi.Proofs.Storage.Atomicity

/-!
# Root fields in sequence

A document is the sequence of its root fields.  Only those reach the executor that name an operation
of the root; each of them is carried out once, on the state that the fields before it have left.
The response tells the outcome of the last field of each key and all failures in order.  As selects
change nothing, a query leaves every table as it was, and a mutation changes only tables of the
operations that it names.
-/

namespace RelationalApi

open Outcome

/-- An executor whose state has a store in it.  Selects read the store, and mutations are carried
out on it, each at a time of its own. -/
structure Executor.Keeps {σ : Type} (executor : Executor (StateM σ)) (schema : Schema)
    (storeOf : σ -> Store) : Prop where
  select : ∀ query state,
    (executor.select query state).1 = (storeOf state).select schema query ∧
      storeOf (executor.select query state).2 = storeOf state
  mutate : ∀ mutation state, ∃ now,
    (executor.mutate mutation state).1 = ((storeOf state).apply schema now mutation).1 ∧
      storeOf (executor.mutate mutation state).2 = ((storeOf state).apply schema now mutation).2

/-- The executor of a store keeps it. -/
theorem Store.keeps_executor (schema : Schema) (now : Timestamp) :
    (Store.executor schema now).Keeps schema id :=
  ⟨fun _ _ => ⟨rfl, rfl⟩, fun _ _ => ⟨now, rfl, rfl⟩⟩

namespace Graphql

/-- A root field with what became of it. -/
abbrev FieldOutcome := SelectedField × Except EngineError Json

/-- Whether a root field reaches the executor: it names an operation that is a field of the root. -/
def reaches (interface : Interface) (root : RootKind) (field : SelectedField) : Bool :=
  field.name != typenameField &&
    match interface.operation? field.name with
    | some operation => root.admits operation.kind
    | none => false

/-- The outcome of a root field that does not reach the executor. -/
def settled (interface : Interface) (root : RootKind) (field : SelectedField) :
    Except EngineError Json :=
  if field.name = typenameField then .ok (.string root.typeName)
  else match interface.operation? field.name with
    | none => .error (.argument (.unknownOperation field.name))
    | some _ => .error (.argument (.invalid field.key (.notARootField field.name root.typeName)))

section Runs

variable {σ : Type} (interface : Interface) (executor : Executor (StateM σ)) (root : RootKind)

/-- Carries out the operation of a root field. -/
def carryOut (field : SelectedField) : StateM σ (Except EngineError Json) :=
  interface.execute executor field.name field.arguments field.selection

/-- The state after the operations of root fields: those that reach the executor are carried out
in order, and each of them once. -/
def stateAfter (fields : Selection) (state : σ) : σ :=
  (fields.filter (reaches interface root)).foldl
    (fun state field => (carryOut interface executor field state).2) state

/-- The outcome of a root field in a state. -/
def outcomeOf (field : SelectedField) (state : σ) : Except EngineError Json :=
  if reaches interface root field then (carryOut interface executor field state).1
  else settled interface root field

/-- The outcomes of root fields, each in the state that the fields before it have left. -/
def outcomes : Selection -> σ -> List FieldOutcome
  | [], _ => []
  | field :: fields, state =>
      (field, outcomeOf interface executor root field state) ::
        outcomes fields (stateAfter interface executor root [field] state)

end Runs

/-- What the data of a response holds for an outcome. -/
def told : Except EngineError Json -> Json
  | .ok value => value
  | .error _ => .null

/-- The outcome of the last field of a key. -/
def lastOutcome? (key : String) (outcomes : List FieldOutcome) : Option (Except EngineError Json) :=
  (outcomes.reverse.find? fun outcome => outcome.1.key == key).map (·.2)

/-- The failing fields in order, each as its key and its error. -/
def failures (outcomes : List FieldOutcome) : List (String × EngineError) :=
  outcomes.filterMap fun outcome =>
    match outcome.2 with
    | .ok _ => none
    | .error fault => some (outcome.1.key, fault)

/-- The entry of a failing field: what went wrong, its code, and the key as the path. -/
def failureEntry (failure : String × EngineError) : Json :=
  .object
    [ ("message", .string failure.2.message),
      ("extensions", .object [("code", .string failure.2.code)]),
      ("path", .array [.string failure.1]) ]

/-- A response with the outcomes of fields added in order. -/
def Response.addAll (response : Response) (outcomes : List FieldOutcome) : Response :=
  outcomes.foldl (fun response outcome => response.add outcome.1.key outcome.2) response

/-- The body of a response, with its errors where there are some. -/
def Response.body (response : Response) : Json :=
  responseBody (.object response.data) response.errors

/-- A body tells outcomes.  Its data has the response keys, each at its first place and with the
outcome of its last field.  Its errors are those of the failing fields in order; they are absent
when no field has failed. -/
def Tells (outcomes : List FieldOutcome) (body : Json) : Prop :=
  ∃ data : JsonEntries,
    data.keys = responseKeys (outcomes.map (·.1)) ∧
      (∀ key, data.lookup key = (lastOutcome? key outcomes).map told) ∧
      body = .object (("data", .object data) ::
        if failures outcomes = [] then []
        else [("errors", .array ((failures outcomes).map failureEntry))])

section Sequence

variable {σ : Type} {interface : Interface} {executor : Executor (StateM σ)} {root : RootKind}

theorem stateAfter_cons (field : SelectedField) (fields : Selection) (state : σ) :
    stateAfter interface executor root (field :: fields) state =
      stateAfter interface executor root fields
        (stateAfter interface executor root [field] state) := by
  rw [stateAfter, stateAfter, stateAfter, List.filter_cons]
  by_cases isReached : reaches interface root field <;> simp [isReached]

theorem stateAfter_singleton (field : SelectedField) (state : σ) :
    stateAfter interface executor root [field] state =
      if reaches interface root field then (carryOut interface executor field state).2
      else state := by
  rw [stateAfter, List.filter_singleton]
  cases reaches interface root field <;> rfl

/-- A root field other than the name of the root ends with its outcome, in the state after it. -/
theorem executeRoot_eq
    {field : SelectedField}
    (isOther : field.name ≠ typenameField)
    (state : σ) :
    executeRoot interface executor root field state =
      (outcomeOf interface executor root field state,
        stateAfter interface executor root [field] state) := by
  rw [stateAfter_singleton, outcomeOf, settled, if_neg isOther, executeRoot, reaches,
    bne_iff_ne.2 isOther, Bool.true_and]
  cases interface.operation? field.name with
  | none => rfl
  | some operation =>
      dsimp only
      by_cases admitted : root.admits operation.kind = true
      · rw [if_pos admitted, if_pos admitted, if_pos admitted]
        rfl
      · rw [if_neg admitted, if_neg admitted, if_neg admitted]
        rfl

theorem executeFields_cons
    (response : Response)
    (field : SelectedField)
    (fields : Selection)
    (state : σ) :
    executeFields interface executor root response (field :: fields) state =
      executeFields interface executor root
        (response.add field.key (outcomeOf interface executor root field state)) fields
        (stateAfter interface executor root [field] state) := by
  rw [executeFields]
  by_cases isTypename : field.name = typenameField
  · have unreached : reaches interface root field = false := by
      rw [reaches, isTypename]
      rfl
    rw [if_pos isTypename, stateAfter_singleton, outcomeOf, settled, unreached, if_pos isTypename]
    rfl
  · rw [if_neg isTypename]
    simp only [bind, StateT.bind]
    rw [executeRoot_eq isTypename]

/-- Root fields that are carried out in order add their outcomes to the response. -/
theorem executeFields_eq
    (response : Response)
    (fields : Selection)
    (state : σ) :
    executeFields interface executor root response fields state =
      (response.addAll (outcomes interface executor root fields state),
        stateAfter interface executor root fields state) := by
  induction fields generalizing response state with
  | nil => rfl
  | cons field fields inductionHypothesis =>
      rw [executeFields_cons, inductionHypothesis, ← stateAfter_cons]
      rfl

/-- A request answers the outcomes of its root fields, and leaves the state after them. -/
theorem executeDocument_eq
    {request : DocumentRequest}
    {selection : RootSelection}
    (resolves : request.resolve = .ok selection)
    (state : σ) :
    executeDocument interface executor request state =
      ((Response.empty.addAll
          (outcomes interface executor selection.root selection.fields state)).body,
        stateAfter interface executor selection.root selection.fields state) := by
  unfold executeDocument
  simp only [resolves, bind, StateT.bind]
  rw [executeFields_eq]
  rfl

/-- There is one outcome for each root field. -/
theorem map_outcomes (fields : Selection) (state : σ) :
    (outcomes interface executor root fields state).map (·.1) = fields := by
  induction fields generalizing state with
  | nil => rfl
  | cons field fields inductionHypothesis =>
      rw [outcomes, List.map_cons, inductionHypothesis]

end Sequence

/-! ## What a response tells -/

/-- Adding outcomes gives their keys what is told of them, and adds an entry for each failure. -/
theorem addAll_eq (response : Response) (outcomes : List FieldOutcome) :
    response.addAll outcomes =
      ⟨(outcomes.map fun outcome => (outcome.1.key, told outcome.2)).foldl
          (fun data entry => data.set entry.1 entry.2) response.data,
        response.errors ++ (failures outcomes).map failureEntry⟩ := by
  induction outcomes generalizing response with
  | nil => simp [Response.addAll, failures]
  | cons outcome outcomes inductionHypothesis =>
      obtain ⟨field, outcome⟩ := outcome
      rw [Response.addAll, List.foldl_cons, ← Response.addAll, inductionHypothesis]
      cases outcome with
      | ok value => rfl
      | error fault =>
          rw [Response.add, List.append_assoc]
          rfl

/-- What is found for a key in the data is told by the last outcome of the key. -/
theorem lookup_told (key : String) (outcomes : List FieldOutcome) :
    List.lookup key (outcomes.map fun outcome => (outcome.1.key, told outcome.2)).reverse =
      (lastOutcome? key outcomes).map told := by
  rw [lastOutcome?, ← List.map_reverse]
  induction outcomes.reverse with
  | nil => rfl
  | cons outcome outcomes inductionHypothesis =>
      rw [List.map_cons, List.lookup_cons, List.find?_cons, BEq.comm]
      cases outcome.1.key == key with
      | true => rfl
      | false => exact inductionHypothesis

/-- The body that is made of added outcomes tells them. -/
theorem tells_body_addAll (outcomes : List FieldOutcome) :
    Tells outcomes (Response.empty.addAll outcomes).body := by
  rw [addAll_eq]
  refine ⟨JsonEntries.collapse (outcomes.map fun outcome => (outcome.1.key, told outcome.2)),
    ?_, ?_, ?_⟩
  · rw [JsonEntries.keys_collapse, JsonEntries.keys, List.map_map, responseKeys, List.map_map]
    rfl
  · intro key
    rw [JsonEntries.lookup_collapse, lookup_told]
  · simp only [Response.body, responseBody, Response.empty, List.nil_append, List.isEmpty_iff, List.map_eq_nil_iff]
    rfl

/-! ## What root fields change -/

section Frame

variable {σ : Type} {interface : Interface} {executor : Executor (StateM σ)} {root : RootKind}
variable {schema : Schema} {storeOf : σ -> Store} {table : String}

/-- Only operations of the mutation root ask for mutations, each for one of its table. -/
theorem mutation_of_compile
    {name : String}
    {arguments : JsonEntries}
    {selection : Selection}
    {operation : Operation}
    {compiled : CompiledOperation}
    {mutation : Mutation}
    (found : interface.operation? name = some operation)
    (compiles : interface.compile name arguments selection = .ok compiled)
    (requested : compiled.request = .mutate mutation) :
    operation.kind.isMutation = true ∧ mutation.table = operation.table := by
  obtain ⟨sameOperation, _⟩ := Interface.compile_operation found compiles
  obtain ⟨types, foundTypes, sameName, _⟩ := Interface.compile_mutate compiles requested
  rw [sameOperation] at foundTypes
  refine ⟨?_, sameName.trans (Interface.name_of_table? foundTypes)⟩
  by_contra isSelect
  obtain ⟨_, _, _, asksForRows, _⟩ :=
    Interface.compile_select found (Bool.eq_false_of_not_eq_true isSelect) compiles
  rw [requested] at asksForRows
  cases asksForRows

/-- An operation leaves the rows of every table that it does not name as one to be changed. -/
theorem rows_execute
    (keeps : executor.Keeps schema storeOf)
    {name : String}
    (spared : ∀ operation, interface.operation? name = some operation ->
      operation.kind.isMutation = true -> table ≠ operation.table)
    (arguments : JsonEntries)
    (selection : Selection)
    (state : σ) :
    (storeOf (interface.execute executor name arguments selection state).2).rows table =
      (storeOf state).rows table := by
  rw [Interface.execute]
  cases compiles : interface.compile name arguments selection with
  | error fault => rfl
  | ok compiled =>
      dsimp only [Interface.run]
      cases requested : compiled.request with
      | select query => exact congrArg (Store.rows · table) (keeps.select query state).2
      | mutate mutation =>
          obtain ⟨now, _, changed⟩ := keeps.mutate mutation state
          cases found : interface.operation? name with
          | none =>
              rw [Interface.compile, found] at compiles
              cases compiles
          | some operation =>
              obtain ⟨isMutation, sameTable⟩ := mutation_of_compile found compiles requested
              have different : table ≠ mutation.table := by
                rw [sameTable]
                exact spared operation found isMutation
              exact (congrArg (Store.rows · table) changed).trans
                ((Store.allOrNothing_apply schema now mutation _).others_unchanged table different)

/-- Root fields leave the rows of every table that none of those which reach the executor names as
one to be changed. -/
theorem rows_stateAfter
    (keeps : executor.Keeps schema storeOf)
    {fields : Selection}
    (spared : ∀ field ∈ fields, reaches interface root field = true ->
      ∀ operation, interface.operation? field.name = some operation ->
        operation.kind.isMutation = true -> table ≠ operation.table)
    (state : σ) :
    (storeOf (stateAfter interface executor root fields state)).rows table =
      (storeOf state).rows table := by
  induction fields generalizing state with
  | nil => rfl
  | cons field fields inductionHypothesis =>
      rw [List.forall_mem_cons] at spared
      rw [stateAfter_cons, inductionHypothesis spared.2, stateAfter_singleton]
      by_cases isReached : reaches interface root field = true
      · rw [if_pos isReached]
        exact rows_execute keeps (spared.1 isReached) _ _ _
      · rw [if_neg isReached]

/-- A field that reaches the executor names an operation that the root admits. -/
theorem admits_of_reaches
    {field : SelectedField}
    {operation : Operation}
    (isReached : reaches interface root field = true)
    (found : interface.operation? field.name = some operation) :
    root.admits operation.kind = true := by
  rw [reaches, found, Bool.and_eq_true] at isReached
  exact isReached.2

/-- A document runs its root fields in sequence.  The response tells their outcomes, the state is
the one after them, and rows are changed only in tables of mutations that fields name. -/
theorem runs_root_fields
    (keeps : executor.Keeps schema storeOf)
    {request : DocumentRequest}
    {selection : RootSelection}
    (resolves : request.resolve = .ok selection)
    (state : σ) :
    ∃ body,
      executeDocument interface executor request state =
          (body, stateAfter interface executor selection.root selection.fields state) ∧
        (outcomes interface executor selection.root selection.fields state).map (·.1) =
          selection.fields ∧
        Tells (outcomes interface executor selection.root selection.fields state) body ∧
        (selection.root = .query -> ∀ table,
          (storeOf (executeDocument interface executor request state).2).rows table =
            (storeOf state).rows table) ∧
        ∀ table,
          (storeOf (executeDocument interface executor request state).2).rows table ≠
              (storeOf state).rows table ->
            ∃ field ∈ selection.fields, ∃ operation,
              reaches interface selection.root field = true ∧
                interface.operation? field.name = some operation ∧
                operation.kind.isMutation = true ∧ operation.table = table := by
  have ran : executeDocument interface executor request state = _ :=
    executeDocument_eq resolves state
  refine ⟨_, ran, map_outcomes _ _, tells_body_addAll _, ?_, ?_⟩
  · intro isQuery table
    rw [ran]
    refine rows_stateAfter keeps ?_ state
    intro field _ isReached operation found isMutation
    have admitted := admits_of_reaches isReached found
    rw [isQuery, RootKind.admits, isMutation] at admitted
    cases admitted
  · intro table differs
    by_contra noneNames
    rw [ran] at differs
    refine differs (rows_stateAfter keeps ?_ state)
    intro field member isReached operation found isMutation sameTable
    exact noneNames ⟨field, member, operation, isReached, found, isMutation, sameTable.symm⟩

end Frame

/-! ## A document with failures -/

open Interface

/-- A document that deletes users and then asks for fields which the root does not have, the last
one under the key of the deletion. -/
def deletedUsers : DocumentRequest :=
  { text := "mutation \x7b __typename users: deleteFromUsers \x7b id \x7d posts users: missing \x7d" }

def deletedUsersFields : Selection :=
  [{ name := "__typename" },
    { name := "deleteFromUsers", label := some "users", selection := [{ name := "id" }] },
    { name := "posts" }, { name := "missing", label := some "users" }]

set_option maxRecDepth 8000 in
theorem resolve_deletedUsers : deletedUsers.resolve = .ok ⟨.mutation, deletedUsersFields⟩ := by
  cbv

theorem runs_root_fields_journal :
    ∃ interface body changed, generate journal {} = .ok interface ∧
      executeDocument interface (Store.executor journal default) deletedUsers firstPost =
        (body, changed) ∧
      Tells (outcomes interface (Store.executor journal default) .mutation deletedUsersFields
        firstPost) body ∧
      ((outcomes interface (Store.executor journal default) .mutation deletedUsersFields
        firstPost).map fun outcome => (outcome.1.key, outcome.2.toOption.isSome)) =
          [("__typename", true), ("users", true), ("posts", false), ("users", false)] ∧
      (changed.rows "users").length = 0 ∧ (changed.rows "posts").length = 1 := by
  have runs : ((generate journal {}).toOption.map fun interface =>
      ((outcomes interface (Store.executor journal default) .mutation deletedUsersFields
          firstPost).map (fun outcome => (outcome.1.key, outcome.2.toOption.isSome)),
        ["users", "posts"].map fun table => ((stateAfter interface (Store.executor journal default)
          .mutation deletedUsersFields firstPost).rows table).length)) =
      some ([("__typename", true), ("users", true), ("posts", false), ("users", false)],
        [0, 1]) := by
    decide +kernel
  obtain ⟨interface, generated, made⟩ := Option.map_eq_some_iff.1 runs
  rw [toOption_eq_some] at generated
  simp only [Prod.mk.injEq, List.map_cons, List.map_nil, List.cons.injEq, and_true] at made
  obtain ⟨body, ran, _, tells, _, _⟩ :=
    @runs_root_fields _ interface _ _ _ (Store.keeps_executor journal default) _ _
      resolve_deletedUsers firstPost
  exact ⟨interface, body, _, generated, ran, tells, made⟩

end Graphql
end RelationalApi
