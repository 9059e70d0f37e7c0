import RelationalApi.Proofs.Answer.Levels
import RelationalApi.Proofs.Request.ClientCalls

/-!
# Repeated fields

A relation that is selected several times is loaded for all of its fields, but what is answered
under a response key is what its last field selects.  So a select answers everything that is
requested at a level exactly where the last fields request it too.
-/

namespace RelationalApi

open Outcome

theorem requestedAt_nil (path : List String) : requestedAt path [] = [] := by
  induction path with
  | nil => rfl
  | cons key path inductionHypothesis => exact inductionHypothesis

/-- Nothing is requested below fields without fields of their own. -/
theorem requestedAt_leaves
    {selection : Selection}
    (leaves : ∀ field ∈ selection, field.selection = [])
    (key : String)
    (path : List String) :
    requestedAt (key :: path) selection = [] := by
  have noFields : (selection.filter fun field => field.key == key).flatMap (·.selection) = [] :=
    List.flatMap_eq_nil_iff.2 fun field member => leaves field (List.mem_of_mem_filter member)
  rw [requestedAt, noFields, requestedAt_nil]

/-- The arguments of a select are checked and sorted as such. -/
theorem OperationArguments.read_select_eq_ok
    {operation : Operation}
    {arguments : JsonEntries}
    {sorted : OperationArguments}
    (isSelect : operation.kind.isMutation = false) :
    OperationArguments.read operation arguments = .ok sorted ↔
      checkArguments operation.kind.argumentNames operation.name arguments = .ok () ∧
        ∃ given, SelectArguments.read operation.name arguments = .ok given ∧
          .select given = sorted := by
  rw [OperationArguments.read, check_bind_eq_ok]
  obtain ⟨kind, table⟩ := operation
  cases kind with
  | selectMany => simp only [bind_eq_ok, pure_eq_ok]
  | selectOne => simp only [bind_eq_ok, pure_eq_ok]
  | _ => cases isSelect

theorem OperationArguments.exists_select
    {operation : Operation}
    {arguments : JsonEntries}
    {sorted : OperationArguments}
    (isSelect : operation.kind.isMutation = false)
    (read : OperationArguments.read operation arguments = .ok sorted) :
    ∃ given, sorted = .select given := by
  obtain ⟨_, given, _, same⟩ := (read_select_eq_ok isSelect).1 read
  exact ⟨given, same.symm⟩

namespace Interface

variable {interface : Interface} {storage : Schema} {now : Timestamp} {store changed : Store}
variable {name : String} {operation : Operation} {arguments : JsonEntries} {selection : Selection}
variable {answer : Json} {compiled : CompiledOperation}

/-- Every select that succeeds answers all that is selected under any of the fields of a key. -/
def MergesFields (interface : Interface) : Prop :=
  ∀ (storage : Schema) (now : Timestamp) (name : String) (operation : Operation)
    (arguments : JsonEntries) (selection : Selection) (store changed : Store) (answer : Json),
    interface.operation? name = some operation -> operation.kind.isMutation = false ->
      interface.execute (Store.executor storage now) name arguments selection store
          = (.ok answer, changed) ->
        answer.Merges selection

/-- A select compiles where its arguments are sorted, its selection is pruned and its plan is
queried.  A select of one row asks for the first row alone. -/
theorem compile_select_eq_ok
    (found : interface.operation? name = some operation)
    (isSelect : operation.kind.isMutation = false) :
    interface.compile name arguments selection = .ok compiled ↔
      ∃ given types plan query,
        OperationArguments.read operation arguments = .ok (.select given) ∧
          interface.table? operation.table = some types ∧
          interface.prune (interface.topShape operation.table) operation.name selection
            = .ok plan ∧
          plan.toQuery interface types
            (if operation.kind = .selectOne then { given with limit := some 1 } else given) ""
            = .ok query ∧
          ⟨operation, .select query,
            if operation.kind = .selectOne then .single plan else .list plan⟩ = compiled := by
  have compiles : ∀ given types request response,
      interface.compileArguments types operation (.select given) selection
          = .ok (request, response) ↔
        ∃ plan query,
          interface.prune (interface.topShape operation.table) operation.name selection
              = .ok plan ∧
            plan.toQuery interface types
              (if operation.kind = .selectOne then { given with limit := some 1 } else given) ""
              = .ok query ∧
            .select query = request ∧
            (if operation.kind = .selectOne then .single plan else .list plan) = response := by
    intro given types request response
    rw [compileArguments, compileSelect]
    split <;> simp only [bind_eq_ok, pure_eq_ok, Prod.mk.injEq, exists_and_left]
  rw [compile, found]
  simp only [bind_eq_ok, pure_eq_ok, typesAt_eq_ok, Prod.exists]
  constructor
  · rintro ⟨sorted, read, types, isTable, request, response, compiled, same⟩
    obtain ⟨given, rfl⟩ := OperationArguments.exists_select isSelect read
    obtain ⟨plan, query, pruned, queried, rfl, rfl⟩ := (compiles _ _ _ _).1 compiled
    exact ⟨given, types, plan, query, read, isTable, pruned, queried, same⟩
  · rintro ⟨given, types, plan, query, read, isTable, pruned, queried, same⟩
    exact ⟨_, read, types, isTable, _, _,
      (compiles _ _ _ _).2 ⟨plan, query, pruned, queried, rfl, rfl⟩, same⟩

/-- A select asks for rows, which are laid out by the plan for its selection. -/
theorem compile_select
    (found : interface.operation? name = some operation)
    (isSelect : operation.kind.isMutation = false)
    (compiles : interface.compile name arguments selection = .ok compiled) :
    ∃ plan query,
      interface.prune (interface.topShape operation.table) operation.name selection = .ok plan ∧
        compiled.request = .select query ∧
        (compiled.response =
          if operation.kind = .selectOne then .single plan else .list plan) ∧
        ∃ types given, interface.table? operation.table = some types ∧
          plan.toQuery interface types given "" = .ok query := by
  obtain ⟨_, types, plan, query, _, isTable, pruned, queried, rfl⟩ :=
    (compile_select_eq_ok found isSelect).1 compiles
  exact ⟨plan, query, pruned, rfl, rfl, types, _, isTable, queried⟩

/-- The answer of a select is a layout of its selection, filled for rows. -/
theorem filled_of_execute
    (found : interface.operation? name = some operation)
    (isSelect : operation.kind.isMutation = false)
    (succeeded : interface.execute (Store.executor storage now) name arguments selection store
      = (.ok answer, changed)) :
    ∃ object, interface.LaysOut selection object ∧ interface.Filled object answer := by
  obtain ⟨compiled, compiles, ran⟩ := execute_eq_ok.1 succeeded
  obtain ⟨plan, query, pruned, requested, response, _⟩ := compile_select found isSelect compiles
  obtain ⟨_, rows, _, answered⟩ := (run_select requested).1 ran
  refine ⟨plan.output, laysOut_of_prune pruned, ?_⟩
  rw [response] at answered
  split at answered
  · rw [ResponsePlan.ofRows] at answered
    cases rows with
    | nil =>
        cases answered
        exact .absent
    | cons row rows => exact .single answered
  · rw [ResponsePlan.ofRows, fillRows, bind_eq_ok] at answered
    obtain ⟨items, fills, same⟩ := answered
    rw [pure_eq_ok] at same
    subst same
    exact .several fills

/-- The objects that a select answers at a path have exactly the keys that the last fields on the
path select there, so they show all that is requested there exactly where the last fields do.  Where
this is so at every path, the fields of each key are merged. -/
theorem answers_last_fields
    (found : interface.operation? name = some operation)
    (isSelect : operation.kind.isMutation = false)
    (succeeded : interface.execute (Store.executor storage now) name arguments selection store
      = (.ok answer, changed)) :
    (∀ path, lastAt path selection ≠ [] -> ∀ object ∈ answer.objectsAt path,
        (∃ entries, object = .object entries ∧
          JsonEntries.keys entries = responseKeys (lastAt path selection)) ∧
        ((∀ field ∈ requestedAt path selection, (object.get? field.key).isSome = true) ↔
          ∀ field ∈ requestedAt path selection,
            field.key ∈ responseKeys (lastAt path selection))) ∧
      ((∀ path, ∀ field ∈ requestedAt path selection,
          field.key ∈ responseKeys (lastAt path selection)) ->
        answer.Merges selection) := by
  obtain ⟨layout, laidOut, filled⟩ := filled_of_execute found isSelect succeeded
  have hasKey : ∀ {path object}, lastAt path selection ≠ [] -> object ∈ answer.objectsAt path ->
      ∀ key, (object.get? key).isSome = true ↔ key ∈ responseKeys (lastAt path selection) := by
    intro path object selects member key
    obtain ⟨entries, rfl, keys⟩ := keys_objectsAt laidOut filled selects member
    rw [← keys, ← JsonEntries.isSome_lookup_iff]
    rfl
  constructor
  · intro path selects object member
    refine ⟨keys_objectsAt laidOut filled selects member, ?_⟩
    simp only [hasKey selects member]
  · intro covered path object member field requested
    have isLast := covered path field requested
    have selects : lastAt path selection ≠ [] := by
      obtain ⟨last, lastMember, _⟩ := mem_responseKeys.1 isLast
      exact List.ne_nil_of_mem lastMember
    exact (hasKey selects member field.key).2 isLast

/-- Users and their posts. -/
def journal : Schema :=
  ((Schema.empty.withTable
    { name := "users"
      columns := [{ name := "id", kind := .integer 32 false, primaryKey := true }] }).withTable
    { name := "posts"
      columns :=
        [ { name := "id", kind := .integer 32 false, primaryKey := true },
          { name := "user_id", kind := .integer 32 false },
          { name := "title", kind := .text none } ] }).withRelation
    { name := "posts", source := "users", target := "posts", cardinality := .many
      fromColumn := some "id", toColumn := some "user_id" }

/-- One user with one post. -/
def firstPost : Store :=
  ⟨[("users", [[⟨"id", .int 1⟩]]),
    ("posts", [[⟨"id", .int 10⟩, ⟨"user_id", .int 1⟩, ⟨"title", .string "hello"⟩]])]⟩

/-- The posts of users, selected once for each list of columns. -/
def postFields (columns : List (List String)) : Selection :=
  columns.map fun names =>
    { name := "posts", selection := names.map fun column => { name := column } }

/-- What a select of posts answers, and the keys of the posts in it. -/
def selectPosts (interface : Interface) (columns : List (List String)) :
    Except EngineError Json :=
  (interface.execute (Store.executor journal default) "users" [] (postFields columns) firstPost).1

def postKeys (answer : Json) : List (List String) :=
  (answer.objectsAt ["posts"]).filterMap fun object => object.object?.map JsonEntries.keys

theorem selectPosts_journal :
    ∃ interface, generate journal {} = .ok interface ∧
      interface.operation? "users" = some ⟨.selectMany, "users"⟩ ∧
      (∃ answer, interface.selectPosts [["id"], ["title", "id"]] = .ok answer ∧
        postKeys answer = [["title", "id"]]) ∧
      (∃ answer, interface.selectPosts [["id"], ["title"]] = .ok answer ∧
        postKeys answer = [["title"]]) ∧
      ∃ answer, interface.selectPosts [["id", "title"]] = .ok answer ∧
        postKeys answer = [["id", "title"]] := by
  have runs : ((generate journal {}).toOption.map fun interface =>
      (interface.operation? "users",
        [[["id"], ["title", "id"]], [["id"], ["title"]], [["id", "title"]]].map fun columns =>
          (interface.selectPosts columns).toOption.map postKeys)) =
      some (some ⟨.selectMany, "users"⟩,
        [some [["title", "id"]], some [["title"]], some [["id", "title"]]]) := by
    decide +kernel
  obtain ⟨interface, generated, made⟩ := Option.map_eq_some_iff.1 runs
  rw [toOption_eq_some] at generated
  simp only [Prod.mk.injEq, List.map_cons, List.map_nil, List.cons.injEq, and_true,
    Option.map_eq_some_iff, toOption_eq_some] at made
  exact ⟨interface, generated, made⟩

/-- The second selection of the posts covers the first one, and nothing is selected below. -/
theorem covered_postFields (path : List String) :
    ∀ field ∈ requestedAt path (postFields [["id"], ["title", "id"]]),
      field.key ∈ responseKeys (lastAt path (postFields [["id"], ["title", "id"]])) := by
  cases path with
  | nil => exact fun field member => mem_responseKeys.2 ⟨field, member, rfl⟩
  | cons key path =>
      have below : ∀ field ∈ ((postFields [["id"], ["title", "id"]]).filter
          fun field => field.key == key).flatMap (·.selection),
          key = "posts" ∧ field.selection = [] ∧ field.key ∈ ["title", "id"] := by
        intro field member
        obtain ⟨posts, isPosts, isField⟩ := List.mem_flatMap.1 member
        obtain ⟨isListed, isKey⟩ := List.mem_filter.1 isPosts
        simp only [postFields, List.map_cons, List.map_nil, List.mem_cons, List.not_mem_nil,
          or_false] at isListed
        rcases isListed with rfl | rfl
        · rw [List.mem_singleton] at isField
          subst isField
          exact ⟨(beq_iff_eq.1 isKey).symm, rfl, by decide⟩
        · simp only [List.mem_cons, List.not_mem_nil, or_false] at isField
          rcases isField with rfl | rfl
          · exact ⟨(beq_iff_eq.1 isKey).symm, rfl, by decide⟩
          · exact ⟨(beq_iff_eq.1 isKey).symm, rfl, by decide⟩
      cases path with
      | nil =>
          intro field member
          obtain ⟨rfl, _, isCovered⟩ := below field member
          exact isCovered
      | cons inner path =>
          rw [requestedAt, requestedAt_leaves fun field member => (below field member).2.1]
          simp

theorem answers_last_fields_journal :
    ∃ interface answer, generate journal {} = .ok interface ∧
      interface.selectPosts [["id"], ["title", "id"]] = .ok answer ∧
      postKeys answer = [["title", "id"]] ∧
      answer.Merges (postFields [["id"], ["title", "id"]]) := by
  obtain ⟨interface, generated, found, ⟨answer, answered, keys⟩, _⟩ := selectPosts_journal
  exact ⟨interface, answer, generated, answered, keys,
    (answers_last_fields found rfl (Prod.ext answered rfl)).2 covered_postFields⟩

/-- Where the last field of a relation omits a column, the column is dropped, so selecting the
relation twice is answered otherwise than selecting it once for both columns. -/
theorem not_mergesFields_journal :
    ∃ interface twice once, generate journal {} = .ok interface ∧
      interface.selectPosts [["id"], ["title"]] = .ok twice ∧
      interface.selectPosts [["id", "title"]] = .ok once ∧
      twice ≠ once ∧ ¬interface.MergesFields := by
  obtain ⟨interface, generated, found, _, ⟨twice, answeredTwice, keysTwice⟩, once, answeredOnce,
    keysOnce⟩ := selectPosts_journal
  refine ⟨interface, twice, once, generated, answeredTwice, answeredOnce, ?_, ?_⟩
  · rintro rfl
    rw [keysTwice] at keysOnce
    exact absurd keysOnce (by decide)
  · intro mergesFields
    have merges := mergesFields journal default "users" _ [] _ firstPost _ twice found rfl
      (Prod.ext answeredTwice rfl)
    have isListed : ["title"] ∈ postKeys twice := by
      rw [keysTwice]
      exact List.mem_singleton_self _
    obtain ⟨object, member, keys⟩ := List.mem_filterMap.1 isListed
    obtain ⟨entries, isObject, sameKeys⟩ := Option.map_eq_some_iff.1 keys
    have isRequested : ({ name := "id" } : SelectedField) ∈
        requestedAt ["posts"] (postFields [["id"], ["title"]]) := List.mem_cons_self
    have present := merges ["posts"] object member _ isRequested
    rw [Json.get?, isObject, Option.bind_some, JsonEntries.isSome_lookup_iff, sameKeys] at present
    exact absurd present (by decide)

end Interface
end RelationalApi
