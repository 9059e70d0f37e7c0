import RelationalApi.Proofs.Request.ColumnCalls
import RelationalApi.Proofs.Request.SiblingFields
import RelationalApi.Proofs.Storage.Nesting

/-!
# Selects of one row

Every table has a select of many rows and a select of one.  The select of one takes no limit, asks
for the first row alone, and shows it without a list.  Both take the same other arguments and the
same selections, and the select of one answers the first item of what the select of many answers,
or null where there is none.
-/

namespace RelationalApi

open Outcome

section Arguments

variable {arguments : JsonEntries} {path otherPath name : String} {given : SelectArguments}

theorem toOption_readCount :
    (readCount arguments path name).toOption = (readCount arguments otherPath name).toOption := by
  rw [readCount, readCount]
  cases given? arguments name with
  | none => rfl
  | some document =>
      dsimp only
      cases document.nat? <;> rfl

/-- Arguments are sorted alike at every path. -/
theorem SelectArguments.read_eq_ok_iff :
    SelectArguments.read path arguments = .ok given ↔
      SelectArguments.read otherPath arguments = .ok given := by
  simp only [← toOption_eq_some, SelectArguments.read, toOption_bind, toOption_pure,
    @toOption_readCount arguments path otherPath]

/-- A limit that is not given is absent. -/
theorem SelectArguments.limit_of_read
    (noLimit : given? arguments "limit" = none)
    (read : SelectArguments.read path arguments = .ok given) :
    given.limit = none := by
  simp only [SelectArguments.read, bind_eq_ok, pure_eq_ok] at read
  obtain ⟨offset, _, limit, readLimit, rfl⟩ := read
  rw [readCount, noLimit] at readLimit
  exact (Except.ok.inj readLimit).symm

end Arguments

namespace Store

variable {schema : Schema} {store : Store} {query : SelectQuery} {rows : List Row}

/-- Without a limit, a query for one row selects the first row that the query selects. -/
theorem selected_one
    (noLimit : query.limit = none)
    (candidates : List StoredRow) :
    selected { query with limit := some 1 } candidates = (selected query candidates).take 1 := by
  rw [selected, selected, noLimit]
  rfl

theorem select_one
    (noLimit : query.limit = none)
    (selects : store.select schema query = .ok rows) :
    store.select schema { query with limit := some 1 } = .ok (rows.take 1) := by
  obtain ⟨known, returned⟩ := selectFrom_eq_ok.1 selects
  refine selectFrom_eq_ok.2 ⟨known, ?_⟩
  rw [selected_one noLimit]
  exact List.forall₂_take 1 returned

end Store

namespace Interface

variable {interface : Interface} {schema storage : Schema} {config : EngineConfig} {table : Table}
variable {now : Timestamp} {store changed : Store} {arguments : JsonEntries} {selection : Selection}
variable {types : TableTypes} {plan : SelectionPlan} {given : SelectArguments}
variable {query : SelectQuery} {answer : Json}

/-- The limit of a select only is the limit of its query. -/
theorem toQuery_limit {limit : Option Nat} {path : String} :
    plan.toQuery interface types { given with limit := limit } path = .ok query ↔
      ∃ unlimited, plan.toQuery interface types given path = .ok unlimited ∧
        { unlimited with limit := limit } = query := by
  simp only [toQuery_eq_ok]
  constructor
  · rintro ⟨filter, orderBy, includes, filters, orders, queried, rfl⟩
    exact ⟨_, ⟨filter, orderBy, includes, filters, orders, queried, rfl⟩, rfl⟩
  · rintro ⟨_, ⟨filter, orderBy, includes, filters, orders, queried, rfl⟩, rfl⟩
    exact ⟨filter, orderBy, includes, filters, orders, queried, rfl⟩

theorem fillFirst_take
    {layout : ObjectOutput}
    {rows : List Row}
    {items : List Json}
    (fills : rows.mapM (fillObject interface layout) = .ok items) :
    fillFirst interface layout (rows.take 1) = .ok (items.head?.getD .null) := by
  cases mapM_eq_ok.1 fills with
  | nil => rfl
  | cons first _ => exact first

/-- The arguments that a select of one row takes are sorted for it as for a select of many rows. -/
theorem read_selectOne
    (taken : ∀ argument ∈ arguments, argument.1 ∈ OperationKind.selectOne.argumentNames) :
    OperationArguments.read ⟨.selectOne, table.name⟩ arguments = .ok (.select given) ↔
      OperationArguments.read ⟨.selectMany, table.name⟩ arguments = .ok (.select given) := by
  have takenByMany : ∀ argument ∈ arguments,
      argument.1 ∈ OperationKind.selectMany.argumentNames := by
    intro argument member
    have isTaken := taken argument member
    simp only [OperationKind.argumentNames, List.mem_cons] at isTaken ⊢
    tauto
  rw [OperationArguments.read_select_eq_ok rfl, OperationArguments.read_select_eq_ok rfl,
    checkArguments_eq_ok, checkArguments_eq_ok, and_iff_right taken, and_iff_right takenByMany]
  simp only [OperationArguments.select.injEq, exists_eq_right]
  exact SelectArguments.read_eq_ok_iff

/-- A select of one row compiles where the select of many rows does, to its query for one row. -/
theorem Represents.compile_selectOne_eq_ok
    (represents : interface.Represents schema config)
    (member : table ∈ schema.tables)
    (taken : ∀ argument ∈ arguments, argument.1 ∈ OperationKind.selectOne.argumentNames)
    {compiled : CompiledOperation} :
    interface.compile (OperationKind.selectOne.operationName table.name) arguments selection
        = .ok compiled ↔
      ∃ query plan,
        interface.compile (OperationKind.selectMany.operationName table.name) arguments selection
          = .ok ⟨⟨.selectMany, table.name⟩, .select query, .list plan⟩ ∧
        ⟨⟨.selectOne, table.name⟩, .select { query with limit := some 1 }, .single plan⟩
          = compiled := by
  rw [compile_select_eq_ok (represents.operation?_name member .selectOne) rfl]
  simp only [compile_selectMany_eq_ok (represents.operation?_name member .selectMany) rfl,
    if_true, read_selectOne taken, toQuery_limit]
  constructor
  · rintro ⟨given, types, plan, _, read, isTable, pruned, ⟨query, queried, rfl⟩, same⟩
    exact ⟨query, plan,
      ⟨given, types, plan, query, read, isTable, prune_eq_ok_iff.1 pruned, queried, rfl⟩, same⟩
  · rintro ⟨query, plan, ⟨given, types, _, _, read, isTable, pruned, queried, listed⟩, same⟩
    cases listed
    exact ⟨given, types, plan, _, read, isTable, prune_eq_ok_iff.1 pruned, ⟨query, queried, rfl⟩,
      same⟩

/-- Where the select of many rows succeeds without a limit, the select of one row answers the first
item. -/
theorem Represents.execute_selectOne
    (represents : interface.Represents schema config)
    (member : table ∈ schema.tables)
    (taken : ∀ argument ∈ arguments, argument.1 ∈ OperationKind.selectOne.argumentNames)
    (succeeded : interface.execute (Store.executor storage now)
        (OperationKind.selectMany.operationName table.name) arguments selection store
      = (.ok answer, changed)) :
    ∃ items, answer = .array items ∧
      interface.execute (Store.executor storage now)
          (OperationKind.selectOne.operationName table.name) arguments selection store
        = (.ok (items.head?.getD .null), store) := by
  obtain ⟨rfl, given, types, plan, query, rows, items, read, isTable, pruned, queried, selects,
    fills, rfl⟩ := (execute_selectMany_eq_ok
      (represents.operation?_name member .selectMany) rfl).1 succeeded
  have noLimit : query.limit = none := by
    have notGiven : given? arguments "limit" = none := by
      refine given?_of_absent fun argument isArgument isNamed => ?_
      exact absurd (isNamed ▸ taken argument isArgument) (by decide)
    obtain ⟨_, _, readSelect, same⟩ := (OperationArguments.read_select_eq_ok rfl).1 read
    cases same
    obtain ⟨_, _, _, _, _, _, rfl⟩ := toQuery_eq_ok.1 queried
    exact SelectArguments.limit_of_read notGiven readSelect
  have compiles := (compile_selectMany_eq_ok
    (represents.operation?_name member .selectMany) rfl).2
      ⟨given, types, plan, query, read, isTable, pruned, queried, rfl⟩
  have compilesOne := (represents.compile_selectOne_eq_ok member taken).2
    ⟨query, plan, compiles, rfl⟩
  exact ⟨items, rfl, execute_eq_ok.2 ⟨_, compilesOne, (run_select rfl).2
    ⟨rfl, rows.take 1, Store.select_one noLimit selects, fillFirst_take fills⟩⟩⟩

/-- The select of one row of a table accepts a selection and arguments without a limit exactly where
the select of many rows does.  If the select of many rows answers a list, the select of one row
answers its first item, or null where the list is empty. -/
theorem selectOne_answers_head
    (generated : generate schema config = .ok interface)
    (member : table ∈ schema.tables)
    (taken : ∀ argument ∈ arguments, argument.1 ∈ ["offset", "orderBy", "where"]) :
    ((∃ compiled, interface.compile (OperationKind.selectMany.operationName table.name) arguments
        selection = .ok compiled) ↔
      ∃ compiled, interface.compile (OperationKind.selectOne.operationName table.name) arguments
        selection = .ok compiled) ∧
    ∀ storage now store answer changed,
      interface.execute (Store.executor storage now)
          (OperationKind.selectMany.operationName table.name) arguments selection store
        = (.ok answer, changed) ->
      ∃ items, answer = .array items ∧
        interface.execute (Store.executor storage now)
            (OperationKind.selectOne.operationName table.name) arguments selection store
          = (.ok (items.head?.getD .null), store) := by
  have represents := represents_of_generate generated
  refine ⟨?_, fun _ _ _ _ _ => represents.execute_selectOne member taken⟩
  constructor
  · rintro ⟨compiled, compiles⟩
    obtain ⟨_, _, plan, query, _, _, _, _, rfl⟩ := (compile_selectMany_eq_ok
      (represents.operation?_name member .selectMany) rfl).1 compiles
    exact ⟨_, (represents.compile_selectOne_eq_ok member taken).2 ⟨query, plan, compiles, rfl⟩⟩
  · rintro ⟨compiled, compiles⟩
    obtain ⟨query, plan, compilesMany, _⟩ :=
      (represents.compile_selectOne_eq_ok member taken).1 compiles
    exact ⟨_, compilesMany⟩

/-- All books but the last one, beginning with the later ones. -/
def earlierBooks : JsonEntries :=
  [("orderBy", .object [("id", .string "desc")]), ("offset", .int 1)]

/-- Books with their authors, and all books of these. -/
def booksOfAuthors : Selection :=
  [⟨"id", none, [], []⟩,
    ⟨"author", none, [],
      [⟨"id", none, [], []⟩, ⟨"books", none, [], [⟨"id", none, [], []⟩]⟩]⟩]

theorem selectOne_answers_head_library :
    ∃ interface items, generate Store.library {} = .ok interface ∧
      (interface.execute (Store.executor Store.library default)
          (OperationKind.selectMany.operationName "books") earlierBooks booksOfAuthors
          Store.shelf).1 = .ok (.array items) ∧
      items.length = 2 ∧
      interface.execute (Store.executor Store.library default)
          (OperationKind.selectOne.operationName "books") earlierBooks booksOfAuthors Store.shelf
        = (.ok (items.head?.getD .null), Store.shelf) := by
  have runs : ((generate Store.library {}).toOption.map fun interface =>
      (interface.execute (Store.executor Store.library default)
        (OperationKind.selectMany.operationName "books") earlierBooks booksOfAuthors
        Store.shelf).1.toOption.bind fun answer => answer.array?.map List.length) =
      some (some 2) := by
    decide +kernel
  have isTable : "books" ∈ Store.library.tables.map (·.name) := by
    decide +kernel
  obtain ⟨books, member, isNamed⟩ := List.mem_map.1 isTable
  obtain ⟨interface, generated, answers⟩ := Option.map_eq_some_iff.1 runs
  rw [toOption_eq_some] at generated
  obtain ⟨answer, answered, length⟩ := Option.bind_eq_some_iff.1 answers
  rw [toOption_eq_some] at answered
  obtain ⟨_, answersHead⟩ := @selectOne_answers_head _ _ _ _ earlierBooks booksOfAuthors generated
    member (by decide)
  rw [isNamed] at answersHead
  obtain ⟨items, rfl, answeredOne⟩ :=
    answersHead Store.library default Store.shelf answer _ (Prod.ext answered rfl)
  rw [Json.array?, Option.map_some, Option.some.injEq] at length
  exact ⟨interface, items, generated, answered, length, answeredOne⟩

end Interface
end RelationalApi
