import RelationalApi.Proofs.Request.ColumnCalls

/-!
# Mutations between selects

What a mutation answers is what selects of the same columns show.  The answer of an insert is what a
later select shows in addition, the answer of a delete is what it no longer shows, and the answer of
an update is what it shows at the positions of the matched rows.
-/

namespace RelationalApi

open Outcome

/-- Whether the condition among the arguments of an operation holds on a row of a table. -/
def Interface.conditionHolds (interface : Interface) (table : String) (arguments : JsonEntries)
    (row : StoredRow) : Bool :=
  match interface.table? table with
  | none => false
  | some types =>
    match compileWhere types.columns "where" (whereOf arguments) with
    | .ok filter => Filter.accepts filter row
    | .error _ => false

/-- Two selects of all rows of a table with a mutation of the table between them, all of which
succeed. -/
structure Observed (interface : Interface) (storage : Schema) (table : String)
    (selection : Selection) (kind : OperationKind) where
  arguments : JsonEntries
  before : Json
  answer : Json
  after : Json
  initial : Store
  current : Store
  changed : Store
  final : Store
  times : Timestamp × Timestamp × Timestamp
  selectedBefore :
    interface.execute (Store.executor storage times.1)
      (OperationKind.selectMany.operationName table) [] selection initial = (.ok before, current)
  mutated :
    interface.execute (Store.executor storage times.2.1)
      (kind.operationName table) arguments selection current = (.ok answer, changed)
  selectedAfter :
    interface.execute (Store.executor storage times.2.2)
      (OperationKind.selectMany.operationName table) [] selection changed = (.ok after, final)

namespace Observed

variable {interface : Interface} {schema storage : Schema} {config : EngineConfig} {table : Table}
variable {types : TableTypes} {name : String} {selection : Selection} {kind : OperationKind}

/-- Which of the rows before the mutation its condition holds on. -/
def marks (observed : Observed interface storage name selection kind) : List Bool :=
  (observed.current.rows name).map (interface.conditionHolds name observed.arguments)

/-- The answer of an insert is shown behind what was shown before, item by item for the rows. -/
def Appends (observed : Observed interface storage name selection .insertMany) : Prop :=
  ∃ shown added, observed.before = .array shown ∧ observed.answer = .array added ∧
    observed.after = .array (shown ++ added) ∧
    shown.length = (observed.current.rows name).length ∧
    (shown ++ added).length = (observed.changed.rows name).length

/-- The answer of a delete is what was shown at the matched positions, and what a select under the
same condition shows before; after it, such a select shows nothing, and the select of all rows what
was shown at the other positions. -/
def Removes (observed : Observed interface storage name selection .delete) : Prop :=
  (∃ shown, observed.before = .array shown ∧ observed.marks.length = shown.length ∧
    observed.answer = .array (marked observed.marks shown) ∧
    observed.after = .array (marked (observed.marks.map (!·)) shown)) ∧
  ∀ now,
    interface.execute (Store.executor storage now) (OperationKind.selectMany.operationName name)
        observed.arguments selection observed.current = (.ok observed.answer, observed.current) ∧
      interface.execute (Store.executor storage now) (OperationKind.selectMany.operationName name)
        observed.arguments selection observed.changed = (.ok (.array []), observed.changed)

/-- The answer of an update is what is shown after it at the matched positions.  What is shown at
other positions stays, and at the matched ones it can change only under keys of columns that are
assigned to. -/
def Patches (observed : Observed interface storage name selection .update) : Prop :=
  ∃ shown patched assignments, observed.before = .array shown ∧ observed.after = .array patched ∧
    given? observed.arguments "set" = some (.object assignments) ∧
    patched.length = shown.length ∧ observed.marks.length = shown.length ∧
    observed.answer = .array (marked observed.marks patched) ∧
    ∀ (position : Nat) (earlier later : Json), shown[position]? = some earlier ->
      patched[position]? = some later ->
        (observed.marks[position]? = some false -> later = earlier) ∧
        ∀ key, (∀ field ∈ selection, field.key = key ->
            field.name ∉ JsonEntries.keys assignments) ->
          later.get? key = earlier.get? key

theorem conditionHolds_eq
    {arguments : JsonEntries}
    {filter : Option Filter}
    (found : interface.table? name = some types)
    (compiled : compileWhere types.columns "where" (whereOf arguments) = .ok filter) :
    interface.conditionHolds name arguments = Filter.accepts filter := by
  funext row
  rw [Interface.conditionHolds, found]
  dsimp only
  rw [compiled]

/-- What the selects before and after a mutation show. -/
theorem shows
    (represents : interface.Represents schema config)
    (member : table ∈ schema.tables)
    (found : interface.table? table.name = some types)
    (hasFields : table.HasFields selection)
    (observed : Observed interface storage table.name selection kind) :
    interface.ShowsRows types selection (observed.current.rows types.name) observed.before ∧
      interface.ShowsRows types selection (observed.changed.rows types.name) observed.after ∧
      Leaves selection ∧
      ∃ stored, storage.table? types.name = some stored ∧
        Store.checkColumns stored (loadedColumns types.identity selection) = .ok () := by
  have noCondition : OnlyWhere [] := fun argument member => absurd member List.not_mem_nil
  have allRows : ∀ rows : List StoredRow, rows.filter (Filter.accepts none) = rows := fun rows =>
    List.filter_eq_self.2 fun row _ => Filter.accepts_none row
  have noFilter : compileWhere types.columns "where" (whereOf []) = .ok none := by
    rw [whereOf]
    exact compileWhere.eq_1 _ _
  obtain ⟨kept, leaves, known, filter, compiled, showsBefore⟩ :=
    (represents.execute_selectMany member found hasFields noCondition).1 observed.selectedBefore
  obtain ⟨_, _, _, filterAfter, compiledAfter, showsAfter⟩ :=
    (represents.execute_selectMany member found hasFields noCondition).1 observed.selectedAfter
  rw [noFilter, Except.ok.injEq] at compiled compiledAfter
  rw [← compiled, allRows, kept] at showsBefore
  rw [← compiledAfter, allRows] at showsAfter
  exact ⟨showsBefore, showsAfter, leaves, known⟩

section

variable (represents : interface.Represents schema config)
variable (configured : config.mutationResponse = .returning) (member : table ∈ schema.tables)
variable (hasFields : table.HasFields selection)

include represents configured member hasFields

theorem appends (observed : Observed interface storage table.name selection .insertMany) :
    observed.Appends := by
  obtain ⟨types, _, _, found⟩ := represents.exists_table? member
  obtain ⟨⟨shown, showsBefore, isBefore⟩, ⟨all, showsAfter, isAfter⟩, _⟩ :=
    observed.shows represents member found hasFields
  obtain ⟨rows, stored, added, showsAdded, isAnswer⟩ :=
    represents.execute_insertMany configured member found hasFields observed.mutated
  have sameName : types.name = table.name := Interface.name_of_table? found
  have rowsBefore := (mapM_eq_ok.1 showsBefore).length_eq
  have rowsAfter := (mapM_eq_ok.1 showsAfter).length_eq
  rw [sameName] at rowsBefore rowsAfter
  rw [stored, List.mapM_append, showsBefore, showsAdded] at showsAfter
  have isAppended : shown ++ added = all := Except.ok.inj showsAfter
  refine ⟨shown, added, isBefore.symm, isAnswer.symm, ?_, rowsBefore.symm, ?_⟩
  · rw [isAppended, isAfter]
  · rw [isAppended, rowsAfter]

theorem removes (observed : Observed interface storage table.name selection .delete) :
    observed.Removes := by
  obtain ⟨types, _, _, found⟩ := represents.exists_table? member
  obtain ⟨⟨shown, showsBefore, isBefore⟩, ⟨kept, showsAfter, isAfter⟩, leaves, known⟩ :=
    observed.shows represents member found hasFields
  obtain ⟨onlyWhere, filter, compiled, stored, removed, showsRemoved, isAnswer⟩ :=
    represents.execute_delete configured member found hasFields observed.mutated
  have sameName : types.name = table.name := Interface.name_of_table? found
  have isMarks : observed.marks =
      (observed.current.rows types.name).map (Filter.accepts filter) := by
    rw [marks, conditionHolds_eq found compiled, sameName]
  refine ⟨⟨shown, isBefore.symm, ?_, ?_, ?_⟩, fun now => ⟨?_, ?_⟩⟩
  · rw [isMarks, List.length_map]
    exact (mapM_eq_ok.1 showsBefore).length_eq
  · rw [filter_marked showsBefore] at showsRemoved
    rw [← isAnswer, isMarks, ← Except.ok.inj showsRemoved]
  · rw [stored, filter_marked showsBefore] at showsAfter
    rw [← isAfter, isMarks, List.map_map, ← Except.ok.inj showsAfter]
    rfl
  · exact (represents.execute_selectMany member found hasFields onlyWhere).2
      ⟨rfl, leaves, known, filter, compiled, removed, showsRemoved, isAnswer⟩
  · refine (represents.execute_selectMany member found hasFields onlyWhere).2
      ⟨rfl, leaves, known, filter, compiled, [], ?_, rfl⟩
    rw [stored, List.filter_filter]
    simp only [Bool.and_not_self, List.filter_false]
    rfl

theorem patches (observed : Observed interface storage table.name selection .update) :
    observed.Patches := by
  obtain ⟨types, _, _, found⟩ := represents.exists_table? member
  obtain ⟨⟨shown, showsBefore, isBefore⟩, ⟨patched, showsAfter, isAfter⟩, _⟩ :=
    observed.shows represents member found hasFields
  obtain ⟨entries, statement, isSet, compiled, assigned, stored, affected, showsAffected,
    isAnswer⟩ := represents.execute_update configured member found hasFields observed.mutated
  have sameName : types.name = table.name := Interface.name_of_table? found
  have isMarks : observed.marks =
      (Store.updateMatched statement (observed.current.rows types.name)).map (·.1) := by
    rw [marks, conditionHolds_eq found compiled, sameName, Store.updateMatched_eq_map,
      List.map_map]
    rfl
  rw [stored] at showsAfter
  have sameAnswer := (mapM_marked showsAfter).symm.trans showsAffected
  rw [Except.ok.injEq] at sameAnswer
  have beforeRows := mapM_eq_ok.1 showsBefore
  have afterRows := mapM_eq_ok.1 showsAfter
  have sameLength : patched.length = shown.length := by
    rw [← beforeRows.length_eq, ← afterRows.length_eq, Store.updateMatched_eq_map, List.length_map,
      List.length_map]
  refine ⟨shown, patched, entries, isBefore.symm, isAfter.symm, isSet, sameLength, ?_, ?_, ?_⟩
  · rw [isMarks, ← sameLength, ← afterRows.length_eq, List.length_map, List.length_map]
  · rw [isMarks, sameAnswer, isAnswer]
  · intro position earlier later isEarlier isLater
    obtain ⟨row, isRow, showsRow⟩ := exists_item_at beforeRows isEarlier
    obtain ⟨updated, isUpdated, showsUpdated⟩ := exists_item_at afterRows isLater
    rw [Store.updateMatched_eq_map, List.map_map, List.getElem?_map, isRow] at isUpdated
    cases isUpdated
    -- Both answers show the same stored row at this position, before and after its assignments.
    refine ⟨fun notMatched => ?_, fun key notAssigned => ?_⟩
    · rw [isMarks, Store.updateMatched_eq_map, List.map_map, List.getElem?_map, isRow]
        at notMatched
      have rejected : Filter.accepts statement.filter row = false := Option.some.inj notMatched
      change interface.showRow types selection (Store.updatedRow statement row) = _ at showsUpdated
      rw [Store.updatedRow, rejected] at showsUpdated
      exact Except.ok.inj (showsUpdated.symm.trans showsRow)
    · refine Interface.get?_showRow ?_ showsUpdated showsRow
      intro field fieldMember isKey
      refine Store.fieldValue?_updatedRow row fun assignment assignmentMember same => ?_
      exact notAssigned field fieldMember isKey (same ▸ assigned assignment assignmentMember)

end

/-- In every interface whose mutations answer rows, mutations between selects of the same columns
answer what the selects show. -/
theorem agrees_with_selects
    (generated : Interface.generate schema config = .ok interface)
    (configured : config.mutationResponse = .returning)
    (member : table ∈ schema.tables)
    (hasFields : table.HasFields selection)
    (storage : Schema) :
    (∀ observed : Observed interface storage table.name selection .insertMany,
        observed.Appends) ∧
      (∀ observed : Observed interface storage table.name selection .delete, observed.Removes) ∧
      ∀ observed : Observed interface storage table.name selection .update, observed.Patches := by
  have represents := Interface.represents_of_generate generated
  exact ⟨appends represents configured member hasFields,
    removes represents configured member hasFields,
    patches represents configured member hasFields⟩

/-- Carries out the three calls, if they succeed. -/
def ofCalls? (interface : Interface) (storage : Schema) (table : String) (selection : Selection)
    (kind : OperationKind) (arguments : JsonEntries) (initial : Store) :
    Option (Observed interface storage table selection kind) :=
  match selectedBefore : interface.execute (Store.executor storage default)
      (OperationKind.selectMany.operationName table) [] selection initial with
  | (.error _, _) => none
  | (.ok before, current) =>
    match mutated : interface.execute (Store.executor storage default)
        (kind.operationName table) arguments selection current with
    | (.error _, _) => none
    | (.ok answer, changed) =>
      match selectedAfter : interface.execute (Store.executor storage default)
          (OperationKind.selectMany.operationName table) [] selection changed with
      | (.error _, _) => none
      | (.ok after, final) =>
        some
          { arguments, before, answer, after, initial, current, changed, final
            times := (default, default, default)
            selectedBefore, mutated, selectedAfter }

end Observed

/-- A table of items, some of which may not have been counted. -/
def items : Table where
  name := "items"
  columns :=
    [ { name := "id", kind := .integer 32 false, primaryKey := true },
      { name := "count", kind := .integer 32 false, nullable := true } ]

/-- Three items, the second of which has not been counted. -/
def stock : Store :=
  let item (id count : Value) : StoredRow := [⟨"id", id⟩, ⟨"count", count⟩]
  ⟨[("items", [item (.int 1) (.int 7), item (.int 2) .null, item (.int 3) (.int 0)])]⟩

theorem agrees_with_selects_items :
    let schema := Schema.empty.withTable items
    let selection : Selection := [{ name := "count", label := some "left" }, { name := "id" }]
    ∃ interface, Interface.generate schema {} = .ok interface ∧
      (∃ observed : Observed interface schema "items" selection .insertMany,
        observed.Appends ∧ (observed.changed.rows "items").length = 4) ∧
      (∃ observed : Observed interface schema "items" selection .delete,
        observed.Removes ∧ observed.marks = [true, false, true]) ∧
      ∃ observed : Observed interface schema "items" selection .update,
        observed.Patches ∧ observed.marks = [true, false, true] := by
  intro schema selection
  let counted : Json := .object [("count", .object [("gte", .int 0)])]
  let added : Json := .array [.object [("id", .int 3)], .object [("id", .int 4)]]
  have observes : ((Interface.generate schema {}).toOption.map fun interface =>
      ((Observed.ofCalls? interface schema "items" selection .insertMany [("values", added)]
          stock).map fun observed => (observed.changed.rows "items").length,
        (Observed.ofCalls? interface schema "items" selection .delete [("where", counted)]
          stock).map (·.marks),
        (Observed.ofCalls? interface schema "items" selection .update
          [("set", .object [("count", .int 5)]), ("where", counted)] stock).map (·.marks))) =
      some (some 4, some [true, false, true], some [true, false, true]) := by
    decide +kernel
  obtain ⟨interface, generated, made⟩ := Option.map_eq_some_iff.1 observes
  rw [toOption_eq_some] at generated
  simp only [Prod.mk.injEq, Option.map_eq_some_iff] at made
  obtain ⟨⟨inserted, _, fourRows⟩, ⟨deleted, _, marksDeleted⟩, updated, _, marksUpdated⟩ := made
  have hasFields : items.HasFields selection := by decide +kernel
  obtain ⟨insertsAgree, deletesAgree, updatesAgree⟩ := Observed.agrees_with_selects generated rfl
    (List.mem_cons_self : items ∈ schema.tables) hasFields schema
  exact ⟨interface, generated, ⟨inserted, insertsAgree inserted, fourRows⟩,
    ⟨deleted, deletesAgree deleted, marksDeleted⟩, ⟨updated, updatesAgree updated, marksUpdated⟩⟩

end RelationalApi
