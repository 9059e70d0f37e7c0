import RelationalApi.Proofs.Request.ClientCalls
import RelationalApi.Proofs.Storage.Counters

/-!
# Inserts into counted columns

Whatever clients have done before, the columns that count hold only whole numbers and null.  Rows
that leave such a column to the storage take numbers of their own there as long as the column has
room.  The storage does not look at the width of the column, though, so it goes on counting beyond
its range, to numbers that no client can ask for.
-/

namespace RelationalApi

open Outcome

namespace Store

variable {schema : Schema} {store : Store} {table : Table} {types : TableTypes}
variable {name : String} {column : Column} {bits : Nat} {unsigned : Bool}

/-- A value that was read for an integer column is null or a whole number. -/
theorem yields_of_readBy
    (mapped : TableTypes.ofTable table = .ok types)
    (isColumn : table.column? name = some column)
    (isInteger : column.kind = .integer bits unsigned)
    {value : Value}
    (read : Fixture.ReadBy types.columns ⟨name, value⟩) :
    value = .null ∨ (Codec.integer bits unsigned).Yields value := by
  obtain ⟨codec, document, path, isCodec, _, decoded⟩ := read
  obtain ⟨first, isFirst, mappedFirst⟩ := (TableTypes.column?_eq_some mapped).1 isCodec
  cases isColumn.symm.trans isFirst
  rw [ColumnCodec.ofColumn, isInteger] at mappedFirst
  cases mappedFirst
  exact ColumnCodec.yields_of_decode decoded

/-- The columns that count hold null and whole numbers in every store that clients fill. -/
theorem Reached.holdsIntegers
    (reached : Reached schema (Mutation.Read schema) store)
    (member : table ∈ schema.tables)
    (mapped : TableTypes.ofTable table = .ok types)
    (isColumn : table.column? name = some column)
    (isInteger : column.kind = .integer bits unsigned)
    (counts : column.default = some .autoIncrement) :
    HoldsIntegers bits unsigned name (store.rows table.name) := by
  have general := reached.forall_rows (fun table row => ∀ types column,
    TableTypes.ofTable table = .ok types -> table.column? name = some column ->
      column.kind = .integer bits unsigned -> column.default = some .autoIncrement ->
        ∀ value, fieldValue? row name = some value ->
          value = .null ∨ (Codec.integer bits unsigned).Yields value) ?_ ?_ member
  · intro row rowMember
    exact general row rowMember types column mapped isColumn isInteger counts
  · intro statement table now rows given row isRead found isGiven completed types column mapped
      isColumn isInteger counts value foundValue
    obtain ⟨_, fields, _⟩ := completeRow_eq_ok.1 completed
    cases foundGiven : fieldValue? given name with
    | some givenValue =>
        rw [eq_of_given fields foundGiven foundValue]
        exact yields_of_readBy mapped isColumn isInteger
          (isRead table types found mapped given isGiven _ (mem_of_fieldValue? foundGiven))
    | none =>
        rw [fieldValue?_counted isColumn counts foundGiven completed] at foundValue
        cases foundValue
        exact .inr (.signed _)
  · intro statement table row isRead found holds _ _ types column mapped isColumn isInteger counts
      value foundValue
    rcases fieldValue?_foldl_assign foundValue with before | assigned
    · exact holds types column mapped isColumn isInteger counts value before
    · exact yields_of_readBy mapped isColumn isInteger (isRead table types found mapped _ assigned)

/-- An insert adds rows to a table. -/
def Inserts (schema : Schema) (now : Timestamp) (statement : InsertStatement) (table : Table)
    (store : Store) (inserted : List StoredRow) : Prop :=
  ∃ result, store.apply schema now (.insert statement) =
    (.ok result, store.setRows table.name (store.rows table.name ++ inserted))

/-- An insert fails and leaves the store as it is, or it adds rows to a table that have numbers of
their own in a column. -/
def InsertsNumbered (schema : Schema) (now : Timestamp) (statement : InsertStatement)
    (table : Table) (name : String) (bits : Nat) (unsigned : Bool) (store : Store) : Prop :=
  (∃ fault, store.apply schema now (.insert statement) = (.error fault, store)) ∨
    ∃ inserted, store.Inserts schema now statement table inserted ∧
      Numbered bits unsigned name (store.rows table.name) inserted

section

variable {now : Timestamp} {statement : InsertStatement}
variable (found : schema.table? statement.table = some table)
include found

theorem apply_insert :
    store.apply schema now (.insert statement) =
      match admitRows table now statement.onConflict (store.rows table.name) [] statement.rows with
      | .error fault => (.error fault, store)
      | .ok inserted => (.ok (answer statement.returning inserted),
          store.setRows table.name (store.rows table.name ++ inserted)) := by
  rw [apply, mutate, insert, target_eq_ok.2 found]
  dsimp only [bind, Except.bind]
  cases admitRows table now statement.onConflict (store.rows table.name) [] statement.rows <;> rfl

/-- What an insert adds is what it admits. -/
theorem inserts_iff (inserted : List StoredRow) :
    store.Inserts schema now statement table inserted ↔
      admitRows table now statement.onConflict (store.rows table.name) [] statement.rows
        = .ok inserted := by
  rw [Inserts, apply_insert found]
  cases admitRows table now statement.onConflict (store.rows table.name) [] statement.rows with
  | error fault => simp
  | ok added =>
      simp only [Prod.mk.injEq, Except.ok.injEq]
      constructor
      · rintro ⟨_, _, same⟩
        have sameRows := congrArg (·.rows table.name) same
        simpa using sameRows
      · rintro rfl
        exact ⟨_, rfl, rfl⟩

/-- An insert that does not fail adds rows, and these alone. -/
theorem insertsNumbered_iff_of_inserts :
    store.InsertsNumbered schema now statement table name bits unsigned ↔
      ∀ inserted, store.Inserts schema now statement table inserted ->
        Numbered bits unsigned name (store.rows table.name) inserted := by
  simp only [InsertsNumbered, inserts_iff found, apply_insert found]
  cases admitRows table now statement.onConflict (store.rows table.name) [] statement.rows with
  | error fault => simp
  | ok added => simp

end

end Store

namespace Interface

/-- Whatever clients have done before, an insert of rows that leave a column to be counted fails
without a trace or gives the rows numbers of their own there, exactly where the column has room for
as many numbers after the greatest one. -/
theorem insertsNumbered_iff
    (schema : Schema)
    (config : EngineConfig)
    (interface : Interface)
    (generated : generate schema config = .ok interface)
    (calls : List (Timestamp × ClientCall))
    (wellFormed : ∀ call ∈ calls, call.2.WellFormed)
    (now : Timestamp)
    (statement : InsertStatement)
    (table : Table)
    (found : schema.table? statement.table = some table)
    (name : String)
    (column : Column)
    (isColumn : table.column? name = some column)
    (bits : Nat)
    (unsigned : Bool)
    (isInteger : column.kind = .integer bits unsigned)
    (width : bits ∈ [8, 16, 32, 64])
    (counts : column.default = some .autoIncrement)
    (omitted : ∀ given ∈ statement.rows, fieldValue? given name = none) :
    (interface.afterCalls calls).InsertsNumbered schema now statement table name bits unsigned ↔
      ∀ inserted, (interface.afterCalls calls).Inserts schema now statement table inserted ->
        Store.HasRoom bits unsigned name ((interface.afterCalls calls).rows table.name)
          inserted.length := by
  have represents := represents_of_generate generated
  have member := Schema.mem_of_table? found
  obtain ⟨types, _, mapped, _⟩ := represents.exists_table? member
  have holdsIntegers := (represents.reached_afterCalls wellFormed).holdsIntegers member mapped
    isColumn isInteger counts
  rw [Store.insertsNumbered_iff_of_inserts found]
  refine forall_congr' fun inserted => forall_congr' fun inserts => ?_
  have admitted := (Store.inserts_iff found inserted).1 inserts
  have takes := Store.takesNumbers_of_admitRows isColumn counts omitted admitted
  exact takes.numbered_iff_hasRoom width holdsIntegers

/-- Slots with numbers of eight bits that are counted. -/
def slotTable : Table where
  name := "slots"
  columns :=
    [ { name := "id", kind := .integer 8 false, primaryKey := true,
        default := some .autoIncrement },
      { name := "label", kind := .text none, nullable := true } ]

/-- The schema of the slots. -/
def slots : Schema := Schema.empty.withTable slotTable

/-- The call that inserts a slot of a number. -/
def insertSlot (number : Int) : Timestamp × ClientCall :=
  (default, .operate "insertIntoSlotsSingle" [("values", .object [("id", .int number)])]
    [{ name := "id" }])

/-- A slot that is left to be counted. -/
def nextSlot : InsertStatement where
  table := "slots"
  rows := [[⟨"label", .string "next"⟩]]

/-- The numbers of the slots before the next slot and after it, where the first one is inserted with
the given number. -/
def slotNumbers (interface : Interface) (number : Int) : List (Option Int) × List (Option Int) :=
  let store := interface.afterCalls [insertSlot number]
  ((store.rows "slots").map (Store.number? "id"),
    ((store.apply slots default (.insert nextSlot)).2.rows "slots").map (Store.number? "id"))

/-- The numbers of the slots that the next slot is inserted as. -/
theorem numbers_of_slotNumbers
    {interface : Interface}
    {number : Int}
    {before after : List (Option Int)}
    (numbers : slotNumbers interface number = (before, after))
    {inserted : List StoredRow}
    (inserts : (interface.afterCalls [insertSlot number]).Inserts slots default nextSlot slotTable
      inserted) :
    before ++ inserted.map (Store.number? "id") = after := by
  obtain ⟨result, applied⟩ := inserts
  rw [slotNumbers, applied, Prod.mk.injEq] at numbers
  dsimp only at numbers
  rw [← numbers.1, ← numbers.2, ← List.map_append]
  exact congrArg (List.map _) (Store.rows_setRows _ slotTable.name _).symm

theorem insertsNumbered_slots :
    ∃ interface, generate slots {} = .ok interface ∧
      slotNumbers interface 125 = ([some 125], [some 125, some 126]) ∧
      (interface.afterCalls [insertSlot 125]).InsertsNumbered slots default nextSlot slotTable "id"
        8 false := by
  have runs : (generate slots {}).toOption.map (slotNumbers · 125) =
      some ([some 125], [some 125, some 126]) := by
    decide +kernel
  obtain ⟨interface, generated, numbers⟩ := Option.map_eq_some_iff.1 runs
  rw [toOption_eq_some] at generated
  have wellFormed : (insertSlot 125).2.WellFormed := by
    change Json.isWellFormed _ = true
    decide +kernel
  refine ⟨interface, generated, numbers, (insertsNumbered_iff slots {} interface generated
    [insertSlot 125] (List.forall_mem_singleton.2 wellFormed) default nextSlot slotTable rfl "id" _
    rfl 8 false rfl (by decide) rfl (List.forall_mem_singleton.2 rfl)).2 ?_⟩
  intro inserted inserts
  have added := numbers_of_slotNumbers numbers inserts
  obtain ⟨row, rfl, _⟩ := List.map_eq_singleton_iff.1 (List.cons.inj added).2
  obtain ⟨first, onlyRow, isNumber⟩ := List.map_eq_singleton_iff.1 (congrArg Prod.fst numbers)
  have greatest : Store.greatestNumber "id" ((interface.afterCalls [insertSlot 125]).rows "slots") =
      125 := by
    rw [Store.greatestNumber, Store.numbers, onlyRow, List.filterMap_cons, isNumber]
    rfl
  have room : Store.HasRoom 8 false "id" ((interface.afterCalls [insertSlot 125]).rows "slots") 1 :=
    .within (by rw [greatest]; decide) (by rw [greatest]; decide) (by rw [greatest]; decide)
  exact room

/-- After the greatest number of eight bits the next slot gets one that eight bits do not have. -/
theorem not_insertsNumbered_slots :
    ∃ interface, generate slots {} = .ok interface ∧ (insertSlot 127).2.WellFormed ∧
      ¬(interface.afterCalls [insertSlot 127]).InsertsNumbered slots default nextSlot slotTable "id"
        8 false := by
  have runs : (generate slots {}).toOption.map (slotNumbers · 127) =
      some ([some 127], [some 127, some 128]) := by
    decide +kernel
  obtain ⟨interface, generated, numbers⟩ := Option.map_eq_some_iff.1 runs
  rw [toOption_eq_some] at generated
  have wellFormed : (insertSlot 127).2.WellFormed := by
    change Json.isWellFormed _ = true
    decide +kernel
  refine ⟨interface, generated, wellFormed, ?_⟩
  rintro (⟨fault, failed⟩ | ⟨inserted, inserts, numbered⟩)
  · rw [slotNumbers, failed, Prod.mk.injEq] at numbers
    cases numbers.1.symm.trans numbers.2
  · have added := numbers_of_slotNumbers numbers inserts
    obtain ⟨row, rfl, isNumber⟩ :=
      List.map_eq_singleton_iff.1 (List.cons.inj added).2
    obtain ⟨number, isNumberAgain, _, most⟩ := numbered.inRange row List.mem_cons_self
    cases isNumber.symm.trans isNumberAgain
    exact absurd most (by decide)

end Interface
end RelationalApi
