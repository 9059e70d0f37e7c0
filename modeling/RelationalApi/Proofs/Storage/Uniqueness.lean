import RelationalApi.Proofs.Storage.Constraints
import RelationalApi.Proofs.Storage.Defaults

/-!
# Columns that tell rows apart

Whenever a row is written, every unique column outside the primary key is compared by itself, while
the columns of the primary key are compared together.  A column of the key therefore tells rows
apart only where it is the whole key, whether or not it is declared unique.
-/

namespace RelationalApi

open Outcome

namespace Table

/-- A column that is compared by itself: a unique one outside the primary key has its name, or the
whole primary key has. -/
def guards (table : Table) (name : String) : Bool :=
  (table.columns.any fun column => column.name == name && column.unique && !column.primaryKey) ||
    (!table.keyColumns.isEmpty && table.keyColumns.all (· == name))

theorem guards_iff (table : Table) (name : String) :
    table.guards name = true ↔
      (∃ column ∈ table.columns, column.name = name ∧ column.unique = true ∧
        column.primaryKey = false) ∨
      (table.keyColumns ≠ [] ∧ ∀ column ∈ table.keyColumns, column = name) := by
  simp only [guards, Bool.or_eq_true, List.any_eq_true, Bool.and_eq_true, beq_iff_eq,
    Bool.not_eq_true', List.isEmpty_eq_false_iff, List.all_eq_true, and_assoc]

/-- No two of some rows have the same value in a column. -/
def DistinctIn (name : String) (rows : List StoredRow) : Prop :=
  ∀ (first second : Nat) (firstBound : first < rows.length) (secondBound : second < rows.length),
    first ≠ second -> ¬SameValue rows[first] rows[second] name

/-- The constraints of a table keep rows distinct in every column that it guards. -/
theorem Admits.distinctIn
    {table : Table}
    {rows : List StoredRow}
    {name : String}
    (admits : table.Admits rows)
    (guarded : table.guards name = true) :
    DistinctIn name rows := by
  intro first second firstBound secondBound different same
  rcases (table.guards_iff name).1 guarded with
    ⟨column, member, rfl, unique, outside⟩ | ⟨hasKey, wholeKey⟩
  · exact admits.uniqueDistinct column member unique outside first second firstBound secondBound
      different same
  · refine admits.keyDistinct hasKey first second firstBound secondBound different ?_
    intro column member
    rw [wholeKey column member]
    exact same

/-- A row that holds zero under one name and another number in all other columns. -/
def zeroIn (table : Table) (name : String) (number : Int64) : StoredRow :=
  table.columnNames.map fun column => ⟨column, .int (if column = name then 0 else number)⟩

variable {table : Table} {name column : String} {number other : Int64}

theorem fieldValue?_zeroIn (member : column ∈ table.columnNames) :
    fieldValue? (table.zeroIn name number) column =
      some (.int (if column = name then 0 else number)) := by
  have hasField : column ∈ (table.zeroIn name number).map (·.field) := by
    rw [zeroIn, List.map_map]
    exact List.mem_map.2 ⟨column, member, rfl⟩
  obtain ⟨value, found⟩ := Option.isSome_iff_exists.1 ((isSome_fieldValue?_iff _ column).2 hasField)
  obtain ⟨_, _, same⟩ := List.mem_map.1 (mem_of_fieldValue? found)
  cases same
  exact found

theorem zeroIn_wellFormed : FieldsWellFormed (table.zeroIn name number) := by
  rw [zeroIn]
  exact List.forall_mem_map.2 fun _ _ => rfl

/-- Two such rows have the same value in the one column. -/
theorem sameValue_zeroIn (member : name ∈ table.columnNames) :
    SameValue (table.zeroIn name number) (table.zeroIn name other) name := by
  refine ⟨.int 0, .int 0, ?_, ?_, rfl, rfl, by decide⟩
  · rw [fieldValue?_zeroIn member, if_pos rfl]
  · rw [fieldValue?_zeroIn member, if_pos rfl]

/-- Two such rows of different numbers agree in no other column. -/
theorem not_agree_zeroIn
    (member : column ∈ table.columnNames)
    (elsewhere : column ≠ name)
    (different : number ≠ other) :
    ¬Store.agree (table.zeroIn name number) (table.zeroIn name other) column = true := by
  intro same
  obtain ⟨value, stored, found, foundOther, _, equal⟩ := (Store.agree_iff _ _ _).1 same
  rw [fieldValue?_zeroIn member, if_neg elsewhere, Option.some.injEq] at found foundOther
  subst found foundOther
  rw [Value.equal_eq_order (by simp) (by simp), beq_iff_eq, Value.order?, Option.some.injEq,
    Int.compare_eq_eq] at equal
  exact different (Int64.toInt_inj.1 equal)

theorem not_clashes_zeroIn
    (notGuarded : table.guards name = false)
    (different : number ≠ other) :
    ¬table.Clashes (table.zeroIn name number) (table.zeroIn name other) := by
  have unguarded : ¬table.guards name = true := by rw [notGuarded]; exact Bool.false_ne_true
  rw [guards_iff, not_or] at unguarded
  obtain ⟨noneUnique, notWhole⟩ := unguarded
  rintro (⟨hasKey, agreed⟩ | ⟨column, member, unique, outside, agreed⟩)
  · refine notWhole ⟨hasKey, fun column member => ?_⟩
    by_contra elsewhere
    have isColumn : column ∈ table.columnNames := by
      obtain ⟨key, keyMember, rfl⟩ := List.mem_map.1 member
      exact List.mem_map_of_mem (List.mem_of_mem_filter keyMember)
    exact not_agree_zeroIn isColumn elsewhere different (agreed column member)
  · refine not_agree_zeroIn (List.mem_map_of_mem member) ?_ different agreed
    exact fun isNamed => noneUnique ⟨column, member, isNamed, unique, outside⟩

end Table

namespace Store

variable {schema : Schema} {table : Table} {name : String} {number : Int64} {now : Timestamp}

/-- A row that gives a value to every column is stored as it is given. -/
theorem completeRow_zeroIn (rows : List StoredRow) :
    completeRow table now rows (table.zeroIn name number) = .ok (table.zeroIn name number) := by
  refine completeRow_eq_ok.2 ⟨?_, ?_, ?_⟩
  · rw [checkColumns_eq_ok, Table.zeroIn, List.map_map]
    exact List.forall_mem_map.2 fun column member => member
  · have completed : ∀ column ∈ table.columns,
        completeField now rows (table.zeroIn name number) column =
          .ok ⟨column.name, .int (if column.name = name then 0 else number)⟩ :=
      fun column member =>
        completeField_of_given (Table.fieldValue?_zeroIn (List.mem_map_of_mem member))
    have columnwise : table.zeroIn name number = table.columns.map fun column =>
        ⟨column.name, .int (if column.name = name then 0 else number)⟩ := List.map_map
    nth_rewrite 2 [columnwise]
    exact List.forall₂_map_right_iff.2 (List.forall₂_same.2 completed)
  · refine checkNotNull_eq_ok.2 fun column member _ _ => ?_
    rw [present?_ne_none_iff]
    exact ⟨_, Table.fieldValue?_zeroIn (List.mem_map_of_mem member), rfl⟩

/-- Two rows that do not clash are inserted together into a table that has none. -/
theorem insertRows_of_not_clashes
    {first second : StoredRow}
    (found : schema.table? table.name = some table)
    (completed : ∀ row ∈ [first, second], ∀ rows, completeRow table now rows row = .ok row)
    (apart : ¬table.Clashes second first) :
    ∃ result, Store.empty.insertRows schema now table.name [first, second] =
      .ok (result, Store.empty.setRows table.name [first, second]) := by
  rw [List.forall_mem_cons, List.forall_mem_singleton] at completed
  have firstFree : conflict? table first [] = none := (conflict?_eq_none_iff _ _).2 (by simp)
  have secondFree : conflict? table second [first] = none :=
    (conflict?_eq_none_iff _ _).2 (List.forall_mem_singleton.2 apart)
  have admitted : admitRows table now .error [] [] [first, second] = .ok [first, second] := by
    rw [admitRows]
    refine bind_eq_ok.2 ⟨first, completed.1 _, ?_⟩
    rw [List.append_nil, firstFree, List.nil_append]
    change admitRows table now .error [] [first] [second] = _
    rw [admitRows]
    refine bind_eq_ok.2 ⟨second, completed.2 _, ?_⟩
    rw [List.nil_append, secondFree]
    rfl
  exact ⟨_, insert_eq_ok.2 ⟨table, _, found, admitted, rfl, rfl⟩⟩

/-- Whatever calls are made, no two rows of the table have the same value in the column. -/
def KeepsDistinct (schema : Schema) (table : Table) (name : String) : Prop :=
  ∀ calls : List (Timestamp × StoreCall), (∀ call ∈ calls, call.2.WellFormed) ->
    Table.DistinctIn name ((afterCalls schema calls).rows table.name)

/-- In a column that is not compared by itself, a single call puts the same value into two rows. -/
theorem not_keepsDistinct
    (member : table ∈ schema.tables)
    (isColumn : name ∈ table.columnNames)
    (notGuarded : table.guards name = false) :
    ¬KeepsDistinct schema table name := by
  intro keeps
  let first := table.zeroIn name 1
  let second := table.zeroIn name 2
  have completed : ∀ row ∈ [first, second], ∀ rows,
      completeRow table default rows row = .ok row := by
    rw [List.forall_mem_cons, List.forall_mem_singleton]
    exact ⟨completeRow_zeroIn, completeRow_zeroIn⟩
  obtain ⟨result, inserted⟩ := insertRows_of_not_clashes (Schema.table?_name member) completed
    (Table.not_clashes_zeroIn notGuarded (by decide))
  have wellFormed : (StoreCall.seed table.name [first, second]).WellFormed := by
    rw [StoreCall.WellFormed, List.forall_mem_cons, List.forall_mem_singleton]
    exact ⟨Table.zeroIn_wellFormed, Table.zeroIn_wellFormed⟩
  have kept := keeps [(default, .seed table.name [first, second])]
    (List.forall_mem_singleton.2 wellFormed)
  rw [afterCalls, List.foldl_cons, List.foldl_nil, StoreCall.run, inserted] at kept
  dsimp only at kept
  rw [rows_setRows] at kept
  exact kept 0 1 Nat.zero_lt_two Nat.one_lt_two Nat.zero_ne_one (Table.sameValue_zeroIn isColumn)

/-- A column tells the rows of its table apart after every sequence of calls exactly where it is
compared by itself. -/
theorem keepsDistinct_iff_guards
    (schema : Schema)
    (table : Table)
    (member : table ∈ schema.tables)
    (name : String)
    (isColumn : name ∈ table.columnNames) :
    KeepsDistinct schema table name ↔ table.guards name = true := by
  constructor
  · intro keeps
    by_contra notGuarded
    exact not_keepsDistinct member isColumn (Bool.eq_false_iff.2 notGuarded) keeps
  · intro guarded calls wellFormed
    exact ((reached_afterCalls wellFormed).admits member).distinctIn guarded

/-- A table of seats, each with a row and a number as the primary key, the number being declared
unique, and the unique name of a guest. -/
def seats : Table where
  name := "seats"
  columns :=
    [ { name := "row", kind := .integer 32 false, primaryKey := true },
      { name := "number", kind := .integer 32 false, primaryKey := true, unique := true },
      { name := "guest", kind := .text none, unique := true, nullable := true } ]

theorem keepsDistinct_seats :
    KeepsDistinct (Schema.empty.withTable seats) seats "guest" :=
  (keepsDistinct_iff_guards _ seats List.mem_cons_self "guest" (by decide)).2 (by decide)

/-- Two seats in different rows have the same number, though the number is declared unique. -/
theorem not_keepsDistinct_seats :
    (∃ column ∈ seats.columns, column.name = "number" ∧ column.unique = true) ∧
      ¬KeepsDistinct (Schema.empty.withTable seats) seats "number" := by
  refine ⟨⟨_, List.mem_cons_of_mem _ List.mem_cons_self, rfl, rfl⟩, fun keeps => ?_⟩
  let rows : List (List FieldValue) :=
    [[⟨"row", .int 1⟩, ⟨"number", .int 7⟩], [⟨"row", .int 2⟩, ⟨"number", .int 7⟩]]
  have stored : (afterCalls (Schema.empty.withTable seats)
      [(default, .seed "seats" rows)]).rows "seats" =
        [[⟨"row", .int 1⟩, ⟨"number", .int 7⟩, ⟨"guest", .null⟩],
          [⟨"row", .int 2⟩, ⟨"number", .int 7⟩, ⟨"guest", .null⟩]] := by
    rfl
  have wellFormed : (StoreCall.seed "seats" rows).WellFormed := by
    rw [StoreCall.WellFormed]
    decide
  have kept := keeps [(default, .seed "seats" rows)] (List.forall_mem_singleton.2 wellFormed)
  rw [show seats.name = "seats" from rfl, stored] at kept
  exact kept 0 1 (by decide) (by decide) (by decide)
    ⟨.int 7, .int 7, rfl, rfl, rfl, rfl, by decide⟩

end Store
end RelationalApi
