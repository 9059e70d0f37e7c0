import RelationalApi.Proofs.Storage.Fixture

/-!
# The constraints of a table

The rows of a table list its columns, have values where the columns demand them, and differ in the
primary key and in every other unique column.  An insert compares a row with the rows in front of
it only, and an update compares only matched rows with the others, in one direction each; that no
two rows clash in either direction afterwards rests on the symmetry of equality.
-/

namespace RelationalApi

open Outcome

/-- Two rows have equal values, other than null, in a column. -/
def SameValue (left right : StoredRow) (column : String) : Prop :=
  ∃ value other, fieldValue? left column = some value ∧ fieldValue? right column = some other ∧
    value.isNull = false ∧ other.isNull = false ∧ value.equal other = true

/-- The rows that the constraints of a table admit.  The value of a column in a row is that of the
row's first field of its name. -/
structure Table.Admits (table : Table) (rows : List StoredRow) : Prop where
  /-- Every row lists the columns of the table in the order of their declaration. -/
  columns : ∀ row ∈ rows, row.map (·.field) = table.columnNames
  /-- A column that neither admits null nor is computed by the storage has a value in every row. -/
  notNull : ∀ row ∈ rows, ∀ column ∈ table.columns,
    column.nullable = false -> column.generated = false ->
      ∃ value, fieldValue? row column.name = some value ∧ value.isNull = false
  /-- No two rows have the same values in all columns of the primary key, if there is one. -/
  keyDistinct : table.keyColumns ≠ [] ->
    ∀ (first second : Nat) (firstBound : first < rows.length) (secondBound : second < rows.length),
      first ≠ second ->
        ¬∀ column ∈ table.keyColumns, SameValue rows[first] rows[second] column
  /-- No two rows have the same value in a unique column outside the primary key. -/
  uniqueDistinct : ∀ column ∈ table.columns, column.unique = true -> column.primaryKey = false ->
    ∀ (first second : Nat) (firstBound : first < rows.length) (secondBound : second < rows.length),
      first ≠ second -> ¬SameValue rows[first] rows[second] column.name

/-- Two rows that clash in neither direction. -/
def Table.Apart (table : Table) (left right : StoredRow) : Prop :=
  ¬table.Clashes left right ∧ ¬table.Clashes right left

theorem Table.Apart.symm
    {table : Table}
    {left right : StoredRow}
    (apart : table.Apart left right) :
    table.Apart right left :=
  ⟨apart.2, apart.1⟩

/-- Where no two columns share a name, a column that must have a value has one in every field of its
name. -/
theorem Table.Admits.field_notNull
    {table : Table}
    {rows : List StoredRow}
    (admits : table.Admits rows)
    (distinct : table.columnNames.Nodup)
    {row : StoredRow}
    (rowMember : row ∈ rows)
    {column : Column}
    (columnMember : column ∈ table.columns)
    (notNullable : column.nullable = false)
    (notGenerated : column.generated = false)
    {entry : FieldValue}
    (entryMember : entry ∈ row)
    (sameName : entry.field = column.name) :
    entry.value.isNull = false := by
  obtain ⟨value, found, notNull⟩ :=
    admits.notNull row rowMember column columnMember notNullable notGenerated
  have fields : (row.map (·.field)).Nodup := by
    rw [admits.columns row rowMember]
    exact distinct
  rw [← sameName, fieldValue?_of_mem fields entryMember] at found
  cases found
  exact notNull

/-- A statement all documents in whose values are well-formed. -/
def Mutation.WellFormed : Mutation -> Prop
  | insert statement => ∀ given ∈ statement.rows, FieldsWellFormed given
  | update statement => FieldsWellFormed statement.assignments
  | delete _ => True

namespace Store

variable {schema : Schema} {table : Table} {now : Timestamp} {store : Store}

theorem agree_of_sameValue
    {left right : StoredRow}
    {column : String}
    (same : SameValue left right column) :
    agree left right column = true := by
  obtain ⟨value, other, stored, found, notNull, _, equal⟩ := same
  exact (agree_iff _ _ _).2 ⟨value, other, stored, found, notNull, equal⟩

theorem apart_of_not_clashes
    {left right : StoredRow}
    (leftWellFormed : FieldsWellFormed left)
    (rightWellFormed : FieldsWellFormed right)
    (noClash : ¬table.Clashes left right) :
    table.Apart left right :=
  ⟨noClash, fun clash => noClash ((clashes_comm rightWellFormed leftWellFormed).1 clash)⟩

/-- A completed row lists the columns of its table. -/
theorem completeRow_columns
    {rows : List StoredRow}
    {given : List FieldValue}
    {row : StoredRow}
    (completed : completeRow table now rows given = .ok row) :
    row.map (·.field) = table.columnNames := by
  obtain ⟨_, fields, _⟩ := completeRow_eq_ok.1 completed
  exact map_field_of_completeField fields

/-- A default holds no document. -/
theorem defaultValue_isWellFormed
    {column : String}
    {rows : List StoredRow}
    {default : ColumnDefault}
    {value : Value}
    (evaluated : defaultValue now column rows default = .ok value) :
    value.isWellFormed = true := by
  cases default <;> cases evaluated <;> rfl

theorem completeRow_wellFormed
    {rows : List StoredRow}
    {given : List FieldValue}
    {row : StoredRow}
    (wellFormed : FieldsWellFormed given)
    (completed : completeRow table now rows given = .ok row) :
    FieldsWellFormed row := by
  obtain ⟨_, fields, _⟩ := completeRow_eq_ok.1 completed
  intro field member
  obtain ⟨column, _, completedField⟩ := exists_item fields field member
  rcases (completeField_eq_ok completedField).2 with isGiven | isNull | ⟨_, _, evaluated⟩
  · exact wellFormed field isGiven
  · rw [isNull]
    rfl
  · exact defaultValue_isWellFormed evaluated

/-- An insert keeps the rows of a table apart: a row is admitted where it clashes with none of the
stored rows and none of the statement so far. -/
theorem admitRows_apart
    {action : ConflictAction}
    {stored inserted : List StoredRow}
    {rows : List (List FieldValue)}
    (storedWellFormed : ∀ row ∈ stored, FieldsWellFormed row)
    (rowsWellFormed : ∀ given ∈ rows, FieldsWellFormed given)
    (apart : stored.Pairwise table.Apart)
    (admitted : admitRows table now action stored [] rows = .ok inserted) :
    (stored ++ inserted).Pairwise table.Apart := by
  refine (admitRows_induction (fun pending => (∀ row ∈ stored ++ pending, FieldsWellFormed row) ∧
    (stored ++ pending).Pairwise table.Apart) ?_ ?_ admitted).2
  · rw [List.append_nil]
    exact ⟨storedWellFormed, apart⟩
  · rintro pending row given givenMember ⟨wellFormed, pendingApart⟩ completed free
    have rowWellFormed := completeRow_wellFormed (rowsWellFormed given givenMember) completed
    rw [conflict?_eq_none_iff] at free
    rw [← List.append_assoc]
    refine ⟨?_, ?_⟩
    · exact List.forall_mem_append.2 ⟨wellFormed, List.forall_mem_singleton.2 rowWellFormed⟩
    · refine List.pairwise_append.2 ⟨pendingApart, List.pairwise_singleton _ _, ?_⟩
      intro other otherMember added addedMember
      rw [List.mem_singleton.1 addedMember]
      exact (apart_of_not_clashes rowWellFormed (wellFormed other otherMember)
        (free other otherMember)).symm

/-- Checking an update compares every matched row with all other rows. -/
theorem checkConflicts_eq_ok
    {before : List StoredRow}
    {marked : List (Bool × StoredRow)}
    (checked : checkConflicts table before marked = .ok ()) :
    (∀ entry ∈ marked, entry.1 = true -> ∀ other ∈ before, ¬table.Clashes entry.2 other) ∧
      marked.Pairwise fun left right =>
        (left.1 = true -> ¬table.Clashes left.2 right.2) ∧
          (right.1 = true -> ¬table.Clashes right.2 left.2) := by
  induction marked generalizing before with
  | nil => exact ⟨by simp, .nil⟩
  | cons entry marked inductionHypothesis =>
      obtain ⟨isMatched, row⟩ := entry
      have split : (isMatched = true -> conflict? table row (before ++ marked.map (·.2)) = none) ∧
          checkConflicts table (before ++ [row]) marked = .ok () := by
        rw [checkConflicts.eq_def] at checked
        dsimp only at checked
        split at checked
        · cases checked
        · rename_i notBoth
          refine ⟨?_, checked⟩
          rintro rfl
          exact Option.eq_none_iff_forall_ne_some.2 fun column taken => notBoth column rfl taken
      obtain ⟨free, rest⟩ := split
      obtain ⟨laterFree, laterApart⟩ := inductionHypothesis rest
      have rowFree : isMatched = true -> ∀ other ∈ before ++ marked.map (·.2),
          ¬table.Clashes row other :=
        fun matched => (conflict?_eq_none_iff _ _).1 (free matched)
      refine ⟨List.forall_mem_cons.2 ⟨?_, ?_⟩, List.pairwise_cons.2 ⟨?_, laterApart⟩⟩
      · intro matched other member
        exact rowFree matched other (List.mem_append_left _ member)
      · intro later laterMember matched other member
        exact laterFree later laterMember matched other (List.mem_append_left _ member)
      · intro later laterMember
        refine ⟨?_, ?_⟩
        · intro matched
          exact rowFree matched later.2 (List.mem_append_right _ (List.mem_map_of_mem laterMember))
        · intro matched
          exact laterFree later laterMember matched row
            (List.mem_append_right _ (List.mem_singleton_self row))

/-- An update keeps the rows of a table apart: a matched row is compared with every other row, and
two rows that are not matched are what they were. -/
theorem updateMatched_apart
    {statement : UpdateStatement}
    {rows : List StoredRow}
    (rowsWellFormed : ∀ row ∈ rows, FieldsWellFormed row)
    (assignedWellFormed : FieldsWellFormed statement.assignments)
    (apart : rows.Pairwise table.Apart)
    (checked : checkConflicts table [] (updateMatched statement rows) = .ok ()) :
    ((updateMatched statement rows).map (·.2)).Pairwise table.Apart := by
  have compared := (checkConflicts_eq_ok checked).2
  rw [updateMatched, List.pairwise_map] at compared
  rw [updateMatched, List.map_map, List.pairwise_map]
  have assignWellFormed : ∀ row ∈ rows,
      FieldsWellFormed (statement.assignments.foldl assign row) := by
    intro row member entry entryMember
    rcases mem_foldl_assign entryMember with old | assigned
    · exact rowsWellFormed row member entry old
    · exact assignedWellFormed entry assigned
  have updatedWellFormed : ∀ row ∈ rows, ∀ updated,
      updated = statement.assignments.foldl assign row ∨ updated = row ->
        FieldsWellFormed updated := by
    rintro row member updated (rfl | rfl)
    · exact assignWellFormed row member
    · exact rowsWellFormed _ member
  refine (apart.and compared).imp_of_mem ?_
  rintro left right leftMember rightMember ⟨oldApart, leftFree, rightFree⟩
  dsimp only [Function.comp_apply]
  by_cases leftMatched : Filter.accepts statement.filter left = true
  · rw [if_pos leftMatched] at leftFree rightFree ⊢
    refine apart_of_not_clashes (assignWellFormed left leftMember) ?_ (leftFree rfl)
    refine updatedWellFormed right rightMember _ ?_
    split
    · exact .inl rfl
    · exact .inr rfl
  · rw [if_neg leftMatched] at leftFree rightFree ⊢
    by_cases rightMatched : Filter.accepts statement.filter right = true
    · rw [if_pos rightMatched] at leftFree rightFree ⊢
      exact (apart_of_not_clashes (assignWellFormed right rightMember)
        (rowsWellFormed left leftMember) (rightFree rfl)).symm
    · rw [if_neg rightMatched]
      exact oldApart

theorem Reached.columns
    {allowed : Mutation -> Prop}
    (reached : Reached schema allowed store)
    (member : table ∈ schema.tables) :
    ∀ row ∈ store.rows table.name, row.map (·.field) = table.columnNames := by
  refine Reached.forall_rows (fun table row => row.map (·.field) = table.columnNames) ?_ ?_ reached
    member
  · intro statement table now rows given row _ _ _ completed
    exact completeRow_columns completed
  · intro statement table row _ _ columns _ _
    rw [map_field_foldl_assign]
    exact columns

theorem Reached.notNull
    {allowed : Mutation -> Prop}
    (reached : Reached schema allowed store)
    (member : table ∈ schema.tables) :
    ∀ row ∈ store.rows table.name, checkNotNull table row = .ok () := by
  refine Reached.forall_rows (fun table row => checkNotNull table row = .ok ()) ?_ ?_ reached member
  · intro statement table now rows given row _ _ _ completed
    exact (completeRow_eq_ok.1 completed).2.2
  · intro statement table row _ _ _ _ notNull
    exact notNull

theorem Reached.wellFormed
    (reached : Reached schema Mutation.WellFormed store)
    (member : table ∈ schema.tables) :
    ∀ row ∈ store.rows table.name, FieldsWellFormed row := by
  refine Reached.forall_rows (fun _ row => FieldsWellFormed row) ?_ ?_ reached member
  · intro statement table now rows given row wellFormed _ givenMember completed
    exact completeRow_wellFormed (wellFormed given givenMember) completed
  · intro statement table row wellFormed _ rowWellFormed _ _ entry entryMember
    rcases mem_foldl_assign entryMember with old | assigned
    · exact rowWellFormed entry old
    · exact wellFormed entry assigned

/-- No two rows of a table of a reached store clash. -/
theorem Reached.apart
    (reached : Reached schema Mutation.WellFormed store)
    (member : table ∈ schema.tables) :
    (store.rows table.name).Pairwise table.Apart := by
  induction reached with
  | empty => exact .nil
  | @mutate store changed now mutation result reached wellFormed mutated inductionHypothesis =>
      have rowsWellFormed := Reached.wellFormed reached member
      rcases rows_mutate member mutated with same | ⟨_, change⟩
      · rw [same]
        exact inductionHypothesis
      · generalize changed.rows table.name = after at change ⊢
        cases change with
        | insert admitted =>
            exact admitRows_apart rowsWellFormed wellFormed inductionHypothesis admitted
        | update _ _ checked =>
            exact updateMatched_apart rowsWellFormed wellFormed inductionHypothesis checked
        | delete => exact inductionHypothesis.filter _

/-- The constraints of every table admit its rows in a store that well-formed statements reach. -/
theorem Reached.admits
    (reached : Reached schema Mutation.WellFormed store)
    (member : table ∈ schema.tables) :
    table.Admits (store.rows table.name) := by
  have apart : ∀ (first second : Nat) (firstBound : first < (store.rows table.name).length)
      (secondBound : second < (store.rows table.name).length), first ≠ second ->
        ¬table.Clashes (store.rows table.name)[first] (store.rows table.name)[second] := by
    intro first second firstBound secondBound different
    have pairs := List.pairwise_iff_getElem.1 (reached.apart member)
    rcases Nat.lt_or_gt_of_ne different with before | after
    · exact (pairs first second firstBound secondBound before).1
    · exact (pairs second first secondBound firstBound after).2
  refine ⟨reached.columns member, ?_, ?_, ?_⟩
  · intro row rowMember column columnMember notNullable notGenerated
    exact (present?_ne_none_iff _ _).1 (checkNotNull_eq_ok.1 (reached.notNull member row rowMember)
      column columnMember notNullable notGenerated)
  · intro hasKey first second firstBound secondBound different same
    refine apart first second firstBound secondBound different (.inl ⟨hasKey, ?_⟩)
    exact fun column columnMember => agree_of_sameValue (same column columnMember)
  · intro column columnMember unique outside first second firstBound secondBound different same
    exact apart first second firstBound secondBound different
      (.inr ⟨column, columnMember, unique, outside, agree_of_sameValue same⟩)

end Store

/-!
## Sequences of calls

Clients fill a store with rows, load fixtures into it and carry out statements on it, each call
taking the store for itself.  What any number of clients do is therefore one sequence of calls, in
the order in which they take the store, some of which fail.
-/

/-- A call that changes a store. -/
inductive StoreCall where
  /-- Rows are put into a table; the call fails if any of them conflicts. -/
  | seed (table : String) (rows : List (List FieldValue))
  | load (fixture : Json)
  | mutate (mutation : Mutation)

namespace StoreCall

/-- All documents that the call carries are well-formed. -/
def WellFormed : StoreCall -> Prop
  | seed _ rows => ∀ given ∈ rows, FieldsWellFormed given
  | load fixture => fixture.isWellFormed = true
  | mutate mutation => mutation.WellFormed

/-- The store after a call, whether or not it succeeds. -/
def run (schema : Schema) (now : Timestamp) (call : StoreCall) (store : Store) : Store :=
  match call with
  | seed table rows =>
      match store.insertRows schema now table rows with
      | .ok (_, filled) => filled
      | .error _ => store
  | load fixture => (store.load schema now fixture).2
  | mutate mutation => (store.apply schema now mutation).2

end StoreCall

namespace Store

variable {schema : Schema} {store : Store}

/-- The store after a sequence of calls, each made at a time of its own, on the empty store. -/
def afterCalls (schema : Schema) (calls : List (Timestamp × StoreCall)) : Store :=
  calls.foldl (fun store call => call.2.run schema call.1 store) Store.empty

/-- A call comes down to statements that are well-formed as the call is. -/
theorem Reached.call
    (reached : Reached schema Mutation.WellFormed store)
    (now : Timestamp)
    {call : StoreCall}
    (wellFormed : call.WellFormed) :
    Reached schema Mutation.WellFormed (call.run schema now store) := by
  cases call with
  | seed table rows =>
      rw [StoreCall.run]
      split
      · rename_i result filled inserted
        have isAllowed : Mutation.WellFormed
            (.insert { table := table, rows := rows, onConflict := .error }) := wellFormed
        exact .mutate reached isAllowed inserted
      · exact reached
  | load fixture =>
      refine reached.load ?_
      intro entries name document table columns rows same member _ _ read given givenMember
      rw [StoreCall.WellFormed, same, Json.isWellFormed_object, Bool.and_eq_true,
        Json.entriesWellFormed_iff] at wellFormed
      intro field fieldMember
      exact (Fixture.rowsOf_readBy (wellFormed.2 _ member) read given givenMember field
        fieldMember).isWellFormed
  | mutate mutation => exact reached.apply wellFormed

theorem reached_afterCalls
    {calls : List (Timestamp × StoreCall)}
    (wellFormed : ∀ call ∈ calls, call.2.WellFormed) :
    Reached schema Mutation.WellFormed (afterCalls schema calls) := by
  apply List.foldlRecOn
  · exact .empty
  · intro store reached call member
    exact reached.call call.1 (wellFormed call member)

/-- After any sequence of calls, the constraints of every table admit the rows that it holds. -/
theorem admits_afterCalls
    (schema : Schema)
    (calls : List (Timestamp × StoreCall))
    (wellFormed : ∀ call ∈ calls, call.2.WellFormed) :
    ∀ table ∈ schema.tables, table.Admits ((afterCalls schema calls).rows table.name) := by
  intro table member
  exact (reached_afterCalls wellFormed).admits member

/-- A table of accounts with a numbered key and a unique address. -/
def accounts : Table where
  name := "accounts"
  columns :=
    [ { name := "id", kind := .integer 64 false, primaryKey := true,
        default := some .autoIncrement },
      { name := "address", kind := .text none, unique := true, nullable := true },
      { name := "settings", kind := .json, unique := true, nullable := true } ]

/-- Calls on the table of accounts, the fourth and the fifth of which fail. -/
def accountCalls : List StoreCall :=
  let settings : Json := .object [("size", .int 1), ("color", .string "red")]
  let sameSettings : Json := .object [("color", .string "red"), ("size", .int 1)]
  [ .seed "accounts" [[⟨"address", .string "a"⟩], [⟨"address", .null⟩]],
    .load (.object [("accounts", .array [.object [("settings", settings)]])]),
    .mutate (.insert
      { table := "accounts", rows := [[⟨"id", .uint 1⟩], [⟨"address", .string "b"⟩]] }),
    .mutate (.update { table := "accounts", assignments := [⟨"settings", .json sameSettings⟩] }),
    .seed "accounts" [[⟨"settings", .json sameSettings⟩]],
    .mutate (.delete
      { table := "accounts", filter := some (.compare .equal "address" (.string "a")) }) ]

theorem admits_accounts :
    accounts.Admits
        ((afterCalls (Schema.empty.withTable accounts) (accountCalls.map (default, ·))).rows
          "accounts") ∧
      ((afterCalls (Schema.empty.withTable accounts) (accountCalls.map (default, ·))).rows
        "accounts").length = 3 := by
  refine ⟨?_, by decide +kernel⟩
  refine admits_afterCalls _ _ ?_ accounts List.mem_cons_self
  intro call member
  simp only [accountCalls, List.map_cons, List.map_nil, List.mem_cons, List.not_mem_nil, or_false]
    at member
  rcases member with rfl | rfl | rfl | rfl | rfl | rfl <;>
    simp only [StoreCall.WellFormed, Mutation.WellFormed] <;> decide +kernel

end Store
end RelationalApi
