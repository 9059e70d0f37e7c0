import RelationalApi.Catalog.Schema
import RelationalApi.Error.Execution
import RelationalApi.Storage.Evaluation
import RelationalApi.Storage.Mutation
import RelationalApi.Storage.Row

/-!
# Storage in memory

A store holds the rows of each table in the order in which they were inserted.  Each statement
either succeeds as a whole or fails and leaves the store as it was.

Inserted rows are completed by the defaults of the columns.  A row must have a value in every
column that does not admit null, unless the storage computes the column, and must differ from
every other row in the primary key taken as a whole and in every other unique column; null does not
count as a value there.
-/

namespace RelationalApi

/-- The rows of tables by name. -/
structure Store where
  tables : List (String × List StoredRow) := []
  deriving Inhabited

namespace Store

def empty : Store := ⟨[]⟩

/-- The rows of a table; a table that nothing was inserted into has none. -/
def rows (store : Store) (table : String) : List StoredRow :=
  (store.tables.lookup table).getD []

/-- Replaces the rows of a table in a list of tables. -/
def replaceRows (table : String) (rows : List StoredRow) :
    List (String × List StoredRow) → List (String × List StoredRow)
  | [] => [(table, rows)]
  | (name, stored) :: tables =>
    if name = table then (name, rows) :: tables
    else (name, stored) :: replaceRows table rows tables

/-- Replaces the rows of a table. -/
def setRows (store : Store) (table : String) (rows : List StoredRow) : Store :=
  ⟨replaceRows table rows store.tables⟩

theorem lookup_replaceRows (table other : String) (rows : List StoredRow)
    (tables : List (String × List StoredRow)) :
    (replaceRows table rows tables).lookup other =
      if other = table then some rows else tables.lookup other := by
  induction tables with
  | nil =>
    by_cases same : other = table
    · simp [replaceRows, same]
    · simp [replaceRows, List.lookup_cons, same, beq_eq_false_iff_ne.2 same]
  | cons entry tables ih =>
    obtain ⟨name, stored⟩ := entry
    by_cases here : name = table
    · subst here
      by_cases same : other = name
      · simp [replaceRows, same]
      · simp [replaceRows, List.lookup_cons, same, beq_eq_false_iff_ne.2 same]
    · by_cases same : other = name
      · subst same
        simp [replaceRows, here]
      · simp [replaceRows, List.lookup_cons, here, beq_eq_false_iff_ne.2 same, ih]

@[simp] theorem rows_setRows (store : Store) (table : String) (rows : List StoredRow) :
    (store.setRows table rows).rows table = rows := by
  simp [Store.rows, setRows, lookup_replaceRows]

theorem rows_setRows_of_ne (store : Store) {table other : String} (rows : List StoredRow)
    (different : other ≠ table) : (store.setRows table rows).rows other = store.rows other := by
  simp [Store.rows, setRows, lookup_replaceRows, different]

/-- The table of a statement. -/
def target (schema : Schema) (name : String) : Except ExecutionError Table :=
  match schema.table? name with
  | some table => .ok table
  | none => .error (.unknownTable name)

/-- Checks that columns exist. -/
def checkColumns (table : Table) (columns : List String) : Except ExecutionError Unit :=
  match columns.find? fun column => !table.hasColumn column with
  | some column => .error (.unknownColumn column table.name)
  | none => .ok ()

/-- Checks that columns that do not admit null have values. -/
def checkNotNull (table : Table) (row : StoredRow) : Except ExecutionError Unit :=
  match table.columns.find? fun column =>
      !column.nullable && !column.generated && (present? row column.name).isNone with
  | some column => .error (.nullValue column.name table.name)
  | none => .ok ()

/-- The number after the greatest 64-bit number in a column, starting from one. -/
def nextNumber (column : String) (rows : List StoredRow) : Int64 :=
  let numbers := rows.filterMap fun row => (fieldValue? row column).bind Value.int?
  match numbers with
  | [] => 1
  | first :: others => others.foldl max first + 1

/-- The value of a default, given the rows before the inserted one. -/
def defaultValue (now : Timestamp) (column : String) (rows : List StoredRow) :
    ColumnDefault → Except ExecutionError Value
  | .null => .ok .null
  | .bool value => .ok (.bool value)
  | .int value => .ok (.int value)
  | .float value => .ok (.float value)
  | .string text => .ok (.string text)
  | .currentTimestamp => .ok (.timestamp now)
  | .autoIncrement => .ok (.int (nextNumber column rows))
  | .expression sql => .error (.defaultNotEvaluated sql column)

/-- The field of a column in an inserted row. -/
def completeField (now : Timestamp) (rows : List StoredRow) (given : List FieldValue)
    (column : Column) : Except ExecutionError FieldValue :=
  match fieldValue? given column.name, column.default with
  | some value, _ => .ok ⟨column.name, value⟩
  | none, none => .ok ⟨column.name, .null⟩
  | none, some default => do
    let value ← defaultValue now column.name rows default
    return ⟨column.name, value⟩

/-- The stored form of an inserted row, given the rows before it. -/
def completeRow (table : Table) (now : Timestamp) (rows : List StoredRow)
    (given : List FieldValue) : Except ExecutionError StoredRow := do
  checkColumns table (given.map (·.field))
  let row ← table.columns.mapM (completeField now rows given)
  checkNotNull table row
  return row

/-- Whether two rows have the same value, other than null, in a column. -/
def agree (left right : StoredRow) (column : String) : Bool :=
  match present? left column, fieldValue? right column with
  | some value, some other => value.equal other
  | _, _ => false

/-- The columns in which a row conflicts with another row: the primary key, else the first unique
column outside it. -/
def conflict? (table : Table) (row : StoredRow) (others : List StoredRow) : Option String :=
  let key := (table.columns.filter (·.primaryKey)).map (·.name)
  if !key.isEmpty && others.any fun other => key.all (agree row other) then
    some (", ".intercalate key)
  else
    (table.columns.find? fun column =>
      column.unique && !column.primaryKey &&
        others.any fun other => agree row other column.name).map (·.name)

/-- The columns of a stored row that a request asks for. -/
def project (columns : List String) (row : StoredRow) : List FieldValue :=
  columns.map fun column => ⟨column, (fieldValue? row column).getD .null⟩

/-- The answer of a mutation that affected rows. -/
def answer (returning : Option (List String)) (affected : List StoredRow) : MutationResult :=
  match returning with
  | some columns => ⟨affected.length, some (affected.map fun row => ⟨project columns row, []⟩)⟩
  | none => ⟨affected.length, none⟩

/-- The stored forms of inserted rows.  `pending` holds those of the statement so far. -/
def admitRows (table : Table) (now : Timestamp) (onConflict : ConflictAction)
    (stored pending : List StoredRow) :
    List (List FieldValue) → Except ExecutionError (List StoredRow)
  | [] => .ok pending
  | given :: rest => do
    let row ← completeRow table now (stored ++ pending) given
    match conflict? table row (stored ++ pending), onConflict with
    | none, _ => admitRows table now onConflict stored (pending ++ [row]) rest
    | some _, .doNothing => admitRows table now onConflict stored pending rest
    | some column, .error => throw (.duplicateKey column table.name)

/-- Inserts rows. -/
def insert (schema : Schema) (now : Timestamp) (statement : InsertStatement) (store : Store) :
    Except ExecutionError (MutationResult × Store) := do
  let table ← target schema statement.table
  let stored := store.rows table.name
  let inserted ← admitRows table now statement.onConflict stored [] statement.rows
  return (answer statement.returning inserted, store.setRows table.name (stored ++ inserted))

/-- Gives a field of a row a value. -/
def assign (row : StoredRow) (assignment : FieldValue) : StoredRow :=
  match row with
  | [] => []
  | entry :: rest =>
    if entry.field = assignment.field then ⟨entry.field, assignment.value⟩ :: rest
    else entry :: assign rest assignment

/-- The rows after an update, each with whether it was matched. -/
def updateMatched (statement : UpdateStatement) (rows : List StoredRow) :
    List (Bool × StoredRow) :=
  rows.map fun row =>
    if Filter.accepts statement.filter row then (true, statement.assignments.foldl assign row)
    else (false, row)

/-- Checks that no matched row conflicts with another row.  `before` holds the rows in front. -/
def checkConflicts (table : Table) (before : List StoredRow) :
    List (Bool × StoredRow) → Except ExecutionError Unit
  | [] => .ok ()
  | (isMatched, row) :: rest =>
    let others := before ++ rest.map (·.2)
    match isMatched, conflict? table row others with
    | true, some column => .error (.duplicateKey column table.name)
    | _, _ => checkConflicts table (before ++ [row]) rest

/-- Updates the rows that a filter holds on. -/
def update (schema : Schema) (statement : UpdateStatement) (store : Store) :
    Except ExecutionError (MutationResult × Store) := do
  let table ← target schema statement.table
  checkColumns table (statement.assignments.map (·.field))
  let updated := updateMatched statement (store.rows table.name)
  let affected := (updated.filter (·.1)).map (·.2)
  affected.forM (checkNotNull table)
  checkConflicts table [] updated
  return (answer statement.returning affected, store.setRows table.name (updated.map (·.2)))

/-- Deletes the rows that a filter holds on. -/
def delete (schema : Schema) (statement : DeleteStatement) (store : Store) :
    Except ExecutionError (MutationResult × Store) := do
  let table ← target schema statement.table
  let (removed, kept) := (store.rows table.name).partition (Filter.accepts statement.filter)
  return (answer statement.returning removed, store.setRows table.name kept)

/-- Carries out a mutation. -/
def mutate (schema : Schema) (now : Timestamp) (mutation : Mutation) (store : Store) :
    Except ExecutionError (MutationResult × Store) :=
  match mutation with
  | .insert statement => store.insert schema now statement
  | .update statement => store.update schema statement
  | .delete statement => store.delete schema statement

/-- The rows of a table that a relation leads to from a row. -/
def related (store : Store) (relation : Relation) (fromColumn toColumn : String)
    (row : StoredRow) : List StoredRow :=
  match present? row fromColumn with
  | some key =>
    (store.rows relation.target).filter fun other =>
      match fieldValue? other toColumn with
      | some value => value.equal key
      | none => false
  | none => []

/-- The join of an included relation of a table. -/
def join (schema : Schema) (table name : String) :
    Except ExecutionError (Relation × String × String) :=
  match schema.relation? table name with
  | none => .error (.unknownRelation table name)
  | some relation =>
    match relation.joinColumns? with
    | some (fromColumn, toColumn) => .ok (relation, fromColumn, toColumn)
    | none => .error (.relationWithoutJoin relation.name relation.source)

/-- The rows of a page. -/
def page {α : Type} (offset limit : Option Nat) (rows : List α) : List α :=
  let rest := rows.drop (offset.getD 0)
  match limit with
  | some limit => rest.take limit
  | none => rest

/-- The candidate rows that a query selects, in its order. -/
def selected (query : SelectQuery) (candidates : List StoredRow) : List StoredRow :=
  page query.offset query.limit
    (sortRows query.orderBy (candidates.filter (Filter.accepts query.filter)))

/-- Related rows in the form for the cardinality of their relation. -/
def nest (cardinality : Cardinality) (rows : List Row) : Nested Row :=
  match cardinality with
  | .one => .single rows.head?
  | .many => .list rows

mutual

/-- Selects among candidate rows and follows the included relations. -/
def selectFrom (schema : Schema) (store : Store) :
    SelectQuery → List StoredRow → Except ExecutionError (List Row)
  | ⟨tableName, columns, filter, orderBy, offset, limit, includes⟩, candidates => do
    let table ← target schema tableName
    checkColumns table columns
    let query : SelectQuery := ⟨tableName, columns, filter, orderBy, offset, limit, includes⟩
    (selected query candidates).mapM fun row => do
      let relations ← followIncludes schema store tableName row includes
      return ⟨project columns row, relations⟩

/-- Follows relations from a row of a table. -/
def followIncludes (schema : Schema) (store : Store) (table : String) (row : StoredRow) :
    List (String × SelectQuery) → Except ExecutionError (List (String × Nested Row))
  | [] => .ok []
  | (name, query) :: includes => do
    let (relation, fromColumn, toColumn) ← join schema table name
    let rows ← selectFrom schema store query (store.related relation fromColumn toColumn row)
    let others ← followIncludes schema store table row includes
    return (name, nest relation.cardinality rows) :: others

end

/-- Carries out a query. -/
def select (schema : Schema) (query : SelectQuery) (store : Store) :
    Except ExecutionError (List Row) :=
  selectFrom schema store query (store.rows query.table)

end Store
end RelationalApi
