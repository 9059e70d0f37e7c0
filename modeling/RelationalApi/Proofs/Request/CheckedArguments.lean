import RelationalApi.Proofs.Arguments.DeclaredKeys
import RelationalApi.Request.Compilation

/-!
# Checked keys of arguments

Arguments are sorted by their names, and those that are given are compiled as documents of the types
that their field declares.  So the keys of all arguments are checked: those of filters and orders,
and those of the rows that are inserted and of the assignments of updates.
-/

namespace RelationalApi

open Outcome

open TypeRegistry

section Arguments

variable {registry : TypeRegistry} {declared : List InputField} {place path : String}
variable {arguments : JsonEntries} {key : InputKey} {table name : String}

/-- The keys in the values of arguments, where an argument that is not given is null. -/
def DocumentKey (registry : TypeRegistry) (declared : List InputField) (path : String)
    (arguments : JsonEntries) (key : InputKey) : Prop :=
  ∃ argument ∈ declared, registry.KeyWithin argument.type (extendPath path argument.name)
    ((given? arguments argument.name).getD .null) key

/-- The value of an argument has the keys of its entry, since null has none. -/
theorem keyWithin_given
    (distinct : arguments.keys.Nodup)
    {type : TypeRef} :
    registry.KeyWithin type path ((given? arguments name).getD .null) key ↔
      ∃ document, (name, document) ∈ arguments ∧ registry.KeyWithin type path document key := by
  have nothing : ¬registry.KeyWithin type path .null key :=
    not_keyWithin_of_kind (by simp) (by simp) key
  have isEntry : ∀ document, (name, document) ∈ arguments ↔
      arguments.lookup name = some document := fun document =>
    ⟨JsonEntries.lookup_of_mem distinct, JsonEntries.mem_of_lookup⟩
  simp only [isEntry]
  rw [given?.eq_def]
  cases arguments.lookup name with
  | none => simp [nothing]
  | some document => cases document <;> simp [nothing]

/-- Arguments have their names as keys, and the keys in their values. -/
theorem argumentKey_iff (distinct : arguments.keys.Nodup) :
    registry.ArgumentKey declared place path arguments key ↔
      (∃ entry ∈ arguments, key = ⟨place, entry.1, declared.map (·.name)⟩) ∨
        DocumentKey registry declared path arguments key := by
  rw [ArgumentKey, DocumentKey]
  simp only [EntryKey, and_or_left, exists_or, keyWithin_given distinct]
  refine or_congr_right ?_
  constructor
  · rintro ⟨⟨name, document⟩, isEntry, argument, isDeclared, rfl, within⟩
    exact ⟨argument, isDeclared, document, isEntry, within⟩
  · rintro ⟨argument, isDeclared, document, isEntry, within⟩
    exact ⟨(argument.name, document), isEntry, argument, isDeclared, rfl, within⟩

theorem not_documentKey_nil : ¬DocumentKey registry [] path arguments key := by
  rintro ⟨_, impossible, _⟩
  cases impossible

theorem documentKey_cons {argument : InputField} :
    DocumentKey registry (argument :: declared) path arguments key ↔
      registry.KeyWithin argument.type (extendPath path argument.name)
          ((given? arguments argument.name).getD .null) key ∨
        DocumentKey registry declared path arguments key :=
  List.exists_mem_cons_iff ..

theorem documentKey_singleton {argument : InputField} :
    DocumentKey registry [argument] path arguments key ↔
      registry.KeyWithin argument.type (extendPath path argument.name)
        ((given? arguments argument.name).getD .null) key := by
  rw [documentKey_cons]
  exact or_iff_left not_documentKey_nil

/-- The arguments that declare a filter and an order. -/
def whereArgument (table : String) : InputField :=
  ⟨"where", .named (filtersName table), none⟩

def orderByArgument (table : String) : InputField :=
  ⟨"orderBy", .named (orderByName table), none⟩

/-- Where the other arguments are counts, the keys of arguments are those of the filter and those of
the order. -/
theorem documentKey_select
    (hasWhere : whereArgument table ∈ declared)
    (hasOrderBy : orderByArgument table ∈ declared)
    (others : ∀ argument ∈ declared, argument = whereArgument table ∨
      argument = orderByArgument table ∨ registry.namesOf? argument.type.baseName = none) :
    DocumentKey registry declared path arguments key ↔
      registry.KeyWithin (.named (filtersName table)) (extendPath path "where")
          ((given? arguments "where").getD .null) key ∨
        registry.KeyWithin (.named (orderByName table)) (extendPath path "orderBy")
          ((given? arguments "orderBy").getD .null) key := by
  constructor
  · rintro ⟨argument, isDeclared, within⟩
    rcases others argument isDeclared with rfl | rfl | isLeaf
    · exact .inl within
    · exact .inr within
    · exact absurd within (not_keyWithin isLeaf)
  · rintro (within | within)
    · exact ⟨_, hasWhere, within⟩
    · exact ⟨_, hasOrderBy, within⟩

/-- The names of arguments are checked against the allowed ones. -/
theorem checkArguments_checksKeys
    {allowed names : List String}
    (same : ∀ name, name ∈ allowed ↔ name ∈ names)
    (place : String)
    (arguments : JsonEntries) :
    ChecksKeys (fun key => ∃ entry ∈ arguments, key = ⟨place, entry.1, names⟩)
      (checkArguments allowed place arguments) := by
  refine checksKeys_names allowed.contains (fun name => ?_) (fun entry found => ?_) fun passed => ?_
  · rw [List.contains_iff_mem, same]
  · rw [checkArguments, found]
  · rw [checkArguments, passed]
    exact .ok ()

theorem readCount_knowsFields (arguments : JsonEntries) (path name : String) :
    KnowsFields (readCount arguments path name) := by
  rw [readCount.eq_def]
  split
  · exact .ok _
  · split <;> simp [KnowsFields]

theorem SelectArguments.read_knowsFields (path : String) (arguments : JsonEntries) :
    KnowsFields (SelectArguments.read path arguments) :=
  (readCount_knowsFields _ _ _).bind fun _ => (readCount_knowsFields _ _ _).bind fun _ => .ok _

/-- The filter and the order of a select are those that are given, or null. -/
theorem SelectArguments.read_eq_ok
    {sorted : SelectArguments}
    (read : SelectArguments.read path arguments = .ok sorted) :
    sorted.filter = (given? arguments "where").getD .null ∧
      sorted.orderBy = (given? arguments "orderBy").getD .null := by
  simp only [SelectArguments.read, bind_eq_ok, pure_eq_ok] at read
  obtain ⟨_, _, _, _, rfl⟩ := read
  exact ⟨rfl, rfl⟩

end Arguments

section Inputs

variable {registry : TypeRegistry} {types : TableTypes} {fields : List InputField} {type : TypeRef}

theorem readInputFields_knowsFields
    (areColumns : ∀ field ∈ fields, (types.column? field.name).isSome = true)
    (path : String)
    (entries : JsonEntries) :
    KnowsFields (readInputFields types path entries fields) := by
  induction fields with
  | nil => exact .ok _
  | cons field fields inductionHypothesis =>
      rw [List.forall_mem_cons] at areColumns
      have others := inductionHypothesis areColumns.2
      rw [readInputFields.eq_def]
      dsimp only
      split
      · split
        · exact .refused (by simp)
        · exact others
      · rename_i noColumn
        rw [noColumn] at areColumns
        cases areColumns.1
      · rename_i column _ _
        refine KnowsFields.bind ?_ fun _ => others.bind fun _ => .ok _
        rw [ColumnCodec.decode]
        split
        · split <;> simp [KnowsFields]
        · exact column.codec.read_knowsFields _ _

/-- An input object checks the names that its type declares. -/
theorem readInputRow_checksKeys
    (type : TypeRef)
    (isInput : registry.namesOf? type.baseName = some fields)
    (leaves : ∀ field ∈ fields, registry.namesOf? field.type.baseName = none)
    (areColumns : ∀ field ∈ fields, (types.column? field.name).isSome = true)
    (path : String)
    (entries : JsonEntries) :
    ChecksKeys (registry.KeyWithin type path (.object entries))
      (readInputRow types fields path entries) := by
  refine ChecksKeys.congr (checksKeys_names (fun name => fields.any fun field => field.name == name)
    (fun name => ?_) (fun entry found => ?_) fun passed => ?_)
    fun key => keyWithin_leaves isInput leaves
  · simp
  · rw [readInputRow, found]
  · rw [readInputRow, passed]
    exact readInputFields_knowsFields areColumns path entries

theorem readInputRows_checksKeys
    (type : TypeRef)
    (isInput : registry.namesOf? type.baseName = some fields)
    (leaves : ∀ field ∈ fields, registry.namesOf? field.type.baseName = none)
    (areColumns : ∀ field ∈ fields, (types.column? field.name).isSome = true)
    (index : Nat)
    (rows : List JsonEntries) :
    ChecksKeys (ItemKey registry type "values" index (rows.map .object))
      (readInputRows types fields index rows) := by
  induction rows generalizing index with
  | nil =>
      rw [readInputRows]
      exact .of_none (by simp [ItemKey]) (.ok _)
  | cons entries rows inductionHypothesis =>
      rw [readInputRows, List.map_cons]
      refine (readInputRow_checksKeys type isInput leaves areColumns _ entries).bind (fun _ _ => ?_)
        fun _ => itemKey_cons
      exact (inductionHypothesis (index + 1)).andThen fun _ => .ok _

theorem readInputObject_eq_ok
    {path : String}
    {document : Json}
    {entries : JsonEntries} :
    readInputObject path document = .ok entries ↔ document = .object entries := by
  cases document <;> simp [readInputObject]

theorem readInputObject_knowsFields (path : String) (document : Json) :
    KnowsFields (readInputObject path document) := by
  cases document <;> simp [readInputObject, KnowsFields]

theorem readInputObjects_eq_ok
    {path : String}
    {index : Nat}
    {documents : List Json}
    {rows : List JsonEntries} :
    readInputObjects path index documents = .ok rows ↔ documents = rows.map .object := by
  induction documents generalizing index rows with
  | nil => rw [readInputObjects, Except.ok.injEq, eq_comm, @eq_comm _ [], List.map_eq_nil_iff]
  | cons document documents inductionHypothesis =>
      simp only [readInputObjects, bind_eq_ok, pure_eq_ok, readInputObject_eq_ok,
        inductionHypothesis]
      constructor
      · rintro ⟨entries, rfl, others, rfl, rfl⟩
        rfl
      · intro same
        cases rows with
        | nil => cases same
        | cons entries others =>
            cases same
            exact ⟨entries, rfl, others, rfl, rfl⟩

theorem readInputObjects_knowsFields
    (path : String)
    (index : Nat)
    (documents : List Json) :
    KnowsFields (readInputObjects path index documents) := by
  induction documents generalizing index with
  | nil => exact .ok _
  | cons document documents inductionHypothesis =>
      rw [readInputObjects]
      exact (readInputObject_knowsFields _ _).bind fun _ =>
        (inductionHypothesis (index + 1)).bind fun _ => .ok _

/-- The rows of a list of objects, or of an object outside a list. -/
theorem readRowList_eq_ok
    {operation : String}
    {document : Json}
    {rows : List JsonEntries} :
    readRowList operation document = .ok rows ↔
      (∃ entries, document = .object entries ∧ [entries] = rows) ∨
        (document = .array (rows.map .object) ∧ rows ≠ []) := by
  rw [readRowList.eq_def]
  dsimp only
  split
  · constructor
    · intro impossible
      cases impossible
    · rintro (⟨_, impossible, _⟩ | ⟨same, notEmpty⟩)
      · cases impossible
      · rw [Json.array.injEq, eq_comm, List.map_eq_nil_iff] at same
        exact absurd same notEmpty
  · rename_i documents notEmpty
    rw [readInputObjects_eq_ok]
    simp only [reduceCtorEq, false_and, exists_false, false_or, Json.array.injEq]
    refine (and_iff_left_of_imp ?_).symm
    rintro same rfl
    exact notEmpty same
  · rename_i notArray
    simp only [bind_eq_ok, pure_eq_ok, readInputObject_eq_ok]
    refine (or_iff_left ?_).symm
    rintro ⟨same, _⟩
    exact notArray _ same

theorem readRowList_knowsFields (operation : String) (document : Json) :
    KnowsFields (readRowList operation document) := by
  rw [readRowList.eq_def]
  dsimp only
  split
  · exact .refused (by simp)
  · exact readInputObjects_knowsFields _ _ _
  · exact (readInputObject_knowsFields _ _).bind fun _ => .ok _

section Writable

variable {table : Table}

theorem mem_of_writablePairs
    {columns : List ColumnCodec}
    {pair : Column × ColumnCodec}
    (isWritable : pair ∈ writablePairs table columns) :
    pair.1 ∈ table.columns ∧ pair.2 ∈ columns :=
  List.of_mem_zip (List.mem_filter.1 isWritable).1

/-- The inputs of rows declare columns, with the types of their values. -/
theorem insertFields_leaves (declares : registry.DeclaresInputs types) :
    ∀ field ∈ insertFields table types.columns,
      registry.namesOf? field.type.baseName = none := by
  intro field isField
  obtain ⟨pair, isWritable, rfl⟩ := List.mem_map.1 isField
  rw [insertField]
  dsimp only
  split
  · rw [TypeRef.baseName_required]
    exact declares.values _ (mem_of_writablePairs isWritable).2
  · exact declares.values _ (mem_of_writablePairs isWritable).2

theorem updateFields_leaves (declares : registry.DeclaresInputs types) :
    ∀ field ∈ updateFields table types.columns,
      registry.namesOf? field.type.baseName = none := by
  intro field isField
  obtain ⟨pair, isWritable, rfl⟩ := List.mem_map.1 isField
  exact declares.values _ (mem_of_writablePairs isWritable).2

theorem isSome_column?_writable
    (mapped : TableTypes.ofTable table = .ok types)
    {pair : Column × ColumnCodec}
    (isWritable : pair ∈ writablePairs types.table types.columns) :
    (types.column? pair.1.name).isSome = true := by
  rw [(TableTypes.ofTable_eq_ok mapped).1] at isWritable
  obtain ⟨_, column, _, found⟩ := TableTypes.exists_column? mapped
    (List.mem_map_of_mem (mem_of_writablePairs isWritable).1)
  rw [found]
  rfl

theorem insertFields_columns (mapped : TableTypes.ofTable table = .ok types) :
    ∀ field ∈ insertFields types.table types.columns,
      (types.column? field.name).isSome = true := by
  intro field isField
  obtain ⟨pair, isWritable, rfl⟩ := List.mem_map.1 isField
  exact isSome_column?_writable mapped isWritable

theorem updateFields_columns (mapped : TableTypes.ofTable table = .ok types) :
    ∀ field ∈ updateFields types.table types.columns,
      (types.column? field.name).isSome = true := by
  intro field isField
  obtain ⟨pair, isWritable, rfl⟩ := List.mem_map.1 isField
  exact isSome_column?_writable mapped isWritable

end Writable

/-- The assignments of an update check the keys that they have as an input object. -/
theorem readAssignmentRow_checksKeys
    (declares : registry.DeclaresInputs types)
    {table : Table}
    (mapped : TableTypes.ofTable table = .ok types)
    (entries : JsonEntries) :
    ChecksKeys (registry.KeyWithin (.nonNull (.named (updateInputName types.name))) "set"
        (.object entries))
      (readInputRow types (updateFields types.table types.columns) "set" entries) :=
  readInputRow_checksKeys (.nonNull (.named (updateInputName types.name))) declares.updates
    (updateFields_leaves declares) (updateFields_columns mapped) "set" entries

/-- The only row of an insert checks the keys that it has as an input object. -/
theorem readInsertRow_checksKeys
    (type : TypeRef)
    (isInput : type.baseName = insertInputName types.name)
    (declares : registry.DeclaresInputs types)
    {table : Table}
    (mapped : TableTypes.ofTable table = .ok types)
    (entries : JsonEntries) :
    ChecksKeys (registry.KeyWithin type "values" (.object entries))
      (readInsertRows types [entries]) := by
  rw [readInsertRows]
  refine (readInputRow_checksKeys type ?_ (insertFields_leaves declares)
    (insertFields_columns mapped) "values" entries).andThen fun _ => .ok _
  rw [isInput]
  exact declares.inserts

/-- The rows of an insert check the keys that they have as a list of input objects. -/
theorem readInsertRows_checksKeys
    (declares : registry.DeclaresInputs types)
    {table : Table}
    (mapped : TableTypes.ofTable table = .ok types)
    {operation : String}
    {document : Json}
    {rows : List JsonEntries}
    (read : readRowList operation document = .ok rows) :
    ChecksKeys (registry.KeyWithin (requiredListOf (insertInputName types.name)) "values" document)
      (readInsertRows types rows) := by
  rcases readRowList_eq_ok.1 read with ⟨entries, rfl, rfl⟩ | ⟨rfl, notEmpty⟩
  · exact readInsertRow_checksKeys _ rfl declares mapped entries
  · match rows with
    | [] => exact absurd rfl notEmpty
    | [entries] =>
        have checks := readInsertRow_checksKeys (.nonNull (.named (insertInputName types.name))) rfl
          declares mapped entries
        exact .single rfl checks
    | first :: second :: others =>
        have checks := readInputRows_checksKeys (.nonNull (.named (insertInputName types.name)))
          declares.inserts (insertFields_leaves declares) (insertFields_columns mapped) 0
          (first :: second :: others)
        exact .array rfl checks

end Inputs

end RelationalApi
