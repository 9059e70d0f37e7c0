import RelationalApi.Proofs.Answer.Layouts
import RelationalApi.Proofs.Answer.Levels
import RelationalApi.Proofs.Interface.InputTypes
import RelationalApi.Proofs.Scalar.Kinds
import RelationalApi.Proofs.Selection.PlanKeys
import RelationalApi.Proofs.Storage.NullValues

/-!
# Nulls against their types

The registered types say of every value in an answer whether it may be null.  A null that stands
where its type admits none is known by its place: the field that answers it, and the lists around
it.  Within the value of a column there can be such a null only in documents.

So an object that is filled from a stored row has a null against its type only in the value of a
column, at whatever depth: relations are null or lists as their types say.  A column has such a null
where the storage computes the column, or where the null is a document.
-/

namespace RelationalApi

open Outcome

/-- The place of a value in an answer: the field that answers it, with the type of the object that
the field belongs to, and the number of lists around the value. -/
structure AnswerPlace where
  owner : String
  field : String
  lists : Nat

/-- The place of the items of a list. -/
def AnswerPlace.item (place : AnswerPlace) : AnswerPlace :=
  { place with lists := place.lists + 1 }

/-- The answer to a selection, which stands at a place, has a null at another one where the type of
that place admits none.  The value of a key is the one for the last field of the key. -/
inductive TypeRegistry.MisplacedNull (registry : TypeRegistry) :
    AnswerPlace -> TypeRef -> Selection -> Json -> AnswerPlace -> Prop
  | here
      {place : AnswerPlace}
      {inner : TypeRef}
      {selection : Selection} :
      MisplacedNull registry place (.nonNull inner) selection .null place
  | nonNull
      {place found : AnswerPlace}
      {inner : TypeRef}
      {selection : Selection}
      {answer : Json}
      (within : MisplacedNull registry place inner selection answer found) :
      MisplacedNull registry place (.nonNull inner) selection answer found
  | item
      {place found : AnswerPlace}
      {element : TypeRef}
      {selection : Selection}
      {items : List Json}
      {item : Json}
      (member : item ∈ items)
      (within : MisplacedNull registry place.item element selection item found) :
      MisplacedNull registry place (.list element) selection (.array items) found
  | entry
      {place found : AnswerPlace}
      {name key : String}
      {selection : Selection}
      {field : SelectedField}
      {definition : OutputField}
      {entries : JsonEntries}
      {value : Json}
      (isValue : entries.lookup key = some value)
      (isLast : lastField? key selection = some field)
      (isDeclared : registry.field? name field.name = some definition)
      (within : MisplacedNull registry ⟨name, field.name, 0⟩ definition.type field.selection value
        found) :
      MisplacedNull registry place (.named name) selection (.object entries) found

namespace TypeRegistry

variable {registry : TypeRegistry} {place found : AnswerPlace} {type : TypeRef}
variable {selection : Selection} {answer : Json}

theorem MisplacedNull.required
    (misplaced : registry.MisplacedNull place type selection answer found) :
    registry.MisplacedNull place type.required selection answer found := by
  cases type with
  | named name => exact .nonNull misplaced
  | list element => exact .nonNull misplaced
  | nonNull inner => exact misplaced

/-- Null stands where its type admits none, or nowhere. -/
theorem MisplacedNull.of_null
    (misplaced : registry.MisplacedNull place type selection .null found) :
    type.isNonNull = true ∧ found = place := by
  generalize isNull : Json.null = answer at misplaced
  induction misplaced with
  | here => exact ⟨rfl, rfl⟩
  | nonNull _ inductionHypothesis => exact ⟨rfl, (inductionHypothesis isNull).2⟩
  | item _ _ _ => cases isNull
  | entry _ _ _ _ _ => cases isNull

/-- There is no null in a text. -/
theorem not_misplacedNull_string (text : String) :
    ¬registry.MisplacedNull place type selection (.string text) found := by
  intro misplaced
  generalize isText : Json.string text = answer at misplaced
  induction misplaced with
  | here => cases isText
  | nonNull _ inductionHypothesis => exact inductionHypothesis isText
  | item _ _ _ => cases isText
  | entry _ _ _ _ _ => cases isText

end TypeRegistry

/-- The number of lists around the items of a column. -/
def Codec.dimensions : Codec -> Nat
  | list element => element.dimensions + 1
  | _ => 0

namespace Codec

variable {registry : TypeRegistry} {place found : AnswerPlace} {selection : Selection}
variable {codec : Codec} {value : Value} {document : Json}

theorem type_eq_named (notList : ∀ element, codec ≠ .list element) :
    codec.kind.type = .named codec.kind.type.baseName := by
  cases codec with
  | integer bits unsigned =>
      rw [kind]
      cases integerForm bits unsigned <;> rfl
  | list element => exact absurd rfl (notList element)
  | _ => rfl

/-- A codec that is not one for lists shows a value without null as null only where it shows the
document null. -/
theorem show?_eq_null
    (notList : ∀ element, codec ≠ .list element)
    (solid : value.Solid)
    (shown : codec.show? value = some .null) :
    codec = .json ∧
      (value = .json .null ∨ ∃ text, value = .string text ∧ showDocumentText text = .null) := by
  cases solid with
  | array _ =>
      rw [Codec.show?.eq_def] at shown
      dsimp only at shown
      split at shown
      · exact absurd rfl (notList _)
      · cases shown
  | plain notNull notArray =>
      rw [show?_eq_showItem? notNull notArray] at shown
      exact showItem?_eq_null shown

/-- A list without null is shown as a list. -/
theorem exists_items_of_show?
    {element : Codec}
    (solid : value.Solid)
    (shown : (list element).show? value = some document) :
    ∃ items documents, document = .array documents ∧ (∀ item ∈ items, Value.Solid item) ∧
      List.Forall₂ (fun item document => element.show? item = some document) items documents := by
  cases solid with
  | array items =>
      rw [Codec.show?] at shown
      obtain ⟨documents, shownItems, rfl⟩ := Option.map_eq_some_iff.1 shown
      exact ⟨_, documents, rfl, items, showItems?_eq_some shownItems⟩
  | plain notNull notArray =>
      rw [show?_eq_showItem? notNull notArray] at shown
      cases value <;> simp [showItem?] at shown

/-- A column other than a list has a null against its type only in its own place. -/
theorem misplacedNull_of_notList
    (notList : ∀ element, codec ≠ .list element)
    (leaf : ∀ name, registry.field? codec.kind.type.baseName name = none)
    (misplaced : registry.MisplacedNull place codec.kind.type.required selection document found) :
    document = .null ∧ found = place := by
  rw [type_eq_named notList] at misplaced
  cases misplaced with
  | here => exact ⟨rfl, rfl⟩
  | nonNull within =>
      cases within with
      | entry _ _ isDeclared _ =>
          rw [leaf] at isDeclared
          cases isDeclared

/-- What is shown of a value without null has a null against its type only for a document: where the
value is shown as the document null, or for such an item of a list. -/
theorem misplacedNull_of_show?
    (leaf : ∀ name, registry.field? codec.kind.type.baseName name = none)
    (solid : value.Solid)
    (shown : codec.show? value = some document)
    (misplaced : registry.MisplacedNull place codec.kind.type.required selection document found) :
    codec.innermost = .json ∧ found = { place with lists := place.lists + codec.dimensions } ∧
      (codec = .json ->
        value = .json .null ∨ ∃ text, value = .string text ∧ showDocumentText text = .null) := by
  induction codec using Codec.listInduction generalizing place value document with
  | list element inductionHypothesis =>
      obtain ⟨items, documents, rfl, solidItems, pairs⟩ := exists_items_of_show? solid shown
      have isList : (list element).kind.type.required =
          .nonNull (.list element.kind.type.required) := rfl
      have elementLeaf : ∀ name, registry.field? element.kind.type.baseName name = none := by
        intro name
        rw [← TypeRef.baseName_required]
        exact leaf name
      rw [isList] at misplaced
      cases misplaced with
      | nonNull within =>
          cases within with
          | item member within =>
              obtain ⟨item, itemMember, shownItem⟩ := exists_item pairs _ member
              obtain ⟨isJson, rfl, _⟩ := inductionHypothesis elementLeaf
                (solidItems item itemMember) shownItem within
              refine ⟨isJson, ?_, Codec.noConfusion⟩
              rw [AnswerPlace.item, dimensions, Nat.add_assoc, Nat.add_comm 1]
  | item codec notList =>
      obtain ⟨rfl, rfl⟩ := misplacedNull_of_notList notList leaf misplaced
      obtain ⟨rfl, isDocument⟩ := show?_eq_null notList solid shown
      exact ⟨rfl, rfl, fun _ => isDocument⟩

end Codec

/-! ## Nulls in filled rows -/

/-- A column may show a null against its type, inside so many lists. -/
inductive Column.ShowsNull (column : Column) (codec : Codec) : Nat -> Prop
  /-- The storage computes the column, which rows may leave out though it does not admit null. -/
  | generated
      (notNullable : column.nullable = false)
      (isGenerated : column.generated = true) :
      ShowsNull column codec 0
  /-- The null is a document in a list. -/
  | item
      (isDocument : codec.innermost = .json)
      (isList : codec ≠ .json) :
      ShowsNull column codec codec.dimensions
  /-- The null is the document that the default of the column denotes. -/
  | default
      {text : String}
      (isDocument : codec = .json)
      (hasDefault : column.default = some (.string text))
      (isNull : showDocumentText text = .null) :
      ShowsNull column codec 0

namespace ColumnCodec

variable {column : ColumnCodec}

theorem isNonNull_outputType : column.outputType.isNonNull = !column.nullable := by
  rw [outputType]
  cases column.nullable with
  | true => exact column.kind.isNonNull_type
  | false => cases column.kind <;> rfl

theorem required_outputType : column.outputType.required = column.codec.kind.type.required := by
  rw [outputType, kind]
  split
  · rfl
  · cases column.codec.kind <;> rfl

end ColumnCodec

/-- A column that holds a value shows a null against its type only where it may. -/
theorem Column.showsNull_of_encode
    {registry : TypeRegistry}
    {place found : AnswerPlace}
    {selection : Selection}
    {table : String}
    {column : Column}
    {codec : ColumnCodec}
    {value : Value}
    {document : Json}
    (mapped : ColumnCodec.ofColumn table column = .ok codec)
    (leaf : ∀ name, registry.field? codec.kind.type.baseName name = none)
    (holds : column.Holds codec.codec value)
    (encoded : codec.encode value = .ok document)
    (misplaced : registry.MisplacedNull place codec.outputType selection document found) :
    ∃ depth, column.ShowsNull codec.codec depth ∧
      found = { place with lists := place.lists + depth } := by
  have shown : codec.codec.show? value = some document := by
    rw [ColumnCodec.encode] at encoded
    split at encoded
    · rename_i shown
      cases encoded
      exact shown
    · cases encoded
  cases holds with
  | null admitted =>
      rw [Codec.show?_null] at shown
      cases shown
      obtain ⟨isNonNull, rfl⟩ := misplaced.of_null
      have sameNullable : codec.nullable = column.nullable := by
        obtain ⟨_, _, same⟩ := bind_eq_ok.1 mapped
        rw [pure_eq_ok] at same
        rw [← same]
      rw [ColumnCodec.isNonNull_outputType, Bool.not_eq_true', sameNullable] at isNonNull
      rw [isNonNull] at admitted
      exact ⟨0, .generated isNonNull (admitted.resolve_left Bool.noConfusion), rfl⟩
  | value supplied =>
      have required := misplaced.required
      rw [ColumnCodec.required_outputType] at required
      obtain ⟨isDocument, rfl, isNull⟩ :=
        Codec.misplacedNull_of_show? leaf supplied.solid shown required
      refine ⟨codec.codec.dimensions, ?_, rfl⟩
      by_cases isJson : codec.codec = .json
      · rcases isNull isJson with isDocumentNull | ⟨text, isText, isShownNull⟩
        · exact absurd isDocumentNull (supplied.notDocumentNull isJson)
        · rw [isJson]
          exact .default rfl (supplied.isDefault isJson text isText) isShownNull
      · exact .item isDocument isJson

namespace Interface

variable {interface : Interface} {schema : Schema} {config : EngineConfig} {types : TableTypes}
variable {shape : Option Shape} {name : String} {place found : AnswerPlace}
variable {selection : Selection} {object : ObjectOutput} {row : Row} {answer : Json}

/-- The type of the rows of a table that were selected for a shape, or that a mutation returns. -/
def rowType (interface : Interface) (types : TableTypes) : Option Shape -> String
  | none => itemTypeName types.name
  | some shape => interface.shapeTypeName shape

/-- The places of the columns of rows where the columns may show null against their types. -/
def AdmitsNull (interface : Interface) (place : AnswerPlace) : Prop :=
  ∃ types ∈ interface.tables, ∃ shape column codec, types.HasShape shape ∧
    place.owner = interface.rowType types shape ∧
    types.table.column? place.field = some column ∧ types.column? place.field = some codec ∧
    column.ShowsNull codec.codec place.lists

/-- An object layout is filled for some of the rows that have a property: for one or none, or for
several. -/
inductive FilledFor (interface : Interface) (object : ObjectOutput) (isRow : Row -> Prop) :
    Cardinality -> Json -> Prop
  | absent : FilledFor interface object isRow .one .null
  | single
      {row : Row}
      {answer : Json}
      (holds : isRow row)
      (fills : fillObject interface object row = .ok answer) :
      FilledFor interface object isRow .one answer
  | several
      {items : List Json}
      (fills : ∀ item ∈ items, ∃ row, isRow row ∧ fillObject interface object row = .ok item) :
      FilledFor interface object isRow .many (.array items)

theorem filledFor_of_fillFirst
    {rows : List Row}
    (fills : fillFirst interface object rows = .ok answer) :
    interface.FilledFor object (· ∈ rows) .one answer := by
  cases rows with
  | nil =>
      cases fills
      exact .absent
  | cons row rows => exact .single List.mem_cons_self fills

theorem exists_row_of_fills
    {rows : List Row}
    {items : List Json}
    (fills : rows.mapM (fillObject interface object) = .ok items) :
    ∀ item ∈ items, ∃ row ∈ rows, fillObject interface object row = .ok item :=
  exists_item (mapM_eq_ok.1 fills)

theorem filledFor_of_fillRows
    {rows : List Row}
    (fills : fillRows interface object rows = .ok answer) :
    interface.FilledFor object (· ∈ rows) .many answer := by
  rw [fillRows, bind_eq_ok] at fills
  obtain ⟨items, fillsItems, same⟩ := fills
  rw [pure_eq_ok] at same
  subst same
  exact .several (exists_row_of_fills fillsItems)

/-- A relation is filled for rows that are carried for it. -/
theorem filledFor_of_fillEntry
    {typeName table key : String}
    {cardinality : Cardinality}
    (fills : fillEntry interface typeName table (.relation key name cardinality object) row
      = .ok answer) :
    interface.FilledFor object (row.Carries name) cardinality answer := by
  cases cardinality with
  | one =>
      rw [fillEntry] at fills
      split at fills
      · rename_i first isFirst
        obtain ⟨nested, isNested, isHead⟩ := Option.bind_eq_some_iff.1 isFirst
        refine .single ⟨nested, isNested, ?_⟩ fills
        cases nested with
        | single inner => exact Option.mem_toList.2 isHead
        | list rows => exact List.mem_of_head? isHead
      · cases fills
        exact .absent
  | many =>
      rw [fillEntry, bind_eq_ok] at fills
      obtain ⟨items, fillsItems, same⟩ := fills
      rw [pure_eq_ok] at same
      subst same
      refine .several fun item member => ?_
      obtain ⟨inner, isInner, fillsItem⟩ := exists_row_of_fills fillsItems item member
      cases isNested : row.relation? name with
      | none =>
          rw [isNested] at isInner
          cases isInner
      | some nested =>
          rw [isNested] at isInner
          exact ⟨inner, ⟨nested, isNested, isInner⟩, fillsItem⟩

/-- The form of filled rows is the one of their type, so a null against that type is in a row. -/
theorem FilledFor.exists_row
    {isRow : Row -> Prop}
    {cardinality : Cardinality}
    {typeName : String}
    (filled : interface.FilledFor object isRow cardinality answer)
    (misplaced : interface.registry.MisplacedNull place (cardinality.answerType typeName) selection
      answer found) :
    ∃ row item within, isRow row ∧ fillObject interface object row = .ok item ∧
      interface.registry.MisplacedNull within (.named typeName) selection item found := by
  cases filled with
  | absent => cases misplaced.of_null.1
  | single holds fills => exact ⟨_, _, _, holds, fills, misplaced⟩
  | several fills =>
      cases misplaced with
      | nonNull isList =>
          cases isList with
          | item member isItem =>
              obtain ⟨row, holds, fillsItem⟩ := fills _ member
              cases isItem with
              | here =>
                  obtain ⟨_, impossible, _⟩ := exists_entries_of_fillObject fillsItem
                  cases impossible
              | nonNull within => exact ⟨row, _, _, holds, fillsItem, within⟩

theorem encode_of_fillColumn
    {codec : ColumnCodec}
    {columns : List String}
    {stored : StoredRow}
    (foundTypes : interface.table? types.name = some types)
    (isColumn : types.column? name = some codec)
    (fields : row.fields = Store.project columns stored)
    (fills : fillColumn interface types.name name row = .ok answer) :
    codec.encode ((fieldValue? stored name).getD .null) = .ok answer := by
  rw [fillColumn, foundTypes, Option.bind_some, isColumn] at fills
  dsimp only at fills
  split at fills
  · cases fills
  · rename_i returned
    rw [Row.field?, fields] at returned
    obtain ⟨_, isLoaded, isNamed⟩ := List.mem_map.1 (mem_of_fieldValue? returned)
    cases isNamed
    rw [Store.fieldValue?_project stored isLoaded] at returned
    cases returned
    exact fills

theorem find?_columnFields
    {columns : List ColumnCodec}
    {codec : ColumnCodec}
    (found : columns.find? (fun column => column.column == name) = some codec) :
    (columnFields columns).find? (fun field => field.name == name) =
      some { name := codec.column, type := codec.outputType } := by
  rw [columnFields, List.find?_map]
  exact congrArg (Option.map _) found

/-- The type of rows has a field for each column of their table. -/
theorem field?_column
    (generated : generate schema config = .ok interface)
    (foundTypes : interface.table? types.name = some types)
    (hasShape : types.HasShape shape)
    (areShapes : ∀ parent, shape = some parent -> parent ∈ schema.shapes config.depthLimit)
    {codec : ColumnCodec}
    (isColumn : types.column? name = some codec) :
    interface.registry.field? (interface.rowType types shape) name =
      some { name := codec.column, type := codec.outputType } := by
  rw [TypeRegistry.field?]
  cases shape with
  | none =>
      have member := List.mem_of_find?_eq_some foundTypes
      rw [rowType, (registers_of_generate generated).objectFields?_item member, Option.bind_some]
      exact find?_columnFields isColumn
  | some parent =>
      have sameColumns : columnsOf interface.tables parent.table = types.columns := by
        rw [table?] at foundTypes
        rw [hasShape parent rfl, columnsOf, foundTypes]
      rw [rowType, objectFields?_shape generated (areShapes parent rfl), Option.bind_some,
        sameColumns, List.find?_append, find?_columnFields isColumn, Option.some_or]

/-- What is filled for a column of a stored row has a null against its type only where the column
may show it. -/
theorem admitsNull_of_fillColumn
    {codec : ColumnCodec}
    {columns : List String}
    {stored : StoredRow}
    {field : OutputField}
    (generated : generate schema config = .ok interface)
    (holds : types.Holds stored)
    (foundTypes : interface.table? types.name = some types)
    (hasShape : types.HasShape shape)
    (areShapes : ∀ parent, shape = some parent -> parent ∈ schema.shapes config.depthLimit)
    (isColumn : types.column? name = some codec)
    (isDeclared : interface.registry.field? (interface.rowType types shape) name = some field)
    (fields : row.fields = Store.project columns stored)
    (fills : fillColumn interface types.name name row = .ok answer)
    (misplaced : interface.registry.MisplacedNull ⟨interface.rowType types shape, name, 0⟩
      field.type selection answer found) :
    interface.AdmitsNull found := by
  have member := List.mem_of_find?_eq_some foundTypes
  obtain ⟨table, _, mapped⟩ :=
    (represents_of_generate generated).table?_eq_some.1 foundTypes
  obtain ⟨column, foundColumn, mappedColumn⟩ := (TableTypes.column?_eq_some mapped).1 isColumn
  rw [← (TableTypes.ofTable_eq_ok mapped).1] at foundColumn
  rw [field?_column generated foundTypes hasShape areShapes isColumn] at isDeclared
  cases isDeclared
  have encoded := encode_of_fillColumn foundTypes isColumn fields fills
  have held := holds _ _ _ foundColumn isColumn
  have leaf := (registers_of_generate generated).field?_value member
    (List.mem_of_find?_eq_some isColumn)
  obtain ⟨depth, shows, rfl⟩ :=
    Column.showsNull_of_encode mappedColumn leaf held encoded misplaced
  rw [← Nat.zero_add depth] at shows
  exact ⟨types, member, shape, column, codec, hasShape, rfl, foundColumn, isColumn, shows⟩

/-- What is filled for a relation has a null against its type only in the rows that are carried for
the relation. -/
theorem exists_row_of_fillRelation
    {typeName table key : String}
    {parent : Shape}
    {relation : Relation}
    {field : OutputField}
    (childTypes : TableTypes)
    (generated : generate schema config = .ok interface)
    (isParent : parent ∈ schema.shapes config.depthLimit)
    (isRelation : parent.relation? interface.schema name = some relation)
    (isDeclared : interface.registry.field? (interface.rowType types (some parent)) name
      = some field)
    (fills : fillEntry interface typeName table
      (.relation key relation.name relation.cardinality object) row = .ok answer)
    (misplaced : interface.registry.MisplacedNull place field.type selection answer found) :
    ∃ inner item within, row.Carries relation.name inner ∧
      fillObject interface object inner = .ok item ∧
        interface.registry.MisplacedNull within
          (.named (interface.rowType childTypes (some (parent.follow relation)))) selection item
          found := by
  rw [rowType, field?_relation generated isParent isRelation] at isDeclared
  cases isDeclared
  rw [type_relationField] at misplaced
  have sameType : (parent.follow relation).typeName config.depthLimit =
      interface.rowType childTypes (some (parent.follow relation)) := by
    rw [rowType, shapeTypeName, (represents_of_generate generated).config_eq]
  rw [sameType] at misplaced
  exact (filledFor_of_fillEntry fills).exists_row misplaced

/-- What is filled from a stored row has a null against its type only where a column may show it. -/
theorem admitsNull_of_fillObject
    {stands : String -> StoredRow -> Prop}
    (generated : generate schema config = .ok interface)
    (holds : ∀ types ∈ interface.tables, ∀ stored, stands types.name stored -> types.Holds stored)
    (laidOut : interface.LaysOutRows types shape selection object)
    (areShapes : ∀ parent, shape = some parent -> parent ∈ schema.shapes config.depthLimit)
    (views : row.Views schema stands types.name)
    (fills : fillObject interface object row = .ok answer)
    (misplaced : interface.registry.MisplacedNull place (.named (interface.rowType types shape))
      selection answer found) :
    interface.AdmitsNull found := by
  induction selection using Selection.below_induction
    generalizing types shape object row answer place with
  | step selection below =>
      obtain ⟨entries, isTable⟩ := laidOut.entries
      obtain ⟨foundTypes, hasShape, _⟩ := laidOut
      have member := List.mem_of_find?_eq_some foundTypes
      obtain ⟨isStored, fields, relations⟩ := views
      obtain ⟨filled, rfl, fillsEntries⟩ := exists_entries_of_fillObject fills
      cases misplaced with
      | @entry _ _ _ key _ field _ _ _ isValue isLast isDeclared within =>
          obtain ⟨last, entry, isLastAgain, isEntry, fillsEntry⟩ := exists_lastField_of_fillEntries
            (fun _ _ => RowEntry.key_eq) entries fillsEntries isValue
          rw [isLast, Option.some.injEq] at isLastAgain
          subst isLastAgain
          rw [isTable, Option.getD_some] at fillsEntry
          cases isEntry with
          | typename _ =>
              rw [fillEntry] at fillsEntry
              cases fillsEntry
              exact absurd within (TypeRegistry.not_misplacedNull_string _)
          | column _ isColumn =>
              rw [fillEntry] at fillsEntry
              exact admitsNull_of_fillColumn generated (holds types member _ isStored) foundTypes
                hasShape areShapes isColumn isDeclared fields fillsEntry within
          | @relation parent relation childTypes _ isShape isRelation isTarget laidOutInner =>
              subst isShape
              have isParent := areShapes parent rfl
              obtain ⟨inner, item, innerPlace, carries, fillsInner, withinInner⟩ :=
                exists_row_of_fillRelation childTypes generated isParent isRelation isDeclared
                  fillsEntry within
              obtain ⟨isNamed, leads⟩ :=
                (represents_of_generate generated).leads_of_relation? hasShape rfl isRelation
              rw [← isNamed] at leads
              have viewsInner := relations _ inner relation carries leads
              rw [← isTarget] at viewsInner
              have isField : field ∈ selection :=
                List.mem_reverse.1 (List.mem_of_find?_eq_some isLast)
              refine below field isField laidOutInner ?_ viewsInner fillsInner withinInner
              rintro _ ⟨⟩
              exact follow_mem_shapes generated isParent isRelation

end Interface

end RelationalApi
