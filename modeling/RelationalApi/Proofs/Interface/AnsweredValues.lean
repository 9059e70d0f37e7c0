import RelationalApi.Proofs.Interface.ClosedTypes
import RelationalApi.Proofs.Scalar.Integers
import RelationalApi.Proofs.Scalar.Kinds

/-!
# Answers of the advertised kind

Clients know a column by a kind, which is chosen apart from the rules by which its values are read
and shown.  What a column shows of a value that it read is nevertheless a value of this kind, down
to the items of nested lists, none of which is null.  Doubles and documents are left out.
-/

namespace RelationalApi

open Outcome

/-- A document is a value of a kind, where enums have the values that are registered under their
names.  Without doubles the kind `Float` is left for unsigned numbers of 32 bits. -/
def ScalarKind.Admits (registry : TypeRegistry) : ScalarKind -> Json -> Prop
  | int, document => ∃ whole : Int, document = .int whole ∧ -2 ^ 31 ≤ whole ∧ whole < 2 ^ 31
  | float, document => ∃ whole : Int, document = .int whole ∧ 0 ≤ whole ∧ whole < 2 ^ 32
  | string, document => ∃ text, document = .string text
  | boolean, document => ∃ value, document = .bool value
  | json, _ => True
  | enumeration typeName, document =>
      ∃ values text, registry.enumValues? typeName = some values ∧ text ∈ values ∧
        document = .string text
  | list element, document =>
      ∃ items, document = .array items ∧
        ∀ item ∈ items, item ≠ .null ∧ element.Admits registry item

/-- No kind but that of documents admits null. -/
theorem ScalarKind.Admits.ne_null
    {registry : TypeRegistry}
    {kind : ScalarKind}
    {document : Json}
    (notDocuments : kind ≠ .json)
    (admits : kind.Admits registry document) :
    document ≠ .null := by
  rintro rfl
  cases kind with
  | json => exact notDocuments rfl
  | _ => simp [Admits, Json.int] at admits

namespace Codec

/-- A codec without doubles and documents, also inside lists, whose integers have one of the usual
widths. -/
def IsExact : Codec -> Prop
  | integer bits _ => bits ∈ [8, 16, 32, 64]
  | float => False
  | json => False
  | list element => element.IsExact
  | _ => True

/-- The enum inside all lists of a codec has its members registered under its name. -/
def IsRegistered (registry : TypeRegistry) (codec : Codec) : Prop :=
  ∀ typeName members, codec.innermost = .enumeration typeName members ->
    registry.enumValues? typeName = some (members.map (·.name))

variable {registry : TypeRegistry} {document : Json} {path : String} {value : Value}

/-- The kind of integers admits the integers of the width in the form in which they are shown. -/
theorem admits_showInteger
    {bits : Nat}
    {unsigned : Bool}
    {whole : Int}
    (width : bits ∈ [8, 16, 32, 64])
    (fits : FitsBits bits unsigned whole) :
    (integer bits unsigned).kind.Admits registry (showInteger bits unsigned whole) := by
  rw [showInteger_eq width]
  simp only [List.mem_cons, List.not_mem_nil, or_false] at width
  cases unsigned with
  | true =>
      rw [FitsBits, if_pos rfl] at fits
      rcases width with rfl | rfl | rfl | rfl
      · exact ⟨whole, rfl, by omega, by omega⟩
      · exact ⟨whole, rfl, by omega, by omega⟩
      · exact ⟨whole, rfl, fits⟩
      · exact ⟨_, rfl⟩
  | false =>
      rw [FitsBits, if_neg Bool.false_ne_true] at fits
      rcases width with rfl | rfl | rfl | rfl
      · exact ⟨whole, rfl, by omega, by omega⟩
      · exact ⟨whole, rfl, by omega, by omega⟩
      · exact ⟨whole, rfl, fits⟩
      · exact ⟨_, rfl⟩

/-- What is read as an integer is an integer of the width. -/
theorem exists_integer_of_read
    {bits : Nat}
    {unsigned : Bool}
    (width : bits ∈ [8, 16, 32, 64])
    (read : readInteger bits unsigned document path = .ok value) :
    ∃ whole, value.integer? = some whole ∧ FitsBits bits unsigned whole := by
  rcases readInteger_eq_ok read with
    ⟨isText, characters, _, wide⟩ | ⟨notText, number, whole, rfl, isWhole, most, rfl⟩
  · obtain ⟨whole, isInteger, again⟩ := exists_of_wideInteger? wide
    rw [(integerForm_eq_text_iff bits width unsigned).1 isText]
    exact ⟨whole, isInteger, (wideInteger?_toString_eq_some.1 again).1⟩
  · -- The number is read like the integer that it is, and this one only in the range.
    have isWide := mt (integerForm_eq_text_iff bits width unsigned).2 notText
    have narrow := integerRange_narrow bits width isWide unsigned
    have sameWhole : wholeInt64? (.int whole) = some whole := by
      rw [wholeInt64?, Option.some.injEq]
      omega
    rw [readInteger_whole notText isWhole sameWhole] at read
    obtain ⟨fits, same⟩ := (readInteger_int_eq_ok width).1 read
    rw [same]
    exact ⟨whole, integer?_integerValue width fits, fits⟩

/-- A codec for enums reads nothing but stored texts of members. -/
theorem exists_member_of_read
    {typeName text : String}
    {members : List EnumMember}
    (read : (enumeration typeName members).read document path = .ok (.string text)) :
    ∃ member ∈ members, member.value = text := by
  rcases read_eq_ok read with
    ⟨_, _, impossible, _⟩ | ⟨_, impossible, _⟩ | ⟨_, _, _, impossible, _⟩ | plain
  · cases impossible
  · cases impossible
  · cases impossible
  · cases document with
    | string given =>
        obtain ⟨member, found, same⟩ := Option.map_eq_some_iff.1 plain
        cases same
        exact ⟨member, List.mem_of_find?_eq_some found, rfl⟩
    | _ => cases plain

/-- The stored text of a member is shown as a name among those of the members. -/
theorem exists_name_of_member
    {typeName : String}
    {members : List EnumMember}
    {member : EnumMember}
    (isMember : member ∈ members) :
    ∃ name ∈ members.map (·.name),
      showItem? (enumeration typeName members) (.string member.value) = some (.string name) := by
  have canShow : (showItem? (enumeration typeName members) (.string member.value)).isSome = true :=
    isSome_showItem?_member isMember
  obtain ⟨shown, isShown⟩ := Option.isSome_iff_exists.1 canShow
  obtain ⟨first, found, same⟩ := Option.map_eq_some_iff.1 isShown
  exact ⟨first.name, List.mem_map_of_mem (List.mem_of_find?_eq_some found), by rw [isShown, same]⟩

/-- A value that is no list is shown in one step. -/
theorem Yields.show?_eq
    {codec : Codec}
    (yields : codec.Yields value)
    (notList : ∀ element, codec ≠ .list element) :
    codec.show? value = showItem? codec value := by
  cases yields with
  | list items => exact absurd rfl (notList _)
  | _ => exact show?_eq_showItem? Value.noConfusion fun _ => Value.noConfusion

/-- What a codec without lists shows of a value that it read is of the kind of the codec. -/
theorem exists_shown_item
    {codec : Codec}
    (notList : ∀ element, codec ≠ .list element)
    (exact : codec.IsExact)
    (registered : codec.IsRegistered registry)
    (read : codec.read document path = .ok value) :
    ∃ shown, codec.show? value = some shown ∧ codec.kind.Admits registry shown := by
  have yields := yields_of_read read
  rw [yields.show?_eq notList]
  have isText (text : String) : ScalarKind.string.Admits registry (.string text) := ⟨text, rfl⟩
  cases yields with
  | signed number =>
      obtain ⟨whole, isWhole, fits⟩ := exists_integer_of_read exact read
      exact ⟨_, showItem?_integer isWhole, admits_showInteger exact fits⟩
  | unsigned number =>
      obtain ⟨whole, isWhole, fits⟩ := exists_integer_of_read exact read
      exact ⟨_, showItem?_integer isWhole, admits_showInteger exact fits⟩
  | float number => exact exact.elim
  | json read => exact exact.elim
  | boolean value => exact ⟨_, rfl, value, rfl⟩
  | enumeration text =>
      obtain ⟨member, isMember, rfl⟩ := exists_member_of_read read
      obtain ⟨name, isName, isShown⟩ := exists_name_of_member isMember
      exact ⟨_, isShown, _, name, registered _ _ rfl, isName, rfl⟩
  | list items => exact absurd rfl (notList _)
  | _ => exact ⟨_, rfl, isText _⟩

/-! ## Lists -/

theorem kind_ne_json {codec : Codec} (exact : codec.IsExact) : codec.kind ≠ .json := by
  cases codec with
  | integer bits unsigned =>
      rw [kind]
      split <;> exact ScalarKind.noConfusion
  | json => exact exact.elim
  | _ => exact ScalarKind.noConfusion

/-- Items that are shown one by one, as values of a kind, are shown as a list of such values. -/
theorem exists_shown_items
    {element : Codec}
    {values : List Value}
    (each : ∀ value ∈ values, ∃ shown, element.show? value = some shown ∧
      element.kind.Admits registry shown) :
    ∃ shown, element.showItems? values = some shown ∧
      ∀ item ∈ shown, element.kind.Admits registry item := by
  induction values with
  | nil => exact ⟨[], rfl, List.forall_mem_nil _⟩
  | cons value values inductionHypothesis =>
      rw [List.forall_mem_cons] at each
      obtain ⟨⟨first, isFirst, admitsFirst⟩, others⟩ := each
      obtain ⟨rest, areOthers, admitOthers⟩ := inductionHypothesis others
      refine ⟨first :: rest, ?_, List.forall_mem_cons.2 ⟨admitsFirst, admitOthers⟩⟩
      rw [showItems?, isFirst, areOthers]
      rfl

/-- What a codec shows of a value that it read is of the kind of the codec, at any depth of
lists. -/
theorem exists_shown
    (codec : Codec)
    (exact : codec.IsExact)
    (registered : codec.IsRegistered registry)
    (read : codec.read document path = .ok value) :
    ∃ shown, codec.show? value = some shown ∧ codec.kind.Admits registry shown := by
  induction codec using listInduction generalizing document path value with
  | item codec notList => exact exists_shown_item notList exact registered read
  | list element inductionHypothesis =>
      rcases read_eq_ok read with
        ⟨_, _, impossible, _⟩ | ⟨_, impossible, _⟩ |
          ⟨_, items, values, same, rfl, readAll, rfl⟩ | plain
      · cases impossible
      · cases impossible
      · cases same
        have each : ∀ value ∈ values, ∃ shown, element.show? value = some shown ∧
            element.kind.Admits registry shown := by
          intro value member
          obtain ⟨item, _, _, readItem⟩ := exists_item (readItems_eq_ok readAll) value member
          exact inductionHypothesis exact registered readItem
        have notDocuments : element.kind ≠ .json := kind_ne_json exact
        obtain ⟨shown, areShown, admits⟩ := exists_shown_items each
        refine ⟨.array shown, by rw [show?, areShown, Option.map_some], shown, rfl, ?_⟩
        exact fun item member => ⟨(admits item member).ne_null notDocuments, admits item member⟩
      · cases document <;> cases plain

end Codec

/-- What a column shows of a value other than null that it read from a client is a value of the kind
under which clients know the column, in every registry that has the enum of the column. -/
theorem ColumnCodec.answers_admitted
    {column : ColumnCodec}
    {registry : TypeRegistry}
    {document : Json}
    {path : String}
    {value : Value}
    (exact : column.codec.IsExact)
    (registers : ∀ definition, column.enumDefinition? = some definition ->
      registry.get? definition.name = some definition)
    (decoded : column.decode document path = .ok value)
    (notNull : value ≠ .null) :
    ∃ shown, column.encode value = .ok shown ∧ column.kind.Admits registry shown := by
  have registered : column.codec.IsRegistered registry := by
    intro typeName members isEnum
    have isDefinition : column.enumDefinition? =
        some { name := typeName, content := .enumeration (members.map (·.name)) } := by
      rw [enumDefinition?, isEnum]
    rw [TypeRegistry.enumValues?, registers _ isDefinition]
  rcases decode_eq_ok.1 decoded with ⟨_, _, isNull⟩ | ⟨_, read⟩
  · exact absurd isNull notNull
  · obtain ⟨shown, isShown, admits⟩ := column.codec.exists_shown exact registered read
    exact ⟨shown, by rw [encode, isShown], admits⟩

/-- A generated interface has the enums of all its columns. -/
theorem Interface.registers_enumDefinition
    {interface : Interface}
    {schema : Schema}
    {config : EngineConfig}
    {types : TableTypes}
    (generated : generate schema config = .ok interface)
    (member : types ∈ interface.tables)
    {column : ColumnCodec}
    (isColumn : column ∈ types.columns) :
    ∀ definition, column.enumDefinition? = some definition ->
      interface.registry.get? definition.name = some definition := by
  intro definition isDefinition
  refine (registers_of_generate generated).tables types member definition ?_
  refine List.mem_append_left _ (List.mem_append_left _ (List.mem_flatMap.2 ⟨column, isColumn, ?_⟩))
  rw [columnDefinitions, isDefinition]
  exact List.mem_append_left _ (List.mem_singleton_self _)

/-- Folders with flags in nested lists, one of which clients know under another name. -/
def archive : Schema :=
  Schema.empty.withTable
    { name := "folders"
      columns :=
        [ { name := "id", kind := .integer 64 true, primaryKey := true },
          { name := "flags", kind := .array (.array (.enumeration "flag" ["read-only", "old"])) } ] }

theorem ColumnCodec.answers_admitted_archive :
    ∃ interface types column, Interface.generate archive {} = .ok interface ∧
      types ∈ interface.tables ∧ column ∈ types.columns ∧
      column.kind = .list (.list (.enumeration "FlagEnum")) ∧
      column.decode (.array [.array [], .array [.string "old", .string "read-only"]]) "flags"
        = .ok (.array [.array [], .array [.string "old", .string "read-only"]]) ∧
      ∃ shown, column.encode (.array [.array [], .array [.string "old", .string "read-only"]])
          = .ok shown ∧
        column.kind.Admits interface.registry shown := by
  have generates :
      ((Interface.generate archive {}).toOption.map fun interface =>
        interface.tables.map (·.columns)) =
        some [[⟨"id", false, .integer 64 true⟩,
          ⟨"flags", false, .list (.list (.enumeration "FlagEnum"
            [⟨"read_only", "read-only"⟩, ⟨"old", "old"⟩]))⟩]] := by
    decide +kernel
  obtain ⟨interface, generated, areColumns⟩ := Option.map_eq_some_iff.1 generates
  rw [toOption_eq_some] at generated
  obtain ⟨types, member, isFolders⟩ := List.mem_map.1
    (areColumns ▸ List.mem_singleton_self _)
  have isColumn := isFolders ▸ List.mem_cons_of_mem _ (List.mem_singleton_self _)
  have decoded :
      decode ⟨"flags", false, .list (.list (.enumeration "FlagEnum"
          [⟨"read_only", "read-only"⟩, ⟨"old", "old"⟩]))⟩
        (.array [.array [], .array [.string "old", .string "read-only"]]) "flags"
        = .ok (.array [.array [], .array [.string "old", .string "read-only"]]) := by
    rfl
  refine ⟨interface, types, _, generated, member, isColumn, rfl, decoded, ?_⟩
  exact answers_admitted trivial (Interface.registers_enumDefinition generated member isColumn)
    decoded Value.noConfusion

end RelationalApi
