import RelationalApi.Catalog.Document
import RelationalApi.Proofs.Scalar.Kinds
import RelationalApi.Proofs.Storage.Defaults
import RelationalApi.Proofs.Text.Digits

/-!
# Literal defaults

A column that is declared with a literal default takes the value that the literal stands for in
every row that is inserted without one.  Rows that are given this value and rows that leave it out
are stored alike.

The literal is stored as it stands: a text as a text, a number as a number.  A client that sends the
same literal has it read by the codec of the column, which makes a value of its own kind of it.  The
two are the same value for few kinds of columns.
-/

namespace RelationalApi

open Outcome

/-! ## Literals and what codecs read from them -/

/-- The value that a number stands for by itself. -/
def JsonNumber.toValue : JsonNumber -> Value
  | .int value =>
    if value < Int.pow 2 63 then .int (Int64.ofInt value) else .float (Float.ofInt value)
  | .float value => .float value

/-- The value that a literal stands for by itself, if it is a scalar. -/
def Json.literalValue? : Json -> Option Value
  | .null => some .null
  | .bool value => some (.bool value)
  | .number numeral => some numeral.toValue
  | .string text => some (.string text)
  | _ => none

theorem JsonNumber.toValue_ne
    {value : Value}
    (number : JsonNumber)
    (notInt : ∀ other, value ≠ .int other)
    (notFloat : ∀ other, value ≠ .float other) :
    number.toValue ≠ value := by
  cases number with
  | int _ =>
      rw [toValue]
      split
      · exact (notInt _).symm
      · exact (notFloat _).symm
  | float _ => exact (notFloat _).symm

/-- Whether the value that a codec reads from a literal is the one that the literal stands for by
itself. -/
def Codec.keepsLiteral : Codec -> Json -> Bool
  | _, .null => true
  | .boolean, .bool _ => true
  | .integer bits unsigned, .number (.int _) => integerForm bits unsigned != .text || !unsigned
  | .float, .number (.float _) => true
  | .float, .number (.int value) => Int.pow 2 63 ≤ value
  | .text _, .string _ => true
  | .decimal, .string written => String.ofList (Text.trimBlanks written.toList) == written
  | .uuid, .string written => Uuid.canonical? written == some written
  | .enumeration _ members, .string written =>
    (members.find? fun member => member.name == written || member.value == written).all
      fun member => member.value == written
  | _, _ => false

/-- The greatest integer of a width that is not written as a text is far below 64 bits. -/
theorem integerRange_lt
    {bits : Nat}
    {unsigned : Bool}
    (notText : integerForm bits unsigned ≠ .text) :
    (integerRange bits unsigned).2 < Int.pow 2 63 - 1 := by
  have bounded : bits ≤ 32 := by
    by_contra beyond
    refine notText ?_
    cases unsigned with
    | true =>
        rw [integerForm, if_pos rfl, if_neg (by omega), if_neg (by omega)]
    | false => rw [integerForm, if_neg Bool.false_ne_true, if_neg beyond]
  have power : ∀ exponent ≤ 32, Int.pow 2 exponent ≤ 2 ^ 32 := by
    intro exponent most
    change (2 : Int) ^ exponent ≤ 2 ^ 32
    exact_mod_cast Nat.pow_le_pow_right (by decide : 0 < 2) most
  have wide : Int.pow 2 63 = 2 ^ 63 := rfl
  rw [wide, integerRange]
  split
  · have := power bits bounded
    dsimp only
    omega
  · have := power (bits - 1) (by omega)
    dsimp only
    omega

section Read

variable {literal : Json} {path : String} {stored sent : Value}

theorem toValue_eq_wideInteger_iff
    {value : Int}
    {unsigned : Bool}
    (read : wideInteger? unsigned (toString value).toList = some sent) :
    (JsonNumber.int value).toValue = sent ↔ unsigned = false := by
  cases unsigned with
  | true =>
      simp only [wideInteger?, if_true, Option.bind_eq_bind, Option.bind_eq_some_iff,
        Option.ite_none_right_eq_some, Option.some.injEq] at read
      obtain ⟨_, _, _, rfl⟩ := read
      exact iff_of_false
        (JsonNumber.toValue_ne _ (fun _ => Value.noConfusion) fun _ => Value.noConfusion)
        Bool.true_eq_false.mp
  | false =>
      simp only [wideInteger?, Bool.false_eq_true, if_false, Text.integer?_toString,
        Option.bind_eq_bind, Option.bind_some, Option.ite_none_right_eq_some, Option.some.injEq,
        Bool.and_eq_true, decide_eq_true_eq] at read
      obtain ⟨⟨_, fits⟩, rfl⟩ := read
      exact iff_of_true (if_pos fits) rfl

/-- An integer that is read as such from a number is the one that the number stands for, unless it
is unsigned and of 64 bits. -/
theorem eq_readInteger_iff
    {bits : Nat}
    {unsigned : Bool}
    (stands : literal.literalValue? = some stored)
    (read : readInteger bits unsigned literal path = .ok sent) :
    stored = sent ↔ (Codec.integer bits unsigned).keepsLiteral literal = true := by
  rcases readInteger_eq_ok read with
    ⟨isText, characters, textual, wide⟩ | ⟨notText, number, whole, rfl, isWhole, most, rfl⟩
  · unfold integerText? at textual
    split at textual
    case h_1 text =>
      cases stands
      refine iff_of_false ?_ Bool.false_ne_true
      rcases wideInteger?_kind wide with ⟨_, rfl⟩ | ⟨_, rfl⟩ <;> exact Value.noConfusion
    case h_2 value =>
      cases textual
      cases stands
      rw [toValue_eq_wideInteger_iff wide, Codec.keepsLiteral, isText]
      cases unsigned <;> decide
    case h_3 => cases textual
  · cases stands
    cases number with
    | float value => exact iff_of_false Value.noConfusion Bool.false_ne_true
    | int value =>
        cases isWhole
        -- What is within the range of the width was not cut off at 64 bits.
        have narrow := integerRange_lt notText
        have fits : value < Int.pow 2 63 := by omega
        have isWhole : min value (Int.pow 2 63 - 1) = value := by omega
        rw [JsonNumber.toValue, if_pos fits, isWhole, Codec.keepsLiteral, bne_iff_ne.2 notText]
        exact iff_of_true rfl rfl

/-- A plain value is the one that the literal stands for where its codec keeps the literal. -/
theorem eq_plainValue_iff
    {codec : Codec}
    (notNull : literal ≠ .null)
    (stands : literal.literalValue? = some stored)
    (read : plainValue? codec literal = some sent) :
    stored = sent ↔ codec.keepsLiteral literal = true := by
  unfold plainValue? at read
  split at read
  -- Fractions and truth values are read as they stand.
  case h_1 | h_5 =>
    cases stands
    cases read
    exact iff_of_true rfl rfl
  -- Whole numbers become doubles, which they stand for only beyond 64 bits.
  case h_2 value =>
    cases stands
    cases read
    rw [JsonNumber.toValue, Codec.keepsLiteral, decide_eq_true_iff]
    split
    · exact iff_of_false Value.noConfusion (by omega)
    · exact iff_of_true rfl (by omega)
  -- Decimals, identifiers and members are texts, though not always the given ones.
  case h_3 written =>
    cases stands
    obtain ⟨_, read⟩ := Option.ite_none_right_eq_some.1 read
    cases read
    rw [Codec.keepsLiteral, beq_iff_eq, Value.string.injEq, eq_comm]
  case h_6 text =>
    cases stands
    obtain ⟨canonical, found, rfl⟩ := Option.map_eq_some_iff.1 read
    rw [Codec.keepsLiteral, found, Value.string.injEq, beq_iff_eq, Option.some.injEq, eq_comm]
  case h_13 typeName members text =>
    cases stands
    obtain ⟨member, found, rfl⟩ := Option.map_eq_some_iff.1 read
    rw [Codec.keepsLiteral, found, Value.string.injEq, Option.all_some, beq_iff_eq, eq_comm]
  -- All other values are of kinds that no literal stands for.
  case h_4 number =>
    cases stands
    cases read
    refine iff_of_false
      (number.toValue_ne (fun _ => Value.noConfusion) fun _ => Value.noConfusion) ?_
    cases number <;> exact Bool.false_ne_true
  case h_7 | h_8 | h_9 | h_11 =>
    cases stands
    obtain ⟨_, _, rfl⟩ := Option.map_eq_some_iff.1 read
    exact iff_of_false Value.noConfusion Bool.false_ne_true
  case h_10 value =>
    cases stands
    obtain ⟨_, read⟩ := Option.ite_none_right_eq_some.1 read
    obtain ⟨_, _, rfl⟩ := Option.map_eq_some_iff.1 read
    exact iff_of_false
      (JsonNumber.toValue_ne _ (fun _ => Value.noConfusion) fun _ => Value.noConfusion)
      Bool.false_ne_true
  case h_12 =>
    cases read
    cases literal with
    | null => exact absurd rfl notNull
    | number number =>
        cases stands
        refine iff_of_false
          (number.toValue_ne (fun _ => Value.noConfusion) fun _ => Value.noConfusion) ?_
        cases number <;> exact Bool.false_ne_true
    | bool | string =>
        cases stands
        exact iff_of_false Value.noConfusion Bool.false_ne_true
    | array | object => cases stands
  case h_14 => cases read

/-- What a codec reads from a literal is what the literal stands for exactly where the codec keeps
the literal. -/
theorem eq_read_iff
    {codec : Codec}
    (notNull : literal ≠ .null)
    (stands : literal.literalValue? = some stored)
    (read : codec.read literal path = .ok sent) :
    stored = sent ↔ codec.keepsLiteral literal = true := by
  rcases Codec.read_eq_ok read with
    ⟨bits, unsigned, rfl, readNumber⟩ | ⟨length, rfl, readString⟩ | ⟨_, _, _, rfl, rfl, _⟩ | plain
  · exact eq_readInteger_iff stands readNumber
  · obtain ⟨text, rfl, rfl⟩ := readText_eq_ok readString
    cases stands
    exact iff_of_true rfl rfl
  · cases stands
  · exact eq_plainValue_iff notNull stands plain

/-- What a column reads from a literal is what the literal stands for exactly where the codec of the
column keeps the literal. -/
theorem ColumnCodec.eq_decode_iff
    {column : ColumnCodec}
    (stands : literal.literalValue? = some stored)
    (decoded : column.decode literal path = .ok sent) :
    stored = sent ↔ column.codec.keepsLiteral literal = true := by
  rcases decode_eq_ok.1 decoded with ⟨rfl, _, rfl⟩ | ⟨notNull, read⟩
  · cases stands
    exact iff_of_true rfl (by rw [Codec.keepsLiteral])
  · exact eq_read_iff notNull stands read

end Read

/-! ## Defaults -/

/-- The literal that a declaration gives as the default, unless an automatic number or an expression
takes its place. -/
def ColumnDeclaration.literal? (declaration : ColumnDeclaration) : Option Json :=
  if declaration.autoIncrement || declaration.defaultSql.isSome then none
  else declaration.default

/-- A column has a default, which evaluates to a value whenever a row is inserted. -/
def Column.DefaultsTo (column : Column) (value : Value) : Prop :=
  ∃ default, column.default = some default ∧
    ∀ now rows, Store.defaultValue now column.name rows default = .ok value

/-- A literal default is the value that the literal stands for. -/
theorem ColumnDeclaration.evaluates_of_literalDefault
    {name : String}
    {literal : Json}
    {default : ColumnDefault}
    (accepted : literalDefault name literal = .ok default) :
    ∃ stored, literal.literalValue? = some stored ∧
      ∀ now column rows, Store.defaultValue now column rows default = .ok stored := by
  unfold literalDefault at accepted
  split at accepted
  case h_3 value =>
    refine ⟨(JsonNumber.int value).toValue, rfl, fun now column rows => ?_⟩
    rw [JsonNumber.toValue]
    split at accepted <;> rename_i fits <;> cases accepted
    · rw [if_pos fits]
      rfl
    · rw [if_neg fits]
      rfl
  case h_6 => cases accepted
  all_goals
    cases accepted
    exact ⟨_, rfl, fun _ _ _ => rfl⟩

theorem ColumnDeclaration.columnDefault_of_literal
    {declaration : ColumnDeclaration}
    {literal : Json}
    (isLiteral : declaration.literal? = some literal) :
    declaration.columnDefault = (literalDefault declaration.name literal).map some := by
  rw [literal?, Option.ite_none_left_eq_some, Bool.or_eq_true, not_or, Bool.not_eq_true,
    Bool.not_eq_true, Option.isSome_eq_false_iff, Option.isNone_iff_eq_none] at isLiteral
  obtain ⟨⟨notAutomatic, noExpression⟩, given⟩ := isLiteral
  rw [columnDefault, notAutomatic, if_neg Bool.false_ne_true, noExpression, given]

/-- A column that is declared with a literal default takes the value that the literal stands for. -/
theorem ColumnDeclaration.defaultsTo_of_literal
    {declaration : ColumnDeclaration}
    {column : Column}
    {literal : Json}
    (declared : declaration.toColumn = .ok column)
    (isLiteral : declaration.literal? = some literal) :
    column.name = declaration.name ∧
      ∃ stored, literal.literalValue? = some stored ∧ column.DefaultsTo stored := by
  simp only [toColumn, columnDefault_of_literal isLiteral, bind_eq_ok, pure_eq_ok] at declared
  obtain ⟨found, hasDefault, rfl⟩ := declared
  cases accepted : literalDefault declaration.name literal with
  | error fault =>
      rw [accepted] at hasDefault
      cases hasDefault
  | ok default =>
      rw [accepted] at hasDefault
      cases hasDefault
      obtain ⟨stored, stands, evaluates⟩ := evaluates_of_literalDefault accepted
      exact ⟨rfl, stored, stands, default, rfl, fun now rows => evaluates now _ rows⟩

namespace Store

variable {schema : Schema} {table : Table} {now : Timestamp} {store changed : Store}
variable {rows : List StoredRow} {given : List FieldValue} {row : StoredRow} {column : Column}
variable {name : String} {value : Value}

/-- A row is the stored form of one of some inputs, and holds a certain value under a name that the
input leaves out. -/
def FilledFrom (table : Table) (now : Timestamp) (inputs : List (List FieldValue)) (name : String)
    (value : Value) (row : StoredRow) : Prop :=
  ∃ given ∈ inputs, ∃ before, completeRow table now before given = .ok row ∧
    (fieldValue? given name = none -> fieldValue? row name = some value)

/-- Every row that is inserted without a value for a column holds a certain one. -/
def FillsOmitted (schema : Schema) (table : Table) (name : String) (value : Value) : Prop :=
  ∀ (now : Timestamp) (store changed : Store) (statement : InsertStatement)
    (result : MutationResult),
    statement.table = table.name ->
      store.insert schema now statement = .ok (result, changed) ->
        ∃ inserted, changed.rows table.name = store.rows table.name ++ inserted ∧
          ∀ row ∈ inserted, FilledFrom table now statement.rows name value row

theorem completeField_of_defaultsTo
    (defaults : column.DefaultsTo value)
    (missing : fieldValue? given column.name = none) :
    completeField now rows given column = .ok ⟨column.name, value⟩ := by
  obtain ⟨default, hasDefault, evaluates⟩ := defaults
  rw [completeField, missing, hasDefault]
  exact bind_eq_ok.2 ⟨value, evaluates now rows, rfl⟩

/-- A row that is completed without a value for a column holds its default there. -/
theorem fieldValue?_of_omitted
    (isColumn : table.column? name = some column)
    (defaults : column.DefaultsTo value)
    (missing : fieldValue? given name = none)
    (completed : completeRow table now rows given = .ok row) :
    fieldValue? row name = some value := by
  obtain ⟨_, fields, _⟩ := completeRow_eq_ok.1 completed
  have isNamed := Table.name_of_column? isColumn
  have hasField : name ∈ row.map (·.field) := by
    rw [map_field_of_completeField fields]
    exact List.mem_map.2 ⟨column, Table.mem_of_column? isColumn, isNamed⟩
  obtain ⟨held, found⟩ := Option.isSome_iff_exists.1 ((isSome_fieldValue?_iff row name).2 hasField)
  obtain ⟨first, foundFirst, completedFirst⟩ := completeField_of_fieldValue? fields found
  rw [Table.column?, foundFirst, Option.some.injEq] at isColumn
  subst isColumn
  rw [completeField_of_defaultsTo defaults (isNamed.symm ▸ missing)] at completedFirst
  cases completedFirst
  exact found

theorem fillsOmitted_of_defaultsTo
    (isTable : schema.table? table.name = some table)
    (isColumn : table.column? name = some column)
    (defaults : column.DefaultsTo value) :
    FillsOmitted schema table name value := by
  intro now store changed statement result named succeeded
  obtain ⟨found, inserted, foundTable, admitted, _, rfl⟩ := insert_eq_ok.1 succeeded
  rw [named, isTable] at foundTable
  cases foundTable
  refine ⟨inserted, rows_setRows _ _ _, ?_⟩
  refine admitRows_induction
    (fun pending => ∀ row ∈ pending, FilledFrom table now statement.rows name value row) ?_ ?_
    admitted
  · simp
  · intro pending row given member holds completed _ other otherMember
    rcases List.mem_append.1 otherMember with early | last
    · exact holds other early
    · rw [List.mem_singleton] at last
      subst last
      exact ⟨given, member, _, completed, fun missing =>
        fieldValue?_of_omitted isColumn defaults missing completed⟩

/-- Two lists of given fields that agree, except that one of them leaves out a value that the other
gives. -/
structure Sends (table : Table) (name : String) (value : Value)
    (given sending : List FieldValue) : Prop where
  given_known : ∀ field ∈ given, field.field ∈ table.columnNames
  sending_known : ∀ field ∈ sending, field.field ∈ table.columnNames
  found : ∀ other, fieldValue? sending other = fieldValue? given other ∨
    (other = name ∧ fieldValue? given other = none ∧ fieldValue? sending other = some value)

namespace Sends

variable {sending : List FieldValue}

theorem nil : Sends table name value [] [] :=
  ⟨by simp, by simp, fun _ => .inl rfl⟩

theorem both
    {field : FieldValue}
    (known : field.field ∈ table.columnNames)
    (sends : Sends table name value given sending) :
    Sends table name value (field :: given) (field :: sending) := by
  refine ⟨List.forall_mem_cons.2 ⟨known, sends.given_known⟩,
    List.forall_mem_cons.2 ⟨known, sends.sending_known⟩, fun other => ?_⟩
  rw [fieldValue?_cons, fieldValue?_cons]
  split
  · exact .inl rfl
  · exact sends.found other

theorem one
    (known : name ∈ table.columnNames)
    (missing : fieldValue? given name = none)
    (sends : Sends table name value given sending) :
    Sends table name value given (⟨name, value⟩ :: sending) := by
  refine ⟨sends.given_known, List.forall_mem_cons.2 ⟨known, sends.sending_known⟩, fun other => ?_⟩
  rw [fieldValue?_cons]
  split
  · rename_i same
    exact .inr ⟨same.symm, same ▸ missing, rfl⟩
  · exact sends.found other

end Sends

/-- A default is filled in like a value that is given. -/
theorem completeField_of_sends
    {sending : List FieldValue}
    (sends : Sends table name value given sending)
    (defaults : column.name = name -> column.DefaultsTo value) :
    completeField now rows given column = completeField now rows sending column := by
  rcases sends.found column.name with same | ⟨isNamed, missing, sent⟩
  · rw [completeField, completeField, same]
  · rw [completeField_of_defaultsTo (defaults isNamed) missing, completeField_of_given sent]

theorem completeRow_of_sends
    {sending : List FieldValue}
    (sends : Sends table name value given sending)
    (defaults : ∀ column ∈ table.columns, column.name = name -> column.DefaultsTo value) :
    completeRow table now rows given = completeRow table now rows sending := by
  have known : ∀ {fields : List FieldValue}, (∀ field ∈ fields, field.field ∈ table.columnNames) ->
      checkColumns table (fields.map (·.field)) = .ok () := by
    intro fields isKnown
    exact checkColumns_eq_ok.2 (List.forall_mem_map.2 isKnown)
  have fields : table.columns.mapM (completeField now rows given) =
      table.columns.mapM (completeField now rows sending) :=
    mapM_congr fun column member => completeField_of_sends sends (defaults column member)
  rw [completeRow, completeRow, known sends.given_known, known sends.sending_known, fields]

theorem admitRows_of_sends
    {action : ConflictAction}
    {stored pending : List StoredRow}
    {inputs sending : List (List FieldValue)}
    (pairs : List.Forall₂ (Sends table name value) inputs sending)
    (defaults : ∀ column ∈ table.columns, column.name = name -> column.DefaultsTo value) :
    admitRows table now action stored pending inputs =
      admitRows table now action stored pending sending := by
  induction pairs generalizing pending with
  | nil => rfl
  | cons first _ inductionHypothesis =>
      rw [admitRows, admitRows, completeRow_of_sends first defaults]
      simp only [inductionHypothesis]

/-- An insert that leaves out values that are the defaults does what the insert that gives them
does. -/
theorem insert_of_sends
    {inputs sending : List (List FieldValue)}
    {returning : Option (List String)}
    {action : ConflictAction}
    (isTable : schema.table? table.name = some table)
    (pairs : List.Forall₂ (Sends table name value) inputs sending)
    (defaults : ∀ column ∈ table.columns, column.name = name -> column.DefaultsTo value) :
    store.insert schema now ⟨table.name, inputs, returning, action⟩ =
      store.insert schema now ⟨table.name, sending, returning, action⟩ := by
  rw [insert, insert, target_eq_ok.2 isTable]
  change (admitRows table now action _ [] inputs >>= _) =
    (admitRows table now action _ [] sending >>= _)
  rw [admitRows_of_sends pairs defaults]

end Store
end RelationalApi
