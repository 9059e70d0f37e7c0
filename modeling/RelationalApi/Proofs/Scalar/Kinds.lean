import RelationalApi.Proofs.Scalar.Decoding
import RelationalApi.Proofs.Scalar.Shown
import RelationalApi.Proofs.Storage.SelfEquality

/-!
# Values that codecs read

Whatever a codec reads is of one kind, except that whole numbers may be signed or unsigned.  It is
no null and has none in a list, and it equals itself, since all doubles in it are finite.
-/

namespace RelationalApi

open Outcome

/-! ## Values without null

A codec shows a value other than null as null only where the value is a document, or a text that is
read as one. -/

/-- A value that is not null and has no null in it. -/
inductive Value.Solid : Value -> Prop
  | array
      {items : List Value}
      (solid : ∀ item ∈ items, Solid item) :
      Solid (.array items)
  | plain
      {value : Value}
      (notNull : value ≠ .null)
      (notArray : ∀ items, value ≠ .array items) :
      Solid value

/-- What a default evaluates to is no array. -/
theorem solid_of_defaultValue
    {now : Timestamp}
    {column : String}
    {rows : List StoredRow}
    {default : ColumnDefault}
    {value : Value}
    (evaluated : Store.defaultValue now column rows default = .ok value)
    (notNull : value ≠ .null) :
    value.Solid := by
  refine .plain notNull ?_
  rintro items rfl
  cases default <;> cases evaluated

namespace Codec

/-- What holds of the codecs for values without items, and passes on to lists, holds of every
codec. -/
@[elab_as_elim]
theorem listInduction
    {motive : Codec -> Prop}
    (list : ∀ element, motive element -> motive (.list element))
    (item : ∀ codec, (∀ element, codec ≠ .list element) -> motive codec)
    (codec : Codec) :
    motive codec := by
  induction codec with
  | list element inductionHypothesis => exact list element inductionHypothesis
  | _ => exact item _ (by intro element same; cases same)

/-- A codec reads no null. -/
theorem read_solid
    (codec : Codec)
    {document : Json}
    {path : String}
    {value : Value}
    (succeeded : codec.read document path = .ok value) :
    value.Solid := by
  induction codec using listInduction generalizing document path value with
  | list element inductionHypothesis =>
      rcases read_eq_ok succeeded with
        ⟨_, _, impossible, _⟩ | ⟨_, impossible, _⟩ | ⟨_, items, values, same, _, read, rfl⟩ | plain
      · cases impossible
      · cases impossible
      · cases same
        refine .array fun value member => ?_
        obtain ⟨item, _, _, readItem⟩ := exists_item (readItems_eq_ok read) value member
        exact inductionHypothesis readItem
      · exact .plain (plainValue?_kind plain).1 (plainValue?_kind plain).2
  | item codec notList =>
      rcases read_eq_ok succeeded with
        ⟨_, _, _, read⟩ | ⟨_, _, read⟩ | ⟨element, _, _, isList, _⟩ | plain
      · rcases readInteger_kind read with ⟨_, rfl⟩ | ⟨_, rfl⟩ <;>
          exact .plain Value.noConfusion fun _ => Value.noConfusion
      · obtain ⟨_, _, rfl⟩ := readText_eq_ok read
        exact .plain Value.noConfusion fun _ => Value.noConfusion
      · exact absurd isList (notList element)
      · exact .plain (plainValue?_kind plain).1 (plainValue?_kind plain).2

theorem isNull_of_read
    (codec : Codec)
    {document : Json}
    {path : String}
    {value : Value}
    (succeeded : codec.read document path = .ok value) :
    value.isNull = false := by
  cases codec.read_solid succeeded with
  | array _ => rfl
  | plain notNull _ => cases value <;> first | rfl | exact absurd rfl notNull

theorem showInteger_ne_null (bits : Nat) (unsigned : Bool) (value : Int) :
    showInteger bits unsigned value ≠ .null := by
  rw [showInteger]
  split <;> exact Json.noConfusion

theorem finiteNumber?_ne_null (value : Float) : finiteNumber? value ≠ some .null := by
  rw [finiteNumber?]
  split <;> simp

theorem showTimestampText_ne_null (text : String) : showTimestampText text ≠ .null := by
  rw [showTimestampText]
  split <;> exact Json.noConfusion

/-- Only documents, and texts that are read as one, are shown as null. -/
theorem showItem?_eq_null
    {codec : Codec}
    {value : Value}
    (shown : showItem? codec value = some .null) :
    codec = .json ∧
      (value = .json .null ∨ ∃ text, value = .string text ∧ showDocumentText text = .null) := by
  unfold showItem? at shown
  split at shown <;>
    simp_all [showInteger_ne_null, finiteNumber?_ne_null, showTimestampText_ne_null, Json.int,
      Json.nat]

/-- The items of a list are shown one by one. -/
theorem showItems?_eq_some
    {codec : Codec}
    {items : List Value}
    {documents : List Json}
    (shown : codec.showItems? items = some documents) :
    List.Forall₂ (fun item document => codec.show? item = some document) items documents := by
  induction items generalizing documents with
  | nil =>
      rw [showItems?] at shown
      cases shown
      exact .nil
  | cons item items inductionHypothesis =>
      simp only [showItems?, Option.bind_eq_bind, Option.bind_eq_some_iff, Option.pure_def,
        Option.some.injEq] at shown
      obtain ⟨document, first, others, rest, rfl⟩ := shown
      exact .cons first (inductionHypothesis rest)

end Codec

/-! ## Kinds of values -/

/-- A value is of the kind that a codec reads. -/
inductive Codec.Yields : Codec -> Value -> Prop
  | signed {bits : Nat} {unsigned : Bool} (number : Int64) :
      Yields (.integer bits unsigned) (.int number)
  | unsigned {bits : Nat} {unsigned : Bool} (number : UInt64) :
      Yields (.integer bits unsigned) (.uint number)
  | float (number : Float) : Yields .float (.float number)
  | decimal (text : String) : Yields .decimal (.string text)
  | boolean (value : Bool) : Yields .boolean (.bool value)
  | text {length : Option Nat} (text : String) : Yields (.text length) (.string text)
  | uuid (text : String) : Yields .uuid (.string text)
  | date (date : Date) : Yields .date (.date date)
  | time (time : Time) : Yields .time (.time time)
  | timestamp (timestamp : Timestamp) : Yields .timestamp (.timestamp timestamp)
  | binary (content : List UInt8) : Yields .binary (.bytes content)
  | json (document : Json) : Yields .json (.json document)
  | enumeration {typeName : String} {members : List EnumMember} (text : String) :
      Yields (.enumeration typeName members) (.string text)
  | list {element : Codec} (items : List Value) : Yields (.list element) (.array items)

namespace Codec

variable {codec : Codec} {document : Json} {path : String} {value : Value}

theorem yields_of_plainValue? (found : plainValue? codec document = some value) :
    codec.Yields value := by
  unfold plainValue? at found
  split at found <;> grind [Option.map_eq_some_iff, Yields]

theorem yields_of_read (succeeded : codec.read document path = .ok value) :
    codec.Yields value := by
  rcases read_eq_ok succeeded with
    ⟨_, _, rfl, read⟩ | ⟨_, rfl, read⟩ | ⟨_, _, _, rfl, _, _, rfl⟩ | plain
  · rcases readInteger_kind read with ⟨number, rfl⟩ | ⟨number, rfl⟩
    · exact .signed number
    · exact .unsigned number
  · obtain ⟨text, _, rfl⟩ := readText_eq_ok read
    exact .text text
  · exact .list _
  · exact yields_of_plainValue? plain

theorem equal_self_of_plainValue?
    (wellFormed : document.isWellFormed = true)
    (found : plainValue? codec document = some value) :
    value.equal value = true := by
  cases yields_of_plainValue? found with
  | float number =>
      cases document with
      | number read =>
          cases read with
          | int whole =>
              cases found
              rw [Json.isWellFormed, JsonNumber.isWellFormed, Bool.and_eq_true,
                decide_eq_true_iff, decide_eq_true_iff] at wellFormed
              exact Value.equal_float_self (Double.isFinite_ofInt wellFormed.1 wellFormed.2)
          | float read =>
              cases found
              exact Value.equal_float_self wellFormed
      | _ => cases found
  | json read =>
      rw [plainValue?] at found
      cases found
      exact Value.equal_json_self wellFormed
  | list items => cases document <;> cases found
  | _ => simp

/-- A value that is read from a well-formed document equals itself. -/
theorem equal_self_of_read
    (codec : Codec)
    {document : Json}
    {path : String}
    {value : Value}
    (wellFormed : document.isWellFormed = true)
    (succeeded : codec.read document path = .ok value) :
    value.equal value = true := by
  induction codec generalizing document path value with
  | list element inductionHypothesis =>
      rcases read_eq_ok succeeded with
        ⟨_, _, impossible, _⟩ | ⟨_, impossible, _⟩ |
          ⟨_, items, values, same, rfl, read, rfl⟩ | plain
      · cases impossible
      · cases impossible
      · cases same
        rw [Json.isWellFormed_array, Json.itemsWellFormed_iff] at wellFormed
        refine Value.equal_array_self fun value member => ?_
        obtain ⟨item, itemMember, _, readItem⟩ := exists_item (readItems_eq_ok read) value member
        exact inductionHypothesis (wellFormed item itemMember) readItem
      · exact equal_self_of_plainValue? wellFormed plain
  | _ =>
      rcases read_eq_ok succeeded with
        ⟨_, _, _, read⟩ | ⟨_, _, read⟩ | ⟨_, _, _, impossible, _⟩ | plain
      · rcases readInteger_kind read with ⟨_, rfl⟩ | ⟨_, rfl⟩ <;> simp
      · obtain ⟨_, _, rfl⟩ := readText_eq_ok read
        simp
      · cases impossible
      · exact equal_self_of_plainValue? wellFormed plain

end Codec

/-- A column reads null, or a value of the kind of its codec. -/
theorem ColumnCodec.yields_of_decode
    {column : ColumnCodec}
    {document : Json}
    {path : String}
    {value : Value}
    (decoded : column.decode document path = .ok value) :
    value = .null ∨ column.codec.Yields value := by
  rcases decode_eq_ok.1 decoded with ⟨_, _, isNull⟩ | ⟨_, read⟩
  · exact .inl isNull
  · exact .inr (Codec.yields_of_read read)

end RelationalApi
