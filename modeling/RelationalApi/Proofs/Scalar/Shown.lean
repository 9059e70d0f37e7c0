import RelationalApi.Proofs.Double.Finite
import RelationalApi.Proofs.Scalar.Decoding
import RelationalApi.Scalar.Encoding

/-!
# What codecs show

A codec shows every value that it reads from a well-formed document.  The converse does not hold,
and a value that no client gave, such as the default of a column, may be one that the codec of its
column does not show.
-/

namespace RelationalApi

open Outcome

namespace Codec

@[simp] theorem show?_null (codec : Codec) : codec.show? .null = some .null := by
  rw [Codec.show?]

/-- Lists show an array when their elements show every item. -/
theorem isSome_showItems?_iff (codec : Codec) (items : List Value) :
    (codec.showItems? items).isSome = true ↔ ∀ item ∈ items, (codec.show? item).isSome = true := by
  induction items with
  | nil => simp [Codec.showItems?]
  | cons item items inductionHypothesis =>
      rw [Codec.showItems?, List.forall_mem_cons, ← inductionHypothesis]
      cases codec.show? item <;> cases codec.showItems? items <;> simp

theorem show?_eq_showItem?
    {codec : Codec}
    {value : Value}
    (notNull : value ≠ .null)
    (notArray : ∀ items, value ≠ .array items) :
    codec.show? value = showItem? codec value := by
  cases value <;> first
    | exact absurd rfl notNull
    | exact absurd rfl (notArray _)
    | rw [Codec.show?] <;> simp

theorem isSome_finiteNumber?
    {value : Float}
    (finite : value.isFinite = true) :
    (finiteNumber? value).isSome = true := by
  have notSpecial := Double.not_isNaN_isInf_of_isFinite finite
  rw [finiteNumber?, notSpecial.1, notSpecial.2]
  rfl

/-- A plain value is neither null nor an array. -/
theorem plainValue?_kind
    {codec : Codec}
    {document : Json}
    {value : Value}
    (found : plainValue? codec document = some value) :
    value ≠ .null ∧ ∀ items, value ≠ .array items := by
  unfold plainValue? at found
  split at found <;> grind [Option.map_eq_some_iff]

/-- The stored text of a member of an enum is shown. -/
theorem isSome_showItem?_member
    {typeName : String}
    {members : List EnumMember}
    {member : EnumMember}
    (isMember : member ∈ members) :
    (showItem? (.enumeration typeName members) (.string member.value)).isSome = true := by
  rw [showItem?, Option.isSome_map, List.find?_isSome]
  exact ⟨member, isMember, beq_self_eq_true _⟩

/-- A codec shows what it reads in one step. -/
theorem plainValue?_isShown
    {codec : Codec}
    {document : Json}
    {value : Value}
    (wellFormed : document.isWellFormed = true)
    (found : plainValue? codec document = some value) :
    (codec.show? value).isSome = true := by
  obtain ⟨notNull, notArray⟩ := plainValue?_kind found
  rw [show?_eq_showItem? notNull notArray]
  unfold plainValue? at found
  split at found
  · cases found
    exact isSome_finiteNumber? wellFormed
  · cases found
    rw [Json.isWellFormed, JsonNumber.isWellFormed, Bool.and_eq_true, decide_eq_true_iff,
      decide_eq_true_iff] at wellFormed
    exact isSome_finiteNumber? (Double.isFinite_ofInt wellFormed.1 wellFormed.2)
  case h_13 =>
    obtain ⟨member, chosen, rfl⟩ := Option.map_eq_some_iff.1 found
    exact isSome_showItem?_member (List.mem_of_find?_eq_some chosen)
  case h_14 => cases found
  -- What is left is one value of the one kind that the codec reads.
  all_goals first
    | cases found
      rfl
    | obtain ⟨_, _, rfl⟩ := Option.map_eq_some_iff.1 found
      rfl
    | obtain ⟨_, found⟩ := Option.ite_none_right_eq_some.1 found
      first
        | cases found
          rfl
        | obtain ⟨_, _, rfl⟩ := Option.map_eq_some_iff.1 found
          rfl

/-- A codec shows every value that it reads from a well-formed document. -/
theorem read_isShown
    (codec : Codec)
    {document : Json}
    {path : String}
    {value : Value}
    (wellFormed : document.isWellFormed = true)
    (succeeded : codec.read document path = .ok value) :
    (codec.show? value).isSome = true := by
  induction codec generalizing document path value with
  | integer bits unsigned =>
      rcases readInteger_kind succeeded with ⟨_, rfl⟩ | ⟨_, rfl⟩ <;> rfl
  | text length =>
      obtain ⟨_, _, rfl⟩ := readText_eq_ok succeeded
      rfl
  | list element inductionHypothesis =>
      rcases Codec.read_eq_ok succeeded with
        ⟨_, _, impossible, _⟩ | ⟨_, impossible, _⟩ |
          ⟨_, items, values, same, rfl, read, rfl⟩ | plain
      · cases impossible
      · cases impossible
      · cases same
        rw [Codec.show?, Option.isSome_map, isSome_showItems?_iff]
        rw [Json.isWellFormed_array, Json.itemsWellFormed_iff] at wellFormed
        intro value member
        obtain ⟨item, itemMember, _, readItem⟩ := exists_item (readItems_eq_ok read) value member
        exact inductionHypothesis (wellFormed item itemMember) readItem
      · exact plainValue?_isShown wellFormed plain
  | _ =>
      rcases Codec.read_eq_ok succeeded with
        ⟨_, _, impossible, _⟩ | ⟨_, impossible, _⟩ | ⟨_, _, _, impossible, _⟩ | plain
      · cases impossible
      · cases impossible
      · cases impossible
      · exact plainValue?_isShown wellFormed plain

/-- Whether a codec shows signed numbers does not depend on the number. -/
theorem isSome_show?_int (codec : Codec) (first second : Int64) :
    (codec.show? (.int first)).isSome = (codec.show? (.int second)).isSome := by
  cases codec <;> simp [Codec.show?, showItem?]

theorem isSome_show?_timestamp (codec : Codec) (first second : Timestamp) :
    (codec.show? (.timestamp first)).isSome = (codec.show? (.timestamp second)).isSome := by
  cases codec <;> simp [Codec.show?, showItem?]

end Codec

/-- A column shows every value that it reads from a well-formed document. -/
theorem ColumnCodec.decode_isShown
    {column : ColumnCodec}
    {document : Json}
    {path : String}
    {value : Value}
    (wellFormed : document.isWellFormed = true)
    (succeeded : column.decode document path = .ok value) :
    (column.codec.show? value).isSome = true := by
  rcases ColumnCodec.decode_eq_ok.1 succeeded with ⟨_, _, rfl⟩ | ⟨_, read⟩
  · rw [Codec.show?_null]
    rfl
  · exact Codec.read_isShown column.codec wellFormed read

theorem ColumnCodec.encode_eq_error
    {column : ColumnCodec}
    {value : Value}
    (notShown : (column.codec.show? value).isSome = false) :
    column.encode value =
      .error (.valueNotShown column.column value.kindName column.codec.form) := by
  rw [ColumnCodec.encode]
  cases shown : column.codec.show? value with
  | none => rfl
  | some document =>
      rw [shown] at notShown
      cases notShown

theorem ColumnCodec.isOk_encode_iff (column : ColumnCodec) (value : Value) :
    (∃ document, column.encode value = .ok document) ↔
      (column.codec.show? value).isSome = true := by
  rw [ColumnCodec.encode]
  cases column.codec.show? value <;> simp

end RelationalApi
