import RelationalApi.Proofs.Outcome
import RelationalApi.Proofs.Storage.Rows
import RelationalApi.Scalar.Decoding

/-!
# What codecs read

Integers and texts are read by rules of their own, lists item by item, and everything else in one
step.  What a codec reads from a well-formed document is a well-formed value, because the documents
that it keeps are parts of the one it read.
-/

namespace RelationalApi

open Outcome

/-- An integer is read from a text where its width asks for one, and else from a whole number within
its range. -/
theorem readInteger_eq_ok
    {bits : Nat}
    {unsigned : Bool}
    {document : Json}
    {path : String}
    {value : Value}
    (read : readInteger bits unsigned document path = .ok value) :
    (integerForm bits unsigned = .text ∧ ∃ characters, integerText? document = some characters ∧
        wideInteger? unsigned characters = some value) ∨
      (integerForm bits unsigned ≠ .text ∧ ∃ number whole, document = .number number ∧
        wholeInt64? number = some whole ∧ whole ≤ (integerRange bits unsigned).2 ∧
          value = .int (Int64.ofInt whole)) := by
  unfold readInteger at read
  dsimp only at read
  split at read
  · rename_i isText
    split at read
    · rename_i parsed wide
      cases read
      exact .inl ⟨isText, Option.bind_eq_some_iff.1 wide⟩
    · cases read
  · rename_i notText
    split at read
    · rename_i number
      split at read
      · rename_i whole isWhole
        split at read
        · cases read
        · rename_i inRange
          cases read
          simp only [Bool.or_eq_true, decide_eq_true_eq, not_or, Int.not_lt] at inRange
          exact .inr ⟨notText, number, whole, rfl, isWhole, inRange.2, rfl⟩
      · cases read
    · cases read

theorem wideInteger?_kind
    {unsigned : Bool}
    {characters : List Char}
    {value : Value}
    (read : wideInteger? unsigned characters = some value) :
    (∃ number, value = .int number) ∨ ∃ number, value = .uint number := by
  rw [wideInteger?] at read
  split at read
  · obtain ⟨number, _, kept⟩ := Option.bind_eq_some_iff.1 read
    split at kept <;> cases kept
    exact .inr ⟨_, rfl⟩
  · obtain ⟨number, _, kept⟩ := Option.bind_eq_some_iff.1 read
    split at kept <;> cases kept
    exact .inl ⟨_, rfl⟩

/-- A read integer is a signed or an unsigned number. -/
theorem readInteger_kind
    {bits : Nat}
    {unsigned : Bool}
    {document : Json}
    {path : String}
    {value : Value}
    (read : readInteger bits unsigned document path = .ok value) :
    (∃ number, value = .int number) ∨ ∃ number, value = .uint number := by
  rcases readInteger_eq_ok read with ⟨_, _, _, wide⟩ | ⟨_, _, _, _, _, _, rfl⟩
  · exact wideInteger?_kind wide
  · exact .inl ⟨_, rfl⟩

/-- A text is read as it stands. -/
theorem readText_eq_ok
    {length : Option Nat}
    {document : Json}
    {path : String}
    {value : Value}
    (read : readText length document path = .ok value) :
    ∃ text, document = .string text ∧ value = .string text := by
  rw [readText.eq_def] at read
  split at read
  · split at read
    · split at read <;> cases read
      exact ⟨_, rfl, rfl⟩
    · cases read
      exact ⟨_, rfl, rfl⟩
  · cases read

/-- The items of a read list are read one by one, each at some path. -/
theorem readItems_eq_ok
    {read : Json -> String -> Except ArgumentError Value}
    {path : String}
    {index : Nat}
    {items : List Json}
    {values : List Value}
    (succeeded : readItems read path index items = .ok values) :
    List.Forall₂ (fun item value => ∃ itemPath, read item itemPath = .ok value) items values := by
  induction items generalizing index values with
  | nil =>
      rw [readItems] at succeeded
      cases succeeded
      exact .nil
  | cons item items inductionHypothesis =>
      simp only [readItems, bind_eq_ok, pure_eq_ok] at succeeded
      obtain ⟨value, readFirst, others, readOthers, rfl⟩ := succeeded
      exact .cons ⟨_, readFirst⟩ (inductionHypothesis readOthers)

/-- What a codec of any kind reads: integers, texts, lists of what their items are read as, and
plain values. -/
theorem Codec.read_eq_ok
    {codec : Codec}
    {document : Json}
    {path : String}
    {value : Value}
    (succeeded : codec.read document path = .ok value) :
    (∃ bits unsigned, codec = .integer bits unsigned ∧
        readInteger bits unsigned document path = .ok value) ∨
      (∃ length, codec = .text length ∧ readText length document path = .ok value) ∨
      (∃ element items values, codec = .list element ∧ document = .array items ∧
        readItems element.read path 0 items = .ok values ∧ value = .array values) ∨
      plainValue? codec document = some value := by
  cases codec with
  | integer bits unsigned => exact .inl ⟨bits, unsigned, rfl, succeeded⟩
  | text length => exact .inr (.inl ⟨length, rfl, succeeded⟩)
  | list element =>
      cases document with
      | array items =>
          obtain ⟨values, readAll, kept⟩ := bind_eq_ok.1 succeeded
          rw [pure_eq_ok] at kept
          exact .inr (.inr (.inl ⟨element, items, values, rfl, rfl, readAll, kept.symm⟩))
      | _ => cases succeeded
  | _ =>
      refine .inr (.inr (.inr ?_))
      rw [Codec.read] at succeeded
      · split at succeeded
        · rename_i plain found
          cases succeeded
          exact found
        · cases succeeded
      all_goals simp

/-- A plain value is no array, and a document only where it is the one that was read. -/
theorem plainValue?_isWellFormed
    {codec : Codec}
    {document : Json}
    {value : Value}
    (wellFormed : document.isWellFormed = true)
    (found : plainValue? codec document = some value) :
    value.isWellFormed = true := by
  unfold plainValue? at found
  split at found
  all_goals first
    | exact Option.some.inj found ▸ wellFormed
    | grind [Value.isWellFormed, Option.map_eq_some_iff]

/-- A value that a codec reads from a well-formed document is well-formed. -/
theorem Codec.read_isWellFormed
    (codec : Codec)
    {document : Json}
    {path : String}
    {value : Value}
    (wellFormed : document.isWellFormed = true)
    (succeeded : codec.read document path = .ok value) :
    value.isWellFormed = true := by
  induction codec generalizing document path value with
  | list element inductionHypothesis =>
      rcases Codec.read_eq_ok succeeded with
        ⟨_, _, impossible, _⟩ | ⟨_, impossible, _⟩ |
          ⟨_, items, values, same, rfl, read, rfl⟩ | plain
      · cases impossible
      · cases impossible
      · cases same
        rw [Value.isWellFormed, Value.itemsWellFormed_iff]
        rw [Json.isWellFormed_array, Json.itemsWellFormed_iff] at wellFormed
        intro value member
        obtain ⟨item, itemMember, _, readItem⟩ := exists_item (readItems_eq_ok read) value member
        exact inductionHypothesis (wellFormed item itemMember) readItem
      · exact plainValue?_isWellFormed wellFormed plain
  | _ =>
      rcases Codec.read_eq_ok succeeded with
        ⟨_, _, _, read⟩ | ⟨_, _, read⟩ | ⟨_, _, _, impossible, _⟩ | plain
      · rcases readInteger_kind read with ⟨_, rfl⟩ | ⟨_, rfl⟩ <;> rfl
      · obtain ⟨_, _, rfl⟩ := readText_eq_ok read
        rfl
      · cases impossible
      · exact plainValue?_isWellFormed wellFormed plain

/-- Whether an integer is read does not depend on where it stands. -/
theorem readInteger_toOption
    (bits : Nat)
    (unsigned : Bool)
    (document : Json)
    (first second : String) :
    (readInteger bits unsigned document first).toOption =
      (readInteger bits unsigned document second).toOption := by
  unfold readInteger
  dsimp only
  split
  · split <;> rfl
  · split
    · split
      · split <;> rfl
      · rfl
    · rfl

theorem readText_toOption
    (length : Option Nat)
    (document : Json)
    (first second : String) :
    (readText length document first).toOption = (readText length document second).toOption := by
  unfold readText
  split
  · split
    · split <;> rfl
    · rfl
  · rfl

theorem readItems_toOption
    {read : Json -> String -> Except ArgumentError Value}
    (readAnywhere : ∀ item first second,
      (read item first).toOption = (read item second).toOption)
    (items : List Json)
    (first second : String)
    (firstIndex secondIndex : Nat) :
    (readItems read first firstIndex items).toOption =
      (readItems read second secondIndex items).toOption := by
  induction items generalizing firstIndex secondIndex with
  | nil => rfl
  | cons item items inductionHypothesis =>
      simp only [readItems, toOption_bind, toOption_pure,
        readAnywhere item (itemPath first firstIndex) (itemPath second secondIndex),
        inductionHypothesis (firstIndex + 1) (secondIndex + 1)]

/-- The value that a codec reads from a document does not depend on where the document stands. -/
theorem Codec.read_toOption
    (codec : Codec)
    (document : Json)
    (first second : String) :
    (codec.read document first).toOption = (codec.read document second).toOption := by
  induction codec generalizing document first second with
  | integer bits unsigned => exact readInteger_toOption bits unsigned document first second
  | text length => exact readText_toOption length document first second
  | list element inductionHypothesis =>
      cases document with
      | array items =>
          simp only [Codec.read, toOption_bind, toOption_pure,
            readItems_toOption inductionHypothesis items first second 0 0]
      | _ => rfl
  | _ =>
      rw [Codec.read, Codec.read]
      · split <;> rfl
      all_goals simp

/-- A column reads null where it admits null, and all other documents by its codec. -/
theorem ColumnCodec.decode_eq_ok
    {column : ColumnCodec}
    {document : Json}
    {path : String}
    {value : Value} :
    column.decode document path = .ok value ↔
      (document = .null ∧ column.nullable = true ∧ value = .null) ∨
        (document ≠ .null ∧ column.codec.read document path = .ok value) := by
  rw [decode]
  cases document with
  | null =>
      rw [Json.isNull, if_pos rfl]
      cases column.nullable <;> simp [eq_comm]
  | _ => simp [Json.isNull]

/-- A column reads the same value from a document wherever the document stands. -/
theorem ColumnCodec.decode_anywhere
    {column : ColumnCodec}
    {document : Json}
    {first : String}
    {value : Value}
    (decoded : column.decode document first = .ok value)
    (second : String) :
    column.decode document second = .ok value := by
  rw [decode_eq_ok] at decoded ⊢
  refine decoded.imp_right fun ⟨notNull, read⟩ => ⟨notNull, ?_⟩
  rw [← toOption_eq_some] at read ⊢
  rw [column.codec.read_toOption document second first, read]

theorem ColumnCodec.decode_isWellFormed
    {column : ColumnCodec}
    {document : Json}
    {path : String}
    {value : Value}
    (wellFormed : document.isWellFormed = true)
    (succeeded : column.decode document path = .ok value) :
    value.isWellFormed = true := by
  rcases ColumnCodec.decode_eq_ok.1 succeeded with ⟨_, _, rfl⟩ | ⟨_, read⟩
  · rfl
  · exact Codec.read_isWellFormed column.codec wellFormed read

end RelationalApi
