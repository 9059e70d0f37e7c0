import Mathlib.Algebra.Group.Int.Defs
import RelationalApi.Proofs.Scalar.Decoding
import RelationalApi.Proofs.Text.Digits
import RelationalApi.Scalar.Encoding

/-!
# Integer columns

A column of integers reads exactly the integers that its width and sign leave room for, and reads
them as they are.  It shows them as numbers, or as texts where a number would lose digits, and what
it shows is read as the same value.
-/

namespace RelationalApi

open Outcome

/-- The integer that a value is. -/
def Value.integer? : Value -> Option Int
  | .int value => some value.toInt
  | .uint value => some value.toNat
  | _ => none

/-- The integers of a width, with a sign or without. -/
def FitsBits (bits : Nat) (unsigned : Bool) (whole : Int) : Prop :=
  if unsigned then 0 ≤ whole ∧ whole < 2 ^ bits
  else -2 ^ (bits - 1) ≤ whole ∧ whole < 2 ^ (bits - 1)

/-- The value that an integer is in a column: one without a sign only where that takes 64 bits. -/
def integerValue (bits : Nat) (unsigned : Bool) (whole : Int) : Value :=
  if unsigned ∧ integerForm bits unsigned = .text then .uint (UInt64.ofNat whole.toNat)
  else .int (Int64.ofInt whole)

section Integers

variable {bits : Nat} {unsigned : Bool} {whole : Int} {value : Value}

theorem fitsBits_iff_integerRange :
    FitsBits bits unsigned whole ↔
      (integerRange bits unsigned).1 ≤ whole ∧ whole ≤ (integerRange bits unsigned).2 := by
  have power (exponent : Nat) : Int.pow 2 exponent = 2 ^ exponent := rfl
  cases unsigned with
  | true =>
      simp only [FitsBits, integerRange, if_true, power]
      omega
  | false =>
      simp only [FitsBits, integerRange, Bool.false_eq_true, if_false, power]
      omega

/-! ## Integers and their texts -/

theorem integerText?_toString (value : Int) :
    integerText? (.string (toString value)) = some (toString value).toList := by
  rw [integerText?, Option.some.injEq]
  refine Text.trimBlanks_of_forall ?_
  have digits : ∀ character ∈ Nat.toDigits 10 value.natAbs, Text.isBlank character = false :=
    fun _ => Text.isBlank_of_mem_toDigits
  rw [Text.toList_toString]
  split
  · exact List.forall_mem_cons.2 ⟨by decide, digits⟩
  · exact digits

/-- A text of digits denotes a number without sign where the number it denotes has none. -/
theorem natural?_toString (whole : Int) :
    Text.natural? (toString whole).toList = if whole < 0 then none else some whole.natAbs := by
  rw [Text.toList_toString]
  split
  · rfl
  · exact Text.natural?_toDigits _

/-- The text of an integer denotes a value of 64 bits where the integer has that many. -/
theorem wideInteger?_toString_eq_some :
    wideInteger? unsigned (toString whole).toList = some value ↔
      FitsBits 64 unsigned whole ∧
        value =
          if unsigned then .uint (UInt64.ofNat whole.toNat) else .int (Int64.ofInt whole) := by
  cases unsigned with
  | true =>
      rw [wideInteger?, if_pos rfl, natural?_toString, FitsBits, if_pos rfl, if_pos rfl]
      split
      · rename_i isNegative
        simp only [Option.bind_eq_bind, Option.bind_none, reduceCtorEq, false_iff, not_and]
        omega
      · rename_i notNegative
        have isNatural : whole.toNat = whole.natAbs := by omega
        have power : Nat.pow 2 64 = 2 ^ 64 := rfl
        simp only [Option.bind_eq_bind, Option.bind_some, Option.ite_none_right_eq_some, power,
          isNatural, Option.some.injEq, eq_comm (a := value)]
        refine and_congr_left fun _ => ?_
        omega
  | false =>
      have power : Int.pow 2 63 = 2 ^ 63 := rfl
      rw [wideInteger?, if_neg Bool.false_ne_true, Text.integer?_toString, FitsBits,
        if_neg Bool.false_ne_true, if_neg Bool.false_ne_true]
      simp only [Option.bind_eq_bind, Option.bind_some, Option.ite_none_right_eq_some, power,
        Bool.and_eq_true, decide_eq_true_eq, Option.some.injEq, eq_comm (a := value)]

/-- What a text denotes as a value of 64 bits is an integer, and what the text of that integer
denotes. -/
theorem exists_of_wideInteger?
    {characters : List Char}
    (read : wideInteger? unsigned characters = some value) :
    ∃ whole, value.integer? = some whole ∧
      wideInteger? unsigned (toString whole).toList = some value := by
  rw [wideInteger?] at read
  split at read
  · rename_i isUnsigned
    subst isUnsigned
    obtain ⟨number, _, kept⟩ := Option.bind_eq_some_iff.1 read
    obtain ⟨small, same⟩ := Option.ite_none_right_eq_some.1 kept
    cases same
    have power : Nat.pow 2 64 = 2 ^ 64 := rfl
    refine ⟨number, ?_, wideInteger?_toString_eq_some.2 ⟨⟨Int.natCast_nonneg _, ?_⟩, rfl⟩⟩
    · rw [Value.integer?, UInt64.toNat_ofNat_of_lt' small]
    · rw [power] at small
      omega
  · rename_i isSigned
    rw [Bool.not_eq_true] at isSigned
    subst isSigned
    obtain ⟨number, _, kept⟩ := Option.bind_eq_some_iff.1 read
    obtain ⟨inRange, same⟩ := Option.ite_none_right_eq_some.1 kept
    cases same
    rw [Bool.and_eq_true, decide_eq_true_iff, decide_eq_true_iff] at inRange
    refine ⟨number, ?_, wideInteger?_toString_eq_some.2 ⟨inRange, rfl⟩⟩
    rw [Value.integer?, Int64.toInt_ofInt_of_le inRange.1 inRange.2]

/-- An integer is shown in the form for the width, whether its value has a sign or not. -/
theorem showItem?_integer (isWhole : value.integer? = some whole) :
    showItem? (.integer bits unsigned) value = some (showInteger bits unsigned whole) := by
  cases value with
  | int value =>
      cases isWhole
      rfl
  | uint value =>
      cases isWhole
      rfl
  | _ => cases isWhole

/-! ## Integers that are read again -/

/-- A whole number that is read from a well-formed number has 64 bits. -/
theorem wholeInt64?_bounds
    {number : JsonNumber}
    (wellFormed : number.isWellFormed = true)
    (isWhole : wholeInt64? number = some whole) :
    -2 ^ 63 ≤ whole ∧ whole < 2 ^ 63 := by
  have power : Int.pow 2 63 = 2 ^ 63 := rfl
  cases number with
  | int value =>
      rw [JsonNumber.isWellFormed, Bool.and_eq_true, decide_eq_true_iff, decide_eq_true_iff, power]
        at wellFormed
      rw [wholeInt64?, Option.some.injEq, power] at isWhole
      omega
  | float value =>
      obtain ⟨_, same⟩ := Option.ite_none_right_eq_some.1 isWhole
      cases same
      exact ⟨Int64.le_toInt _, Int64.toInt_lt _⟩

/-- Integers without a text of their own are read by what they are as whole numbers. -/
theorem readInteger_whole
    {number other : JsonNumber}
    (notText : integerForm bits unsigned ≠ .text)
    (isWhole : wholeInt64? number = some whole)
    (otherWhole : wholeInt64? other = some whole)
    (path : String) :
    readInteger bits unsigned (.number number) path =
      readInteger bits unsigned (.number other) path := by
  unfold readInteger
  dsimp only
  rw [isWhole, otherWhole]
  split
  · rename_i isText
    exact absurd isText notText
  · rfl

/-- An integer is read again from what is shown of it. -/
theorem readInteger_again
    {document : Json}
    {path : String}
    (wellFormed : document.isWellFormed = true)
    (read : readInteger bits unsigned document path = .ok value) :
    ∃ shown, showItem? (.integer bits unsigned) value = some shown ∧
      ∀ path, readInteger bits unsigned shown path = .ok value := by
  rcases readInteger_eq_ok read with
    ⟨isText, characters, _, wide⟩ | ⟨notText, number, whole, rfl, isWhole, most, rfl⟩
  · obtain ⟨whole, isWhole, again⟩ := exists_of_wideInteger? wide
    refine ⟨.string (toString whole), ?_, fun path => ?_⟩
    · rw [showItem?_integer isWhole, showInteger, isText]
    · unfold readInteger
      dsimp only
      rw [isText, integerText?_toString]
      dsimp only [Option.bind_some]
      rw [again]
  · have bounds := wholeInt64?_bounds wellFormed isWhole
    have sameWhole : (Value.int (Int64.ofInt whole)).integer? = some whole := by
      rw [Value.integer?, Int64.toInt_ofInt_of_le bounds.1 bounds.2]
    refine ⟨.int whole, ?_, fun path => ?_⟩
    · rw [showItem?_integer sameWhole, showInteger]
      split
      · rename_i isText
        exact absurd isText notText
      · rfl
    · have shownWhole : wholeInt64? (.int whole) = some whole := by
        have power : Int.pow 2 63 = 2 ^ 63 := rfl
        rw [wholeInt64?, Option.some.injEq, power]
        omega
      rw [readInteger_whole notText isWhole shownWhole, ← toOption_eq_some] at read
      rw [← toOption_eq_some, ← read]
      exact readInteger_toOption bits unsigned (.int whole) path _

/-! ## Exact integers -/

/-- An integer with a text of its own is read where it has 64 bits. -/
theorem readInteger_text_eq_ok
    {document : Json}
    {path : String}
    (isText : integerForm bits unsigned = .text)
    (denotes : integerText? document = some (toString whole).toList) :
    readInteger bits unsigned document path = .ok value ↔
      FitsBits 64 unsigned whole ∧ value = integerValue bits unsigned whole := by
  have isValue : integerValue bits unsigned whole =
      if unsigned then .uint (UInt64.ofNat whole.toNat) else .int (Int64.ofInt whole) := by
    simp only [integerValue, isText, and_true]
  rw [isValue, ← wideInteger?_toString_eq_some]
  unfold readInteger
  dsimp only
  rw [isText, denotes]
  dsimp only [Option.bind_some]
  cases wideInteger? unsigned (toString whole).toList <;> simp

/-- An integer without a text of its own is read where it is in the range.  No range reaches the
greatest number of 64 bits, so that larger ones are read as this number makes no difference. -/
theorem readInteger_number_eq_ok
    {path : String}
    (notText : integerForm bits unsigned ≠ .text)
    (narrow : (integerRange bits unsigned).2 < Int.pow 2 63 - 1) :
    readInteger bits unsigned (.int whole) path = .ok value ↔
      FitsBits bits unsigned whole ∧ value = integerValue bits unsigned whole := by
  have isValue : integerValue bits unsigned whole = .int (Int64.ofInt whole) := by
    rw [integerValue, if_neg fun wide => notText wide.2]
  rw [isValue, fitsBits_iff_integerRange]
  unfold readInteger
  dsimp only [Json.int, wholeInt64?]
  split
  · rename_i isText
    exact absurd isText notText
  · simp only [Bool.or_eq_true, decide_eq_true_eq]
    split
    · rename_i outside
      simp only [reduceCtorEq, false_iff, not_and]
      omega
    · rename_i inside
      have kept : min whole (Int.pow 2 63 - 1) = whole := by omega
      rw [kept] at inside ⊢
      simp only [Except.ok.injEq, eq_comm (a := value), iff_and_self]
      omega

theorem integerForm_eq_text_iff :
    ∀ bits ∈ [8, 16, 32, 64], ∀ unsigned, integerForm bits unsigned = .text ↔ bits = 64 := by
  decide

theorem integerRange_narrow :
    ∀ bits ∈ [8, 16, 32, 64], bits ≠ 64 -> ∀ unsigned,
      (integerRange bits unsigned).2 < Int.pow 2 63 - 1 := by
  decide

/-- An integer is read where it is in the range of the column, and as itself. -/
theorem readInteger_int_eq_ok
    {path : String}
    (width : bits ∈ [8, 16, 32, 64]) :
    readInteger bits unsigned (.int whole) path = .ok value ↔
      FitsBits bits unsigned whole ∧ value = integerValue bits unsigned whole := by
  by_cases isWide : bits = 64
  · subst isWide
    exact readInteger_text_eq_ok ((integerForm_eq_text_iff 64 width unsigned).2 rfl) rfl
  · exact readInteger_number_eq_ok (mt (integerForm_eq_text_iff bits width unsigned).1 isWide)
      (integerRange_narrow bits width isWide unsigned)

/-- The value that an integer in the range is in a column is that integer. -/
theorem integer?_integerValue
    (width : bits ∈ [8, 16, 32, 64])
    (fits : FitsBits bits unsigned whole) :
    (integerValue bits unsigned whole).integer? = some whole := by
  have isText := integerForm_eq_text_iff bits width unsigned
  simp only [List.mem_cons, List.not_mem_nil, or_false] at width
  simp only [integerValue, isText]
  cases unsigned with
  | true =>
      rw [FitsBits, if_pos rfl] at fits
      have small : whole.toNat < 2 ^ 64 := by
        rcases width with rfl | rfl | rfl | rfl <;> omega
      by_cases isWide : bits = 64
      · rw [if_pos ⟨rfl, isWide⟩, Value.integer?, UInt64.toNat_ofNat_of_lt' small,
          Int.toNat_of_nonneg fits.1]
      · have bounds : -2 ^ 63 ≤ whole ∧ whole < 2 ^ 63 := by
          rcases width with rfl | rfl | rfl | rfl <;> omega
        rw [if_neg fun wide => isWide wide.2, Value.integer?,
          Int64.toInt_ofInt_of_le bounds.1 bounds.2]
  | false =>
      rw [FitsBits, if_neg Bool.false_ne_true] at fits
      have bounds : -2 ^ 63 ≤ whole ∧ whole < 2 ^ 63 := by
        rcases width with rfl | rfl | rfl | rfl <;> omega
      rw [if_neg fun wide => Bool.false_ne_true wide.1, Value.integer?,
        Int64.toInt_ofInt_of_le bounds.1 bounds.2]

/-- Integers of 64 bits are shown as texts. -/
theorem showInteger_eq (width : bits ∈ [8, 16, 32, 64]) :
    showInteger bits unsigned whole =
      if bits = 64 then .string (toString whole) else .int whole := by
  have isText := integerForm_eq_text_iff bits width unsigned
  rw [showInteger]
  split
  · rename_i isForm
    rw [if_pos (isText.1 isForm)]
  · rename_i notForm
    rw [if_neg (mt isText.2 notForm)]

/-- A column of integers reads exactly the integers in its range, from numbers and where it has 64
bits from their texts too.  The value is the integer; every value that is this integer is shown as a
number, or with 64 bits as the text of the integer, and this is read as the same value. -/
theorem ColumnCodec.integers_exact
    {table : String}
    {column : Column}
    {codec : ColumnCodec}
    (isInteger : column.kind = .integer bits unsigned)
    (width : bits ∈ [8, 16, 32, 64])
    (mapped : ofColumn table column = .ok codec)
    (whole : Int) :
    (∀ path, (∃ value, codec.decode (.int whole) path = .ok value) ↔
      FitsBits bits unsigned whole) ∧
    (bits = 64 -> ∀ path, (∃ value, codec.decode (.string (toString whole)) path = .ok value) ↔
      FitsBits bits unsigned whole) ∧
    (FitsBits bits unsigned whole -> ∃ value shown, value.integer? = some whole ∧
      (∀ path, codec.decode (.int whole) path = .ok value) ∧
      (bits = 64 -> ∀ path, codec.decode (.string (toString whole)) path = .ok value) ∧
      shown = (if bits = 64 then .string (toString whole) else .int whole) ∧
      (∀ stored, stored.integer? = some whole -> codec.encode stored = .ok shown) ∧
      ∀ path, codec.decode shown path = .ok value) := by
  have isCodec : codec = ⟨column.name, column.nullable, .integer bits unsigned⟩ := by
    rw [ofColumn, isInteger] at mapped
    cases mapped
    rfl
  subst isCodec
  have number (path : String) (value : Value) :
      decode ⟨column.name, column.nullable, .integer bits unsigned⟩ (.int whole) path = .ok value ↔
        FitsBits bits unsigned whole ∧ value = integerValue bits unsigned whole :=
    readInteger_int_eq_ok width
  have text (isWide : bits = 64) (path : String) (value : Value) :
      decode ⟨column.name, column.nullable, .integer bits unsigned⟩
          (.string (toString whole)) path = .ok value ↔
        FitsBits bits unsigned whole ∧ value = integerValue bits unsigned whole := by
    subst isWide
    exact readInteger_text_eq_ok ((integerForm_eq_text_iff 64 width unsigned).2 rfl)
      (integerText?_toString whole)
  refine ⟨fun path => ?_, fun isWide path => ?_, fun fits => ?_⟩
  · simp only [number, exists_and_left, exists_eq, and_true]
  · simp only [text isWide, exists_and_left, exists_eq, and_true]
  · have isShown (stored : Value) (isWhole : stored.integer? = some whole) :
        encode ⟨column.name, column.nullable, .integer bits unsigned⟩ stored =
          .ok (if bits = 64 then .string (toString whole) else .int whole) := by
      rw [encode, Codec.show?, showItem?_integer isWhole, showInteger_eq width]
      · rintro rfl
        cases isWhole
      · rintro _ rfl
        cases isWhole
    refine ⟨integerValue bits unsigned whole, _, integer?_integerValue width fits,
      fun path => (number path _).2 ⟨fits, rfl⟩,
      fun isWide path => (text isWide path _).2 ⟨fits, rfl⟩, rfl, isShown, fun path => ?_⟩
    split
    · rename_i isWide
      exact (text isWide path _).2 ⟨fits, rfl⟩
    · exact (number path _).2 ⟨fits, rfl⟩

end Integers

/-- A column for numbers without sign, of 64 bits. -/
def serialColumn : Column := { name := "serial", kind := .integer 64 true }

theorem ColumnCodec.integers_exact_serial :
    ∃ codec value, ofColumn "items" serialColumn = .ok codec ∧
      codec.decode (.string "18446744073709551615") "serial" = .ok value ∧
      value.integer? = some 18446744073709551615 ∧
      codec.encode value = .ok (.string "18446744073709551615") ∧
      ¬∃ other, codec.decode (.int 18446744073709551616) "serial" = .ok other := by
  have mapped : ofColumn "items" serialColumn = .ok ⟨"serial", false, .integer 64 true⟩ := rfl
  have isExact := integers_exact (show serialColumn.kind = .integer 64 true from rfl) (by decide)
    mapped
  have greatest := isExact 18446744073709551615
  have beyond := isExact 18446744073709551616
  have fits : FitsBits 64 true 18446744073709551615 := ⟨by decide, by decide⟩
  obtain ⟨value, shown, isWhole, _, reads, rfl, shows, _⟩ := greatest.2.2 fits
  refine ⟨_, value, mapped, reads rfl "serial", isWhole, shows value isWhole, ?_⟩
  rw [beyond.1]
  exact fun fits => absurd fits.2 (by decide)

end RelationalApi
