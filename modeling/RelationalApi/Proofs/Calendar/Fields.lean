import RelationalApi.Calendar.Field
import RelationalApi.Proofs.Text.Digits

/-!
# Reading the fields that are written

A field that is written with zeros in front is read as its number, whatever comes next, if the
reader asks for just as many digits.  A reader that takes more digits needs a mark behind the field.
-/

namespace RelationalApi
namespace Calendar

variable {width value least most : Nat} {digits rest input : List Char} {character : Char}

/-- Nothing follows, or a character that is no digit. -/
def EndsField (rest : List Char) : Prop :=
  ∀ character, rest.head? = some character -> character.isDigit = false

theorem endsField_nil : EndsField [] :=
  fun _ absent => nomatch absent

theorem endsField_cons (notDigit : character.isDigit = false) : EndsField (character :: rest) := by
  rintro _ ⟨⟩
  exact notDigit

theorem EndsField.take (ends : EndsField rest) (count : Nat) : EndsField (rest.take count) := by
  intro character first
  rw [List.head?_take] at first
  split at first
  · cases first
  · exact ends character first

theorem takeWhile_isDigit_append
    (areDigits : digits.all Char.isDigit = true)
    (ends : EndsField rest) :
    (digits ++ rest).takeWhile Char.isDigit = digits := by
  have none : rest.takeWhile Char.isDigit = [] := by
    cases rest with
    | nil => rfl
    | cons character rest => rw [List.takeWhile_cons, ends character rfl, if_neg Bool.false_ne_true]
  rw [List.takeWhile_append_of_pos (List.all_eq_true.1 areDigits), none, List.append_nil]

theorem dropWhile_isDigit_append
    (areDigits : digits.all Char.isDigit = true)
    (ends : EndsField rest) :
    (digits ++ rest).dropWhile Char.isDigit = rest := by
  have all : rest.dropWhile Char.isDigit = rest := by
    cases rest with
    | nil => rfl
    | cons character rest => rw [List.dropWhile_cons, ends character rfl, if_neg Bool.false_ne_true]
  rw [List.dropWhile_append_of_pos (List.all_eq_true.1 areDigits), all]

/-- As many digits as are written are taken, if no more are looked at or they end there. -/
theorem takeWhile_take_append
    (areDigits : digits.all Char.isDigit = true)
    (notMore : digits.length ≤ most)
    (ends : digits.length = most ∨ EndsField rest) :
    ((digits ++ rest).take most).takeWhile Char.isDigit = digits := by
  rw [List.take_append, List.take_of_length_le notMore]
  refine takeWhile_isDigit_append areDigits ?_
  rcases ends with exactly | ends
  · rw [exactly, Nat.sub_self, List.take_zero]
    exact endsField_nil
  · exact ends.take _

theorem readDigits_append
    (areDigits : digits.all Char.isDigit = true)
    (enough : least ≤ digits.length)
    (notMore : digits.length ≤ most)
    (ends : digits.length = most ∨ EndsField rest) :
    readDigits least most (digits ++ rest) = some (Text.digitsValue digits, rest) := by
  rw [readDigits, takeWhile_take_append areDigits notMore ends, if_neg (Nat.not_lt.2 enough),
    List.drop_left]

/-- No field is read where none starts. -/
theorem readDigits_eq_none (positive : 0 < least) (ends : EndsField input) :
    readDigits least most input = none := by
  have none : ([] : List Char).all Char.isDigit = true := rfl
  have noDigits : (input.take most).takeWhile Char.isDigit = [] :=
    takeWhile_isDigit_append none (ends.take most)
  rw [readDigits, noDigits]
  exact if_pos positive

/-! ## Padded fields -/

theorem all_isDigit_padded (width value : Nat) : (padded width value).all Char.isDigit = true := by
  rw [padded, List.all_append, Text.all_isDigit_toDigits, Bool.and_true, List.all_replicate]
  cases width - (Nat.toDigits 10 value).length <;> rfl

theorem digitsValue_padded (width value : Nat) : Text.digitsValue (padded width value) = value := by
  rw [padded, Text.digitsValue_replicate_zero, Text.digitsValue_toDigits]

theorem length_padded (positive : 0 < width) (fits : value < 10 ^ width) :
    (padded width value).length = width := by
  have short := (Nat.length_toDigits_le_iff (by decide) positive).2 fits
  rw [padded, List.length_append, List.length_replicate]
  omega

theorem padded_ne_nil (width value : Nat) : padded width value ≠ [] := by
  rw [padded]
  exact List.append_ne_nil_of_right_ne_nil _ Nat.toDigits_ne_nil

/-- A padded field starts with a digit. -/
theorem exists_padded_eq_cons (width value : Nat) :
    ∃ digit others, padded width value = digit :: others ∧ digit.isDigit = true := by
  obtain ⟨digit, others, same⟩ := List.exists_cons_of_ne_nil (padded_ne_nil width value)
  have areDigits := all_isDigit_padded width value
  rw [same, List.all_cons, Bool.and_eq_true] at areDigits
  exact ⟨digit, others, same, areDigits.1⟩

theorem trimFront_padded (width value : Nat) (rest : List Char) :
    Text.trimFront (padded width value ++ rest) = padded width value ++ rest := by
  obtain ⟨digit, others, same, isDigit⟩ := exists_padded_eq_cons width value
  rw [same]
  exact Text.trimFront_cons (Text.isBlank_of_isDigit isDigit) _

theorem readExact_padded
    (positive : 0 < width)
    (fits : value < 10 ^ width)
    (rest : List Char) :
    readExact width (padded width value ++ rest) = some (value, rest) := by
  have length := length_padded positive fits
  rw [readExact, readDigits_append (all_isDigit_padded width value) (by omega) (by omega)
    (.inl length), digitsValue_padded]

theorem readPadded_padded (fits : value < 100) (rest : List Char) :
    readPadded (padded 2 value ++ rest) = some (value, rest) := by
  have length : (padded 2 value).length = 2 := length_padded (by decide) fits
  rw [readPadded, trimFront_padded, readDigits_append (all_isDigit_padded 2 value) (by omega)
    (by omega) (.inl length), digitsValue_padded]

/-! ## Years -/

theorem readYear_minus (rest : List Char) :
    readYear ('-' :: rest) =
      (readDigits 1 rest.length rest).map fun year => (-(year.1 : Int), year.2) := by
  rw [readYear, Text.trimFront_cons (by decide)]
  rfl

theorem readYear_plus (rest : List Char) :
    readYear ('+' :: rest) =
      (readDigits 1 rest.length rest).map fun year => ((year.1 : Int), year.2) := by
  rw [readYear, Text.trimFront_cons (by decide)]
  rfl

/-- A year without a sign is read from at most four digits. -/
theorem readYear_padded (width value : Nat) (rest : List Char) :
    readYear (padded width value ++ rest) =
      (readDigits 1 4 (padded width value ++ rest)).map fun year => ((year.1 : Int), year.2) := by
  obtain ⟨digit, others, same, isDigit⟩ := exists_padded_eq_cons width value
  rw [readYear, trimFront_padded, same, List.cons_append]
  split
  · rename_i sameHead
    cases sameHead
    cases isDigit
  · rename_i sameHead
    cases sameHead
    cases isDigit
  · rfl

/-- Behind a sign all digits are read. -/
theorem readDigits_padded (width value : Nat) (ends : EndsField rest) :
    readDigits 1 (padded width value ++ rest).length (padded width value ++ rest) =
      some (value, rest) := by
  have length := List.length_pos_iff.2 (padded_ne_nil width value)
  rw [readDigits_append (all_isDigit_padded width value) length
    (by rw [List.length_append]; omega) (.inr ends), digitsValue_padded]

/-! ## Marks -/

theorem readMark_cons (mark : Char) (rest : List Char) :
    readMark mark (mark :: rest) = some rest := by
  rw [readMark, if_pos rfl]

/-! ## Fractions of a second -/

theorem readFraction_point (rest : List Char) :
    readFraction ('.' :: rest) =
      if ((rest.take 9).takeWhile Char.isDigit).isEmpty then none
      else some (Text.digitsValue ((rest.take 9).takeWhile Char.isDigit) *
        Nat.pow 10 (9 - ((rest.take 9).takeWhile Char.isDigit).length),
          rest.dropWhile Char.isDigit) := rfl

theorem readFraction_padded
    (positive : 0 < width)
    (short : width ≤ 9)
    (fits : value < 10 ^ width)
    (ends : EndsField rest) :
    readFraction ('.' :: (padded width value ++ rest)) =
      some (value * Nat.pow 10 (9 - width), rest) := by
  have length := length_padded positive fits
  have areDigits := all_isDigit_padded width value
  have taken := takeWhile_take_append areDigits (Nat.le_trans (Nat.le_of_eq length) short)
    (.inr ends)
  have notEmpty : (padded width value).isEmpty = false :=
    List.isEmpty_eq_false_iff.2 (padded_ne_nil width value)
  rw [readFraction_point, taken, notEmpty, if_neg Bool.false_ne_true,
    dropWhile_isDigit_append areDigits ends, digitsValue_padded, length]

/-- A fraction that is read is less than a second. -/
theorem readFraction_lt (read : readFraction input = some (value, rest)) : value < 1000000000 := by
  rw [readFraction.eq_def] at read
  split at read
  · rename_i input
    dsimp only at read
    split at read
    · cases read
    · cases read
      generalize isTaken : (input.take 9).takeWhile Char.isDigit = digits
      have short : digits.length ≤ 9 := by
        rw [← isTaken]
        exact Nat.le_trans (List.takeWhile_prefix _).length_le (List.length_take_le 9 input)
      have areDigits : digits.all Char.isDigit = true := by
        rw [← isTaken]
        exact List.all_takeWhile
      have whole : 10 ^ digits.length * 10 ^ (9 - digits.length) = 1000000000 := by
        rw [← Nat.pow_add, Nat.add_sub_cancel' short]
      rw [← whole]
      exact Nat.mul_lt_mul_of_pos_right (Text.digitsValue_lt areDigits) (Nat.pow_pos (by decide))
  · cases read
    decide

end Calendar
end RelationalApi
