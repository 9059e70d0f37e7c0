import Mathlib.Algebra.Order.Field.Rat
import Mathlib.Data.String.Basic
import Mathlib.Tactic.Positivity
import RelationalApi.Proofs.Arguments.FoundAgain
import RelationalApi.Proofs.Storage.Selects

/-!
# Decimal columns

A decimal is stored as the text that it was written as, and conditions and orders compare it as a
text, character by character from left to right.  This decides as the numbers do only among decimals
that are laid out alike: with the same sign, which is no minus, with as many digits in front of the
point, and with as many digits behind it.
-/

namespace RelationalApi

open Outcome

namespace Text

variable {left right : List Char}

/-- Of two numbers the leading digits decide first, and what follows them last. -/
theorem leading_lt_iff
    {first second rest otherRest unit : Nat}
    (restLess : rest < unit)
    (otherLess : otherRest < unit) :
    first * unit + rest < second * unit + otherRest ↔
      first < second ∨ first = second ∧ rest < otherRest := by
  have apart : ∀ {less more : Nat}, less < more -> less * unit + unit ≤ more * unit := by
    intro less more isLess
    rw [← Nat.succ_mul]
    exact Nat.mul_le_mul_right unit isLess
  rcases Nat.lt_trichotomy first second with isLess | rfl | isMore
  · have least := apart isLess
    omega
  · omega
  · have least := apart isMore
    omega

/-- Two texts are laid out alike: where one has a digit, so has the other, and all else is the
same. -/
inductive LaidOutAlike : List Char -> List Char -> Prop
  | nil : LaidOutAlike [] []
  | digit
      {first second : Char}
      {left right : List Char}
      (isDigit : first.isDigit = true)
      (otherIsDigit : second.isDigit = true)
      (alike : LaidOutAlike left right) :
      LaidOutAlike (first :: left) (second :: right)
  | mark
      {character : Char}
      {left right : List Char}
      (notDigit : character.isDigit = false)
      (alike : LaidOutAlike left right) :
      LaidOutAlike (character :: left) (character :: right)

theorem LaidOutAlike.of_digits
    {lefts rights : List Char}
    (areDigits : lefts.all Char.isDigit = true)
    (otherDigits : rights.all Char.isDigit = true)
    (sameLength : lefts.length = rights.length)
    (alike : LaidOutAlike left right) :
    LaidOutAlike (lefts ++ left) (rights ++ right) := by
  induction lefts generalizing rights with
  | nil =>
      cases List.length_eq_zero_iff.1 sameLength.symm
      exact alike
  | cons first lefts inductionHypothesis =>
      obtain ⟨second, rights, rfl⟩ := List.exists_cons_of_length_eq_add_one sameLength.symm
      rw [List.all_cons, Bool.and_eq_true] at areDigits otherDigits
      exact .digit areDigits.1 otherDigits.1
        (inductionHypothesis areDigits.2 otherDigits.2 (Nat.succ.inj sameLength))

theorem LaidOutAlike.length_filter (alike : LaidOutAlike left right) :
    (left.filter Char.isDigit).length = (right.filter Char.isDigit).length := by
  induction alike with
  | nil => rfl
  | digit isDigit otherIsDigit _ inductionHypothesis =>
      rw [List.filter_cons_of_pos isDigit, List.filter_cons_of_pos otherIsDigit,
        List.length_cons, List.length_cons, inductionHypothesis]
  | mark notDigit _ inductionHypothesis =>
      have isMark := Bool.not_eq_true _ ▸ notDigit
      rw [List.filter_cons_of_neg isMark, List.filter_cons_of_neg isMark, inductionHypothesis]

/-- Of two texts that are laid out alike, the one whose digits denote less is the lesser one. -/
theorem LaidOutAlike.lt_iff (alike : LaidOutAlike left right) :
    left < right ↔
      digitsValue (left.filter Char.isDigit) < digitsValue (right.filter Char.isDigit) := by
  induction alike with
  | nil => simp [digitsValue]
  | @digit first second left right isDigit otherIsDigit alike inductionHypothesis =>
      have less : ∀ digits : List Char, digitsValue (digits.filter Char.isDigit) <
          10 ^ (digits.filter Char.isDigit).length := by
        intro digits
        exact digitsValue_lt (List.all_eq_true.2 fun _ member => (List.mem_filter.1 member).2)
      have restLess := less left
      rw [alike.length_filter] at restLess
      obtain ⟨isLess, isSame⟩ := digitValue_lt_and_eq_iff isDigit otherIsDigit
      rw [List.filter_cons_of_pos isDigit, List.filter_cons_of_pos otherIsDigit, digitsValue_cons,
        digitsValue_cons, alike.length_filter, leading_lt_iff restLess (less right),
        List.cons_lt_cons_iff, isLess, isSame, inductionHypothesis]
  | mark notDigit _ inductionHypothesis =>
      have isMark := Bool.not_eq_true _ ▸ notDigit
      rw [List.filter_cons_of_neg isMark, List.filter_cons_of_neg isMark, ← inductionHypothesis,
        List.cons_lt_cons_iff]
      simp

end Text

/-! ## Decimals as they are written -/

/-- The sign in front of a decimal, if there is one. -/
inductive DecimalSign where
  | none
  | plus
  | minus
  deriving DecidableEq

def DecimalSign.characters : DecimalSign -> List Char
  | .none => []
  | .plus => ['+']
  | .minus => ['-']

/-- How a decimal is laid out: its sign, the number of digits in front of its point, and the number
of digits behind it if it has a point. -/
structure DecimalLayout where
  sign : DecimalSign
  whole : Nat
  fraction : Option Nat
  deriving DecidableEq

/-- A decimal in plain notation, which has digits in front of its point or behind it. -/
structure PlainDecimal where
  sign : DecimalSign
  whole : List Char
  /-- The digits behind the point, if it has one. -/
  fraction : Option (List Char)
  areDigits : (whole ++ fraction.getD []).all Char.isDigit = true
  hasDigits : whole ++ fraction.getD [] ≠ []

namespace PlainDecimal

/-- The point and what stands behind it. -/
def fromPoint : Option (List Char) -> List Char
  | .none => []
  | .some fraction => '.' :: fraction

/-- All digits from left to right. -/
def digits (decimal : PlainDecimal) : List Char :=
  decimal.whole ++ decimal.fraction.getD []

def characters (decimal : PlainDecimal) : List Char :=
  decimal.sign.characters ++ (decimal.whole ++ fromPoint decimal.fraction)

def text (decimal : PlainDecimal) : String :=
  String.ofList decimal.characters

def layout (decimal : PlainDecimal) : DecimalLayout :=
  ⟨decimal.sign, decimal.whole.length, decimal.fraction.map List.length⟩

/-- The number that a decimal denotes without its sign: each digit behind the point makes the number
of all digits ten times less. -/
def magnitude (decimal : PlainDecimal) : ℚ :=
  Text.digitsValue decimal.digits / 10 ^ (decimal.fraction.getD []).length

/-- The number that a decimal denotes. -/
def number (decimal : PlainDecimal) : ℚ :=
  match decimal.sign with
  | .none => decimal.magnitude
  | .plus => decimal.magnitude
  | .minus => -decimal.magnitude

variable {decimal left right : PlainDecimal} {characters : List Char}

theorem drop_fromPoint (fraction : Option (List Char)) :
    (fromPoint fraction).drop 1 = fraction.getD [] := by
  cases fraction <;> rfl

/-- Behind the characters in front of the first point there is nothing, or the point. -/
theorem exists_fromPoint (characters : List Char) :
    ∃ fraction, fromPoint fraction = characters.dropWhile (· != '.') := by
  have point := List.head?_dropWhile_not (· != '.') characters
  cases isRest : characters.dropWhile (· != '.') with
  | nil => exact ⟨none, rfl⟩
  | cons first fraction =>
      rw [isRest] at point
      have isPoint : first = '.' := by simpa using point
      exact ⟨some fraction, by rw [isPoint, fromPoint]⟩

/-- Digits in front of the first point. -/
theorem split_digits
    {whole : List Char}
    (areDigits : whole.all Char.isDigit = true)
    (fraction : Option (List Char)) :
    (whole ++ fromPoint fraction).takeWhile (· != '.') = whole ∧
      (whole ++ fromPoint fraction).dropWhile (· != '.') = fromPoint fraction := by
  have noPoint : ∀ character ∈ whole, (character != '.') = true := by
    intro character member
    rw [bne_iff_ne]
    rintro rfl
    exact absurd (List.all_eq_true.1 areDigits _ member) (by decide)
  rw [List.takeWhile_append_of_pos noPoint, List.dropWhile_append_of_pos noPoint]
  cases fraction <;> simp [fromPoint]

/-- Characters behind the sign of a decimal. -/
def isUnsigned (characters : List Char) : Bool :=
  let whole := characters.takeWhile (· != '.')
  let fraction := (characters.dropWhile (· != '.')).drop 1
  !(whole.isEmpty && fraction.isEmpty) && whole.all Char.isDigit && fraction.all Char.isDigit

/-- A decimal without its sign is written in digits and at most one point. -/
theorem isUnsigned_iff :
    isUnsigned characters = true ↔
      ∃ whole fraction, whole ++ fromPoint fraction = characters ∧
        (whole ++ fraction.getD []).all Char.isDigit = true ∧ whole ++ fraction.getD [] ≠ [] := by
  have parts : ∀ whole fraction : List Char,
      (!(whole.isEmpty && fraction.isEmpty) && whole.all Char.isDigit &&
          fraction.all Char.isDigit) = true ↔
        (whole ++ fraction).all Char.isDigit = true ∧ whole ++ fraction ≠ [] := by
    intro whole fraction
    have noDigits : (whole.isEmpty && fraction.isEmpty) = (whole ++ fraction).isEmpty := by
      cases whole <;> rfl
    rw [noDigits, Bool.and_assoc, ← List.all_append, Bool.and_eq_true, Bool.not_eq_true',
      List.isEmpty_eq_false_iff]
    exact and_comm
  rw [isUnsigned, parts]
  constructor
  · rintro ⟨areDigits, hasDigits⟩
    obtain ⟨fraction, isRest⟩ := exists_fromPoint characters
    rw [← isRest, drop_fromPoint] at areDigits hasDigits
    refine ⟨_, fraction, ?_, areDigits, hasDigits⟩
    rw [isRest, List.takeWhile_append_dropWhile]
  · rintro ⟨whole, fraction, rfl, areDigits, hasDigits⟩
    have wholeDigits : whole.all Char.isDigit = true := by
      rw [List.all_append, Bool.and_eq_true] at areDigits
      exact areDigits.1
    obtain ⟨isWhole, isRest⟩ := split_digits wholeDigits fraction
    rw [isWhole, isRest, drop_fromPoint]
    exact ⟨areDigits, hasDigits⟩

/-- Without a sign there are only digits and the point. -/
theorem isDigit_or_isPoint
    {whole : List Char}
    {fraction : Option (List Char)}
    (areDigits : (whole ++ fraction.getD []).all Char.isDigit = true) :
    ∀ character ∈ whole ++ fromPoint fraction, character.isDigit = true ∨ character = '.' := by
  rw [List.all_append, Bool.and_eq_true, List.all_eq_true, List.all_eq_true] at areDigits
  refine List.forall_mem_append.2 ⟨fun character member => .inl (areDigits.1 _ member), ?_⟩
  cases fraction with
  | none => simp [fromPoint]
  | some fraction =>
      exact List.forall_mem_cons.2 ⟨.inr rfl, fun character member => .inl (areDigits.2 _ member)⟩

/-- Without a sign in front the whole text has to be digits and a point. -/
theorem isDecimal_eq_isUnsigned
    (noMinus : ∀ rest, characters ≠ '-' :: rest)
    (noPlus : ∀ rest, characters ≠ '+' :: rest) :
    isDecimal characters = isUnsigned characters := by
  unfold isDecimal
  split
  · exact absurd rfl (noMinus _)
  · exact absurd rfl (noPlus _)
  · rfl

/-- Decimal columns take exactly the texts of decimals in plain notation. -/
theorem isDecimal_iff :
    isDecimal characters = true ↔ ∃ decimal : PlainDecimal, decimal.characters = characters := by
  have minus : ∀ rest, isDecimal ('-' :: rest) = isUnsigned rest := fun _ => rfl
  have plus : ∀ rest, isDecimal ('+' :: rest) = isUnsigned rest := fun _ => rfl
  constructor
  · intro accepted
    by_cases isMinus : ∃ rest, characters = '-' :: rest
    · obtain ⟨rest, rfl⟩ := isMinus
      obtain ⟨whole, fraction, rfl, areDigits, hasDigits⟩ := isUnsigned_iff.1 (minus rest ▸ accepted)
      exact ⟨⟨.minus, whole, fraction, areDigits, hasDigits⟩, rfl⟩
    by_cases isPlus : ∃ rest, characters = '+' :: rest
    · obtain ⟨rest, rfl⟩ := isPlus
      obtain ⟨whole, fraction, rfl, areDigits, hasDigits⟩ := isUnsigned_iff.1 (plus rest ▸ accepted)
      exact ⟨⟨.plus, whole, fraction, areDigits, hasDigits⟩, rfl⟩
    rw [isDecimal_eq_isUnsigned (not_exists.1 isMinus) (not_exists.1 isPlus)] at accepted
    obtain ⟨whole, fraction, rfl, areDigits, hasDigits⟩ := isUnsigned_iff.1 accepted
    exact ⟨⟨.none, whole, fraction, areDigits, hasDigits⟩, rfl⟩
  · rintro ⟨⟨sign, whole, fraction, areDigits, hasDigits⟩, rfl⟩
    have unsigned : isUnsigned (whole ++ fromPoint fraction) = true :=
      isUnsigned_iff.2 ⟨whole, fraction, rfl, areDigits, hasDigits⟩
    cases sign with
    | minus => exact unsigned
    | plus => exact unsigned
    | none =>
        have noSign := isDigit_or_isPoint areDigits
        rw [PlainDecimal.characters, DecimalSign.characters, List.nil_append,
          isDecimal_eq_isUnsigned]
        · exact unsigned
        · intro rest isSigned
          rw [isSigned] at noSign
          exact absurd (noSign '-' List.mem_cons_self) (by decide)
        · intro rest isSigned
          rw [isSigned] at noSign
          exact absurd (noSign '+' List.mem_cons_self) (by decide)

/-- The codec of decimal columns reads a text as the decimal that it is without the blanks around
it. -/
theorem read_iff
    {text path : String}
    {value : Value} :
    Codec.decimal.read (.string text) path = .ok value ↔
      ∃ decimal : PlainDecimal, decimal.characters = Text.trimBlanks text.toList ∧
        .string decimal.text = value := by
  rw [Codec.read, plainValue?]
  · constructor
    · intro read
      split at read
      · rename_i found
        obtain ⟨accepted, isText⟩ := Option.ite_none_right_eq_some.1 found
        obtain ⟨decimal, isWritten⟩ := isDecimal_iff.1 accepted
        cases read
        exact ⟨decimal, isWritten, by rw [PlainDecimal.text, isWritten, Option.some.inj isText]⟩
      · cases read
    · rintro ⟨decimal, isWritten, rfl⟩
      rw [← isWritten, if_pos (isDecimal_iff.2 ⟨decimal, rfl⟩)]
      rfl
  all_goals simp

/-! ## The order of decimals -/

theorem filter_characters (decimal : PlainDecimal) :
    decimal.characters.filter Char.isDigit = decimal.digits := by
  have areDigits := decimal.areDigits
  rw [List.all_append, Bool.and_eq_true, List.all_eq_true, List.all_eq_true] at areDigits
  have noSign : decimal.sign.characters.filter Char.isDigit = [] := by
    cases decimal.sign <;> decide
  have noPoint : (fromPoint decimal.fraction).filter Char.isDigit =
      (decimal.fraction.getD []).filter Char.isDigit := by
    cases decimal.fraction <;> rfl
  rw [PlainDecimal.characters, List.filter_append, List.filter_append, noSign, noPoint,
    List.nil_append, List.filter_eq_self.2 areDigits.1, List.filter_eq_self.2 areDigits.2, digits]

theorem laidOutAlike (same : left.layout = right.layout) :
    Text.LaidOutAlike left.characters right.characters := by
  obtain ⟨sign, whole, fraction, areDigits, _⟩ := left
  obtain ⟨otherSign, otherWhole, otherFraction, otherDigits, _⟩ := right
  rw [layout, layout, DecimalLayout.mk.injEq] at same
  obtain ⟨rfl, sameWhole, sameFraction⟩ := same
  rw [List.all_append, Bool.and_eq_true] at areDigits otherDigits
  have alikeFractions : Text.LaidOutAlike (fromPoint fraction) (fromPoint otherFraction) := by
    cases fraction <;> cases otherFraction <;>
      simp only [Option.map_none, Option.map_some, reduceCtorEq, Option.some.injEq] at sameFraction
    · exact .nil
    · refine .mark (by decide) ?_
      have alike := Text.LaidOutAlike.of_digits areDigits.2 otherDigits.2 sameFraction .nil
      rwa [List.append_nil, List.append_nil] at alike
  have alike := Text.LaidOutAlike.of_digits areDigits.1 otherDigits.1 sameWhole alikeFractions
  cases sign with
  | none => exact alike
  | plus => exact .mark (by decide) alike
  | minus => exact .mark (by decide) alike

/-- Of two decimals that are laid out alike, the lesser text has the lesser magnitude. -/
theorem text_lt_iff (same : left.layout = right.layout) :
    left.text < right.text ↔ left.magnitude < right.magnitude := by
  have lengths : ∀ decimal : PlainDecimal,
      (decimal.fraction.getD []).length = decimal.layout.fraction.getD 0 := by
    intro decimal
    rw [layout]
    cases decimal.fraction <;> rfl
  have sameFraction : (left.fraction.getD []).length = (right.fraction.getD []).length := by
    rw [lengths, lengths, same]
  rw [String.lt_iff_toList_lt, text, text, String.toList_ofList, String.toList_ofList,
    (laidOutAlike same).lt_iff, filter_characters, filter_characters, magnitude, magnitude,
    sameFraction, div_lt_div_iff_of_pos_right (by positivity), Nat.cast_lt]

theorem compare_text (same : left.layout = right.layout) :
    compare left.text right.text = compare left.magnitude right.magnitude := by
  have isLess := text_lt_iff same
  have isMore := text_lt_iff same.symm
  rcases lt_trichotomy left.magnitude right.magnitude with less | equal | more
  · rw [compare_lt_iff_lt.2 less, compare_lt_iff_lt.2 (isLess.2 less)]
  · have notLess := mt isLess.1 equal.not_lt
    have notMore := mt isMore.1 equal.symm.not_lt
    rw [compare_eq_iff_eq.2 equal, compare_eq_iff_eq.2]
    exact le_antisymm (not_lt.1 notMore) (not_lt.1 notLess)
  · rw [compare_gt_iff_gt.2 more, compare_gt_iff_gt.2 (isMore.2 more)]

/-- The sign of a decimal stands nowhere in a decimal of another sign. -/
theorem sign_eq_iff (decimal : PlainDecimal) :
    (decimal.sign = .minus ↔ '-' ∈ decimal.characters) ∧
      (decimal.sign = .plus ↔ '+' ∈ decimal.characters) := by
  have noSign := isDigit_or_isPoint decimal.areDigits
  rw [PlainDecimal.characters]
  generalize decimal.whole ++ fromPoint decimal.fraction = unsigned at noSign
  have noMinus : '-' ∉ unsigned := fun member => absurd (noSign _ member) (by decide)
  have noPlus : '+' ∉ unsigned := fun member => absurd (noSign _ member) (by decide)
  cases decimal.sign <;> simp [DecimalSign.characters, noMinus, noPlus]

/-- Without a minus a decimal denotes its magnitude. -/
theorem number_eq_magnitude (notMinus : decimal.sign ≠ .minus) :
    decimal.number = decimal.magnitude := by
  rw [number]
  split
  · rfl
  · rfl
  · rename_i isMinus
    exact absurd isMinus notMinus

/-- Decimals that are written alike are the same. -/
theorem eq_of_text_eq (same : left.text = right.text) : left = right := by
  have sameCharacters : left.characters = right.characters := by
    have sameLists := congrArg String.toList same
    rwa [text, text, String.toList_ofList, String.toList_ofList] at sameLists
  have sameSign : left.sign = right.sign := by
    have ofLeft := sign_eq_iff left
    rw [sameCharacters, ← (sign_eq_iff right).1, ← (sign_eq_iff right).2] at ofLeft
    cases isLeft : left.sign <;> cases isRight : right.sign <;> simp_all
  obtain ⟨sign, whole, fraction, areDigits, _⟩ := left
  obtain ⟨_, otherWhole, otherFraction, otherDigits, _⟩ := right
  cases sameSign
  have sameUnsigned := List.append_cancel_left sameCharacters
  dsimp only at sameUnsigned
  rw [List.all_append, Bool.and_eq_true] at areDigits otherDigits
  obtain ⟨isWhole, isRest⟩ := split_digits areDigits.1 fraction
  obtain ⟨isOtherWhole, isOtherRest⟩ := split_digits otherDigits.1 otherFraction
  have sameWhole : whole = otherWhole := by rw [← isWhole, sameUnsigned, isOtherWhole]
  have sameRest : fromPoint fraction = fromPoint otherFraction := by
    rw [← isRest, sameUnsigned, isOtherRest]
  have sameFraction : fraction = otherFraction := by
    cases fraction <;> cases otherFraction <;> simp_all [fromPoint]
  subst sameWhole sameFraction
  rfl

theorem map_digits (whole : List Char) (fraction : Option (List Char)) (change : Char -> Char) :
    whole.map change ++ (fraction.map (List.map change)).getD [] =
      (whole ++ fraction.getD []).map change := by
  cases fraction <;> simp

/-- The decimal of the same layout with one digit at all places. -/
def filled (decimal : PlainDecimal) (digit : Char) (isDigit : digit.isDigit = true) :
    PlainDecimal where
  sign := decimal.sign
  whole := decimal.whole.map fun _ => digit
  fraction := decimal.fraction.map (List.map fun _ => digit)
  areDigits := by
    rw [map_digits, List.all_map]
    exact List.all_eq_true.2 fun _ _ => isDigit
  hasDigits := by
    rw [map_digits]
    exact mt List.map_eq_nil_iff.1 decimal.hasDigits

variable {digit : Char} {isDigit : digit.isDigit = true}

@[simp] theorem layout_filled : (decimal.filled digit isDigit).layout = decimal.layout := by
  rw [layout, layout, filled, List.length_map, Option.map_map]
  congr 2
  exact funext fun _ => List.length_map _

theorem digits_filled :
    (decimal.filled digit isDigit).digits = List.replicate decimal.digits.length digit := by
  rw [digits, filled, map_digits, List.map_const', digits]

theorem magnitude_zeros : (decimal.filled '0' rfl).magnitude = 0 := by
  have noValue := Text.digitsValue_replicate_zero decimal.digits.length []
  rw [List.append_nil] at noValue
  rw [magnitude, digits_filled, noValue]
  simp [Text.digitsValue]

theorem magnitude_ones : 0 < (decimal.filled '1' rfl).magnitude := by
  obtain ⟨first, others, isDigits⟩ := List.exists_cons_of_ne_nil decimal.hasDigits
  have value : 0 < Text.digitsValue (decimal.filled '1' rfl).digits := by
    rw [digits_filled, digits, isDigits, List.length_cons, List.replicate_succ,
      Text.digitsValue_cons]
    exact Nat.add_pos_left (Nat.mul_pos (by decide) (Nat.pow_pos (by decide))) _
  rw [magnitude]
  positivity

end PlainDecimal

/-! ## Conditions and orders -/

/-- The relation between numbers that a comparison is named for. -/
def Comparison.Relates : Comparison -> ℚ -> ℚ -> Prop
  | equal, left, right => left = right
  | notEqual, left, right => left ≠ right
  | less, left, right => left < right
  | lessOrEqual, left, right => left ≤ right
  | greater, left, right => right < left
  | greaterOrEqual, left, right => right ≤ left

/-- The number of a row may stand in front of that of another row. -/
def Direction.Orders : Direction -> ℚ -> ℚ -> Prop
  | ascending, first, second => first ≤ second
  | descending, first, second => second ≤ first

/-- Decimal columns treat decimals of some layouts as numbers: every operator that compares holds
between a stored decimal and a given one where the numbers are related, and an order puts rows in
the order of the numbers. -/
structure TreatsAsNumbers (admits : DecimalLayout -> Prop) : Prop where
  conditions : ∀ (column : ColumnCodec) (path name : String) (comparison : Comparison)
    (operand : Json) (row : StoredRow) (stored given : PlainDecimal),
    column.codec = .decimal -> comparisonOfName? name = some comparison ->
    fieldValue? row column.column = some (.string stored.text) ->
    column.codec.read operand (joinPath path name) = .ok (.string given.text) ->
    admits stored.layout -> admits given.layout ->
      ∃ filter, compileColumn column path (.object [(name, operand)]) = .ok (some filter) ∧
        (filter.holds row = true ↔ comparison.Relates stored.number given.number)
  orders : ∀ (field : String) (direction : Direction) (rows : List StoredRow)
    (stored : StoredRow -> PlainDecimal),
    (∀ row ∈ rows,
      fieldValue? row field = some (.string (stored row).text) ∧ admits (stored row).layout) ->
      (sortRows [⟨field, direction⟩] rows).Perm rows ∧
        (sortRows [⟨field, direction⟩] rows).Pairwise fun first second =>
          direction.Orders (stored first).number (stored second).number

/-- Texts that are ordered as numbers are related as they are. -/
theorem Comparison.holds_iff_relates
    {left right : String}
    {number otherNumber : ℚ}
    (sameOrder : compare left right = compare number otherNumber)
    (comparison : Comparison) :
    comparison.holds (.string left) (.string right) = true ↔
      comparison.Relates number otherNumber := by
  have isEqual : (Value.string left).equal (.string right) = true ↔ number = otherNumber := by
    rw [Value.equal_string_iff, ← compare_eq_iff_eq, sameOrder, compare_eq_iff_eq]
  have isOrdered : (Value.string left).order? (.string right) =
      some (compare number otherNumber) := by
    rw [Value.order?, sameOrder]
  cases comparison with
  | equal => exact isEqual
  | notEqual =>
      rw [holds, Bool.not_eq_true', Bool.eq_false_iff, ne_eq, isEqual]
      rfl
  | less =>
      rw [holds, isOrdered, beq_iff_eq, Option.some.injEq, compare_lt_iff_lt]
      rfl
  | lessOrEqual =>
      rw [holds, isOrdered, Bool.or_eq_true, beq_iff_eq, beq_iff_eq, Option.some.injEq,
        Option.some.injEq, compare_lt_iff_lt, compare_eq_iff_eq, ← le_iff_lt_or_eq]
      rfl
  | greater =>
      rw [holds, isOrdered, beq_iff_eq, Option.some.injEq, compare_gt_iff_gt]
      rfl
  | greaterOrEqual =>
      rw [holds, isOrdered, Bool.or_eq_true, beq_iff_eq, beq_iff_eq, Option.some.injEq,
        Option.some.injEq, compare_gt_iff_gt, compare_eq_iff_eq, @eq_comm _ number,
        ← le_iff_lt_or_eq]
      rfl

theorem Direction.orders_total (direction : Direction) (first second : ℚ) :
    direction.Orders first second ∨ direction.Orders second first := by
  cases direction with
  | ascending => exact le_total first second
  | descending => exact le_total second first

theorem Direction.orders_trans
    {direction : Direction}
    {first second third : ℚ}
    (orders : direction.Orders first second)
    (ordersNext : direction.Orders second third) :
    direction.Orders first third := by
  cases direction with
  | ascending => exact le_trans orders ordersNext
  | descending => exact le_trans ordersNext orders

/-- A key decides between rows whose texts are ordered as numbers. -/
theorem compareRows_eq_lt_iff
    {first second : StoredRow}
    {field left right : String}
    {number otherNumber : ℚ}
    (isLeft : fieldValue? first field = some (.string left))
    (isRight : fieldValue? second field = some (.string right))
    (sameOrder : compare left right = compare number otherNumber)
    (direction : Direction) :
    compareRows first second [⟨field, direction⟩] = .lt ↔
      ¬direction.Orders otherNumber number := by
  have order : sortOrder (some (.string left)) (some (.string right)) =
      compare number otherNumber := by
    rw [← sameOrder]
    rfl
  rw [compareRows, compareRows, isLeft, isRight, order]
  dsimp only
  rw [Ordering.then_eq]
  cases direction with
  | ascending => rw [Direction.Orders, compare_lt_iff_lt, not_le]
  | descending => rw [Direction.Orders, Ordering.swap_eq_lt, compare_gt_iff_gt, not_le]

/-- A condition on a stored text compares it with what the operand is read as. -/
theorem compileColumn_of_read
    {column : ColumnCodec}
    {path name stored : String}
    {comparison : Comparison}
    {operand : Json}
    {row : StoredRow}
    {value : Value}
    (isDecimalColumn : column.codec = .decimal)
    (named : comparisonOfName? name = some comparison)
    (isStored : fieldValue? row column.column = some (.string stored))
    (read : column.codec.read operand (joinPath path name) = .ok value) :
    ∃ filter, compileColumn column path (.object [(name, operand)]) = .ok (some filter) ∧
      filter.holds row = comparison.holds (.string stored) value := by
  have notNull : operand.isNull = false := by
    cases operand with
    | null =>
        rw [isDecimalColumn] at read
        cases read
    | _ => rfl
  refine ⟨.compare comparison column.column value, ?_, ?_⟩
  · rw [compileColumn_comparison named notNull]
    change (column.codec.read operand (joinPath path name)).map _ = _
    rw [read]
    rfl
  · rw [Filter.holds, present?, isStored]
    rfl

namespace TreatsAsNumbers

variable {admits : DecimalLayout -> Prop} {left right : PlainDecimal}

/-- Where decimals are treated as numbers, their texts are related as the numbers. -/
theorem holds_iff
    (treats : TreatsAsNumbers admits)
    (admitted : admits left.layout)
    (otherAdmitted : admits right.layout)
    (name : String)
    {comparison : Comparison}
    (named : comparisonOfName? name = some comparison) :
    comparison.holds (.string left.text) (.string right.text) = true ↔
      comparison.Relates left.number right.number := by
  have isWritten : right.characters = Text.trimBlanks right.text.toList := by
    rw [PlainDecimal.text, String.toList_ofList, Text.trimBlanks_of_forall]
    exact isBlank_of_isDecimal (PlainDecimal.isDecimal_iff.2 ⟨right, rfl⟩)
  have read : Codec.decimal.read (.string right.text) (joinPath "where" name) =
      .ok (.string right.text) :=
    PlainDecimal.read_iff.2 ⟨right, isWritten, rfl⟩
  have isStored : fieldValue? [⟨"price", .string left.text⟩] "price" =
      some (.string left.text) := rfl
  let column : ColumnCodec := ⟨"price", false, .decimal⟩
  obtain ⟨filter, compiled, holds⟩ := treats.conditions column "where" name comparison _ _ left
    right rfl named isStored read admitted otherAdmitted
  obtain ⟨other, compiledAgain, holdsAgain⟩ :=
    @compileColumn_of_read column _ _ _ _ _ _ _ rfl named isStored read
  rw [compiled] at compiledAgain
  cases compiledAgain
  rw [← holdsAgain, holds]

/-- A minus sign turns the order of numbers round, and not that of texts. -/
theorem sign_ne_minus
    (treats : TreatsAsNumbers admits)
    (admitted : admits left.layout) :
    left.sign ≠ .minus := by
  intro isMinus
  have number : ∀ digit isDigit, (left.filled digit isDigit).number =
      -(left.filled digit isDigit).magnitude := by
    intro digit isDigit
    rw [PlainDecimal.number, PlainDecimal.filled, isMinus]
  have sameLayout : (left.filled '0' rfl).layout = (left.filled '1' rfl).layout := by simp
  have zeros : admits (left.filled '0' rfl).layout := by rwa [PlainDecimal.layout_filled]
  have ones : admits (left.filled '1' rfl).layout := by rwa [PlainDecimal.layout_filled]
  have ofTexts := Comparison.holds_iff_relates (PlainDecimal.compare_text sameLayout) .less
  have ofNumbers := treats.holds_iff zeros ones "lt" rfl
  rw [ofTexts] at ofNumbers
  have less : -(left.filled '0' rfl).magnitude < -(left.filled '1' rfl).magnitude := by
    rw [← number, ← number]
    exact ofNumbers.1 (PlainDecimal.magnitude_zeros ▸ PlainDecimal.magnitude_ones)
  rw [neg_lt_neg_iff, PlainDecimal.magnitude_zeros] at less
  exact lt_asymm less PlainDecimal.magnitude_ones

/-- The zeros of two layouts are one number, and are written in one way only if the layouts are the
same. -/
theorem layout_eq
    (treats : TreatsAsNumbers admits)
    (admitted : admits left.layout)
    (otherAdmitted : admits right.layout) :
    left.layout = right.layout := by
  have zeros : ∀ decimal : PlainDecimal, (decimal.filled '0' rfl).number = 0 := by
    intro decimal
    rw [PlainDecimal.number]
    split <;> simp [PlainDecimal.magnitude_zeros]
  have zerosAdmitted : ∀ {decimal : PlainDecimal}, admits decimal.layout ->
      admits (decimal.filled '0' rfl).layout := by
    intro decimal isAdmitted
    rwa [PlainDecimal.layout_filled]
  have sameTexts := (treats.holds_iff (zerosAdmitted admitted) (zerosAdmitted otherAdmitted) "eq"
    rfl).2 ((zeros left).trans (zeros right).symm)
  have sameZeros := PlainDecimal.eq_of_text_eq ((Value.equal_string_iff _ _).1 sameTexts)
  have sameLayouts := congrArg PlainDecimal.layout sameZeros
  rwa [PlainDecimal.layout_filled, PlainDecimal.layout_filled] at sameLayouts

/-- Where texts are ordered as the numbers that they denote, decimals are treated as numbers. -/
theorem of_sameOrder
    (sameOrder : ∀ left right : PlainDecimal, admits left.layout -> admits right.layout ->
      compare left.text right.text = compare left.number right.number) :
    TreatsAsNumbers admits := by
  constructor
  · intro column path name comparison operand row stored given isDecimalColumn named isStored read
      admitted otherAdmitted
    obtain ⟨filter, compiled, holds⟩ := compileColumn_of_read isDecimalColumn named isStored read
    refine ⟨filter, compiled, ?_⟩
    rw [holds]
    exact Comparison.holds_iff_relates (sameOrder _ _ admitted otherAdmitted) comparison
  · intro field direction rows stored areStored
    have total : ∀ first second : StoredRow,
        direction.Orders (stored first).number (stored second).number ∨
          direction.Orders (stored second).number (stored first).number :=
      fun _ _ => direction.orders_total _ _
    refine ⟨Store.sortRows_perm _ _, Store.sortRows_pairwise total
      (fun _ _ _ => Direction.orders_trans) fun first isFirst second isSecond => ?_⟩
    obtain ⟨isLeft, admitted⟩ := areStored first isFirst
    obtain ⟨isRight, otherAdmitted⟩ := areStored second isSecond
    exact compareRows_eq_lt_iff isLeft isRight (sameOrder _ _ admitted otherAdmitted) direction

end TreatsAsNumbers

/-- Decimal columns treat decimals as numbers exactly where all decimals have one layout, which is
without a minus. -/
theorem treatsAsNumbers_iff (admits : DecimalLayout -> Prop) :
    TreatsAsNumbers admits ↔
      ∀ left right : PlainDecimal, admits left.layout -> admits right.layout ->
        left.sign ≠ .minus ∧ left.layout = right.layout := by
  constructor
  · intro treats left right admitted otherAdmitted
    exact ⟨treats.sign_ne_minus admitted, treats.layout_eq admitted otherAdmitted⟩
  · intro alike
    refine .of_sameOrder fun left right admitted otherAdmitted => ?_
    obtain ⟨notMinus, sameLayout⟩ := alike left right admitted otherAdmitted
    have otherNotMinus := (alike right right otherAdmitted otherAdmitted).1
    rw [PlainDecimal.number_eq_magnitude notMinus, PlainDecimal.number_eq_magnitude otherNotMinus,
      PlainDecimal.compare_text sameLayout]

/-- Decimals of all layouts are not treated as numbers: a price of ten is less than nine. -/
theorem not_treatsAsNumbers : ¬TreatsAsNumbers fun _ => True := by
  intro treats
  let ten : PlainDecimal := ⟨.none, ['1', '0'], none, by decide, by decide⟩
  let nine : PlainDecimal := ⟨.none, ['9'], none, by decide, by decide⟩
  have ofNumbers := @TreatsAsNumbers.holds_iff _ ten nine treats trivial trivial "lt" .less rfl
  have isLess : ten.number < nine.number := ofNumbers.1 (by decide +kernel)
  exact absurd isLess (by decide +kernel)

end RelationalApi
