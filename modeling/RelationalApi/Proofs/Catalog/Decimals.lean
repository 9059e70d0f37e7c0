import RelationalApi.Proofs.Catalog.StorageNames

/-!
# Parameters of decimals

The parameters of a storage name are the numbers of 32 bits among the parts in its parentheses, and
the precision and the scale of a decimal are the first and the second of them.  A precision of more
bits is no parameter, so the scale is taken for it.
-/

namespace RelationalApi
namespace ColumnKind

/-! ## Names with parentheses -/

section Parentheses

variable {name : String} {inner : List Char}

theorem baseNames_lower : ∀ name ∈ baseNames, ∀ letter ∈ name.toList, ¬letter.isUpper = true := by
  have noneUpper : (baseNames.all fun name => !name.toList.any Char.isUpper) = true := by
    decide +kernel
  intro name member letter isLetter isUpper
  have notAny := List.all_eq_true.1 noneUpper name member
  rw [List.any_eq_true.2 ⟨letter, isLetter, isUpper⟩] at notAny
  exact Bool.false_ne_true notAny

theorem map_toLower_eq_self (notUpper : ∀ letter ∈ inner, ¬letter.isUpper = true) :
    inner.map Char.toLower = inner := by
  have isKept : ∀ letter ∈ inner, letter.toLower = id letter := by
    intro letter member
    have outside : ¬(letter.val ≥ 'A'.val ∧ letter.val ≤ 'Z'.val) :=
      fun inside => notUpper letter member (decide_eq_true inside)
    exact dif_neg outside
  rw [List.map_congr_left isKept, List.map_id]

theorem baseAndParameters_append
    {front : List Char}
    (noParenthesis : '(' ∉ front)
    (endsWith : ∀ last ∈ inner.getLast?, last ≠ ')') :
    baseAndParameters (front ++ '(' :: (inner ++ [')'])) =
      (Text.trimBlanks front, parameters (Text.trimBlanks inner)) := by
  have noneClosing : inner.reverse.dropWhile (· == ')') = inner.reverse := by
    rw [← List.head?_reverse] at endsWith
    cases isReverse : inner.reverse with
    | nil => rfl
    | cons last others =>
        rw [isReverse] at endsWith
        exact List.dropWhile_cons_of_neg (mt beq_iff_eq.1 (endsWith last rfl))
  rw [baseAndParameters, dropWhile_append_parenthesis noParenthesis]
  simp only [List.reverse_concat, List.dropWhile_cons_of_pos, BEq.rfl, noneClosing,
    List.reverse_reverse]
  rw [← baseOf, baseOf_append_parenthesis noParenthesis]

/-- The kind of a base name with something in parentheses behind it. -/
theorem ofDeclared_of_parameters
    {kind : ColumnKind}
    (isBase : name ∈ baseNames)
    (notUpper : ∀ letter ∈ inner, ¬letter.isUpper = true)
    (endsWith : ∀ last ∈ inner.getLast?, last ≠ ')')
    (isKind : (known (parameters (Text.trimBlanks inner))).lookup name = some kind) :
    ofDeclared (String.ofList (name.toList ++ '(' :: (inner ++ [')']))) = kind := by
  obtain ⟨isTrimmed, noParenthesis⟩ := baseNames_plain name isBase
  have trimmed : Text.trimBlanks (name.toList ++ '(' :: (inner ++ [')'])) =
      name.toList ++ '(' :: (inner ++ [')']) := by
    have startsWith := (Text.isBlank_ends_trimBlanks name.toList).1
    rw [isTrimmed] at startsWith
    rw [← List.cons_append, ← List.append_assoc, Text.trimBlanks_append_singleton (by decide),
      Text.trimFront_append_cons (by decide), Text.trimFront_eq_self startsWith]
  have isLower : (name.toList ++ '(' :: (inner ++ [')'])).map Char.toLower =
      name.toList ++ '(' :: (inner ++ [')']) := by
    have noneUpper : ∀ letter ∈ name.toList ++ '(' :: (inner ++ [')']), ¬letter.isUpper = true := by
      simp only [List.mem_append, List.mem_cons, List.not_mem_nil, or_false]
      rintro letter (inName | rfl | inInner | rfl)
      · exact baseNames_lower name isBase letter inName
      · decide
      · exact notUpper letter inInner
      · decide
    exact map_toLower_eq_self noneUpper
  have strips : Strips (lowered (String.ofList (name.toList ++ '(' :: (inner ++ [')'])))) 0
      (name.toList ++ '(' :: (inner ++ [')'])) := by
    rw [lowered, String.toList_ofList, trimmed, isLower]
    refine .name trimmed fun isSuffix => ?_
    obtain ⟨others, isSplit⟩ := isSuffix
    have lastSame := congrArg List.getLast? isSplit
    rw [← List.cons_append, ← List.append_assoc, List.getLast?_concat] at lastSame
    simp at lastSame
  obtain ⟨kept, isArrays⟩ := ofDeclared_eq strips
  rw [isArrays, known?_eq, baseAndParameters_append noParenthesis endsWith, isTrimmed,
    String.ofList_toList, isKind]
  rfl

end Parentheses

/-! ## Pairs of numbers -/

/-- Two numbers with a comma and blanks between them. -/
def pairOf (first second : Nat) (blanks : List Char) : List Char :=
  Nat.toDigits 10 first ++ ',' :: (blanks ++ Nat.toDigits 10 second)

section Pairs

variable {blanks : List Char} (areBlanks : ∀ blank ∈ blanks, Text.isBlank blank = true)

include areBlanks

theorem not_isUpper_pairOf
    (first second : Nat) :
    ∀ letter ∈ pairOf first second blanks, ¬letter.isUpper = true := by
  simp only [pairOf, List.mem_append, List.mem_cons]
  rintro letter (inFirst | rfl | inBlanks | inSecond)
  · exact Text.not_isUpper_of_isDigit (Text.isDigit_of_mem_toDigits inFirst)
  · decide
  · exact Text.not_isUpper_of_isBlank (areBlanks letter inBlanks)
  · exact Text.not_isUpper_of_isDigit (Text.isDigit_of_mem_toDigits inSecond)

omit areBlanks in
theorem isDigit_ends_pairOf (first second : Nat) (blanks : List Char) :
    (∀ front ∈ (pairOf first second blanks).head?, front.isDigit = true) ∧
      ∀ last ∈ (pairOf first second blanks).getLast?, last.isDigit = true := by
  obtain ⟨digit, digits, isFirst⟩ :=
    List.exists_cons_of_ne_nil (Nat.toDigits_ne_nil : Nat.toDigits 10 first ≠ [])
  have isSecond := List.dropLast_concat_getLast (Nat.toDigits_ne_nil : Nat.toDigits 10 second ≠ [])
  constructor
  · intro front isFront
    rw [pairOf, isFirst, List.cons_append, List.head?_cons, Option.mem_some_iff] at isFront
    have member : digit ∈ Nat.toDigits 10 first := isFirst ▸ List.mem_cons_self
    exact isFront ▸ Text.isDigit_of_mem_toDigits member
  · intro last isLast
    rw [pairOf, ← List.cons_append, ← List.append_assoc, ← isSecond, ← List.append_assoc,
      List.getLast?_concat, Option.mem_some_iff] at isLast
    exact Text.isDigit_of_mem_toDigits (isLast ▸ List.getLast_mem _)

/-- Numbers of more than 32 bits are no parameters, and the ones behind them take their places. -/
theorem parameters_pairOf (first second : Nat) :
    parameters (pairOf first second blanks) = [first, second].filter (· < 2 ^ 32) := by
  have noComma : ',' ∉ Nat.toDigits 10 first :=
    fun member => absurd (Text.isDigit_of_mem_toDigits member) (by decide)
  have noCommaBehind : ',' ∉ blanks ++ Nat.toDigits 10 second := by
    rw [List.mem_append]
    rintro (inBlanks | inDigits)
    · exact absurd (areBlanks _ inBlanks) (by decide)
    · exact absurd (Text.isDigit_of_mem_toDigits inDigits) (by decide)
  have isTrimmed : ∀ value, Text.trimBlanks (Nat.toDigits 10 value) = Nat.toDigits 10 value :=
    fun value => Text.trimBlanks_of_forall fun _ => Text.isBlank_of_mem_toDigits
  have isTrimmedBehind :
      Text.trimBlanks (blanks ++ Nat.toDigits 10 second) = Nat.toDigits 10 second := by
    rw [Text.trimBlanks, Text.trimFront_blanks_append areBlanks, ← Text.trimBlanks, isTrimmed]
  -- The bound is kept as it is in the definition, out of reach of its numeral.
  change _ = [first, second].filter (· < Nat.pow 2 32)
  rw [pairOf, parameters, Text.splitAtChar_append_cons noComma,
    Text.splitAtChar_of_notMem noCommaBehind]
  generalize Nat.pow 2 32 = bound
  by_cases isFirst : first < bound <;> by_cases isSecond : second < bound <;>
    simp [isTrimmed, isTrimmedBehind, Text.natural?_toDigits, isFirst, isSecond]

end Pairs

/-! ## Decimals -/

/-- The text of a decimal with a precision and a scale. -/
def decimalText (name gap : String) (precision scale : Nat) : String :=
  name ++ "(" ++ toString precision ++ "," ++ gap ++ toString scale ++ ")"

section Decimals

variable {name gap : String} {precision scale : Nat}

theorem lookup_known_decimal
    (isDecimal : name = "numeric" ∨ name = "decimal")
    (numbers : List Nat) :
    (known numbers).lookup name =
      some (.decimal (numbers[0]?.bind fitsByte) (numbers[1]?.bind fitsByte)) := by
  rcases isDecimal with rfl | rfl <;> rfl

/-- The kind of a decimal with a precision and a scale. -/
theorem ofDeclared_decimalText
    (isDecimal : name = "numeric" ∨ name = "decimal")
    (areBlanks : ∀ blank ∈ gap.toList, Text.isBlank blank = true) :
    ofDeclared (decimalText name gap precision scale) =
      .decimal
        (([precision, scale].filter (· < 2 ^ 32))[0]?.bind fitsByte)
        (([precision, scale].filter (· < 2 ^ 32))[1]?.bind fitsByte) := by
  have isText : decimalText name gap precision scale =
      String.ofList (name.toList ++ '(' :: (pairOf precision scale gap.toList ++ [')'])) := by
    apply String.toList_injective
    simp [decimalText, pairOf]
  have isBase : name ∈ baseNames := by
    rcases isDecimal with rfl | rfl <;> decide +kernel
  obtain ⟨startsWith, endsWith⟩ := isDigit_ends_pairOf precision scale gap.toList
  have isTrimmed : Text.trimBlanks (pairOf precision scale gap.toList) =
      pairOf precision scale gap.toList :=
    Text.trimBlanks_eq_self (fun first isFirst => Text.isBlank_of_isDigit (startsWith first isFirst))
      fun last isLast => Text.isBlank_of_isDigit (endsWith last isLast)
  rw [isText]
  refine ofDeclared_of_parameters isBase (not_isUpper_pairOf areBlanks precision scale) ?_ ?_
  · rintro last isLast rfl
    exact absurd (endsWith _ isLast) (by decide)
  · rw [isTrimmed, parameters_pairOf areBlanks, lookup_known_decimal isDecimal]

/-- The precision and the scale of a decimal are found at their places if and only if the precision
has 32 bits, or the scale is too large to be taken for it. -/
theorem reads_by_position_iff
    (isDecimal : name = "numeric" ∨ name = "decimal")
    (areBlanks : ∀ blank ∈ gap.toList, Text.isBlank blank = true) :
    ofDeclared (decimalText name gap precision scale) =
        .decimal
          (if precision ≤ 255 then some precision else none)
          (if scale ≤ 255 then some scale else none) ↔
      precision < 2 ^ 32 ∨ 255 < scale := by
  have fits : ∀ value, (if value ≤ 255 then some value else none) = fitsByte value := by
    intro value
    simp only [fitsByte, Nat.lt_succ_iff]
  have fits_none : ∀ value, fitsByte value = none ↔ 255 < value := by
    intro value
    simp [fitsByte]
    omega
  have isLarge : 256 ≤ 2 ^ 32 := by decide
  rw [ofDeclared_decimalText isDecimal areBlanks, fits, fits]
  generalize 2 ^ 32 = bound at *
  by_cases isPrecision : precision < bound
  · by_cases isScale : scale < bound
    · simp [isPrecision, isScale]
    · have noScale := (fits_none scale).2 (by omega)
      simp [isPrecision, isScale, noScale]
  · have noPrecision := (fits_none precision).2 (by omega)
    by_cases isScale : scale < bound
    · -- The scale is the only number, so it is read as the precision.
      have swapped : fitsByte scale = none ∧ none = fitsByte scale ↔ 255 < scale := by
        rw [eq_comm (a := none), and_self, fits_none]
      simpa [isPrecision, isScale, noPrecision] using swapped
    · have noScale := (fits_none scale).2 (by omega)
      have tooLarge : 255 < scale := by omega
      simp [isPrecision, isScale, noPrecision, noScale, tooLarge]

/-- A precision that is too large for a decimal is left out, and the scale is kept. -/
theorem reads_by_position_large_precision :
    (∀ blank ∈ " ".toList, Text.isBlank blank = true) ∧
      ofDeclared (decimalText "decimal" " " 300 4) = .decimal none (some 4) := by
  have areBlanks : ∀ blank ∈ " ".toList, Text.isBlank blank = true := List.all_eq_true.1 rfl
  exact ⟨areBlanks, (reads_by_position_iff (.inr rfl) areBlanks).2 (.inl (by decide))⟩

/-- A precision that is too large for 32 bits is replaced by the scale. -/
theorem not_reads_by_position :
    ofDeclared (decimalText "numeric" "" 5000000000 4) = .decimal (some 4) none ∧
      ofDeclared (decimalText "numeric" "" 5000000000 4) ≠ .decimal none (some 4) := by
  have isRead : ofDeclared (decimalText "numeric" "" 5000000000 4) = .decimal (some 4) none := by
    decide +kernel
  exact ⟨isRead, by rw [isRead]; decide⟩

end Decimals

end ColumnKind
end RelationalApi
