import Mathlib.Data.List.TakeWhile
import RelationalApi.Proofs.Text.Digits
import RelationalApi.Scalar.Codec

/-!
# Storage names

A storage name is a base name, which may be followed by a list of numbers in parentheses, and by
pairs of brackets.  All names of this grammar are recognized.  So is everything else that has a base
name in front of its first parenthesis: what stands behind it is searched for numbers and otherwise
not looked at.
-/

namespace RelationalApi
namespace ColumnKind

/-- The kind inside all arrays. -/
def element : ColumnKind -> ColumnKind
  | array inner => inner.element
  | kind => kind

/-- The names that stand for kinds, without parameters and brackets. -/
def baseNames : List String :=
  (known []).map (·.1)

/-! ## The grammar -/

/-- A decimal number with blanks around it. -/
def IsNumber (part : List Char) : Prop :=
  ∃ before digits after, part = before ++ digits ++ after ∧
    (∀ blank ∈ before, Text.isBlank blank = true) ∧
    digits ≠ [] ∧ (∀ digit ∈ digits, digit.isDigit = true) ∧
    ∀ blank ∈ after, Text.isBlank blank = true

/-- Decimal numbers, one or more, with commas between them. -/
inductive AreNumbers : List Char -> Prop
  | one {part : List Char} (isNumber : IsNumber part) : AreNumbers part
  | more
      {part rest : List Char}
      (isNumber : IsNumber part)
      (areNumbers : AreNumbers rest) :
      AreNumbers (part ++ ',' :: rest)

/-- A base name, or one with numbers in parentheses behind it. -/
inductive IsStorageName : List Char -> Prop
  | plain
      {name : List Char}
      (isBase : String.ofList name ∈ baseNames) :
      IsStorageName name
  | withNumbers
      {name blanks numbers : List Char}
      (isBase : String.ofList name ∈ baseNames)
      (areBlanks : ∀ blank ∈ blanks, Text.isBlank blank = true)
      (areNumbers : AreNumbers numbers) :
      IsStorageName (name ++ blanks ++ '(' :: (numbers ++ [')']))

/-- Taking off the blanks at the ends of characters and then a pair of brackets, as long as there is
one, leaves a name and counts the pairs. -/
inductive Strips : List Char -> Nat -> List Char -> Prop
  | name
      {characters name : List Char}
      (trimmed : Text.trimBlanks characters = name)
      (noBrackets : ¬['[', ']'] <:+ name) :
      Strips characters 0 name
  | brackets
      {characters inner name : List Char}
      {dimensions : Nat}
      (trimmed : Text.trimBlanks characters = inner ++ ['[', ']'])
      (strips : Strips inner dimensions name) :
      Strips characters (dimensions + 1) name

/-- A declared text without blanks at its ends and in lower case. -/
def lowered (declared : String) : List Char :=
  (Text.trimBlanks declared.toList).map Char.toLower

/-! ## Brackets -/

section Brackets

variable {characters other name : List Char} {dimensions : Nat}

/-- Blanks at the ends make no difference. -/
theorem Strips.congr
    (same : Text.trimBlanks characters = Text.trimBlanks other)
    (strips : Strips characters dimensions name) :
    Strips other dimensions name := by
  cases strips with
  | name trimmed noBrackets => exact .name (same ▸ trimmed) noBrackets
  | brackets trimmed strips => exact .brackets (same ▸ trimmed) strips

theorem Strips.unique
    {otherDimensions : Nat}
    {otherName : List Char}
    (strips : Strips characters dimensions name)
    (otherStrips : Strips characters otherDimensions otherName) :
    dimensions = otherDimensions ∧ name = otherName := by
  induction strips generalizing otherDimensions with
  | name trimmed noBrackets =>
      cases otherStrips with
      | name otherTrimmed _ => exact ⟨rfl, trimmed.symm.trans otherTrimmed⟩
      | brackets otherTrimmed _ =>
          exact absurd ⟨_, otherTrimmed.symm.trans trimmed⟩ noBrackets
  | brackets trimmed _ inductionHypothesis =>
      cases otherStrips with
      | name otherTrimmed noBrackets =>
          exact absurd ⟨_, trimmed.symm.trans otherTrimmed⟩ noBrackets
      | brackets otherTrimmed otherStrips =>
          obtain rfl := List.append_cancel_right (trimmed.symm.trans otherTrimmed)
          obtain ⟨rfl, rfl⟩ := inductionHypothesis otherStrips
          exact ⟨rfl, rfl⟩

theorem Strips.trimmed (strips : Strips characters dimensions name) :
    Text.trimBlanks name = name := by
  induction strips with
  | name trimmed _ => rw [← trimmed, Text.trimBlanks_trimBlanks]
  | brackets _ _ inductionHypothesis => exact inductionHypothesis

/-- Brackets are found from the end of a text, where its reverse starts. -/
theorem strips_peelBrackets (reversed : List Char) :
    Strips reversed.reverse (peelBrackets reversed).1
      (Text.trimFront (peelBrackets reversed).2.reverse) := by
  fun_induction peelBrackets reversed with
  | case1 rest count name peeled inductionHypothesis =>
      rw [peeled] at inductionHypothesis
      have trimmed : Text.trimBlanks ((']' :: '[' :: rest).reverse) =
          Text.trimFront rest.reverse ++ ['[', ']'] := by
        rw [List.reverse_cons, Text.trimBlanks_append_singleton (by decide), List.reverse_cons,
          Text.trimFront_append_cons (by decide), List.append_assoc]
        rfl
      exact .brackets trimmed
        (inductionHypothesis.congr (Text.trimBlanks_trimFront rest.reverse).symm)
  | case2 character rest notBrackets blank inductionHypothesis =>
      rw [List.reverse_cons]
      exact inductionHypothesis.congr (Text.trimBlanks_append_blanks (by simpa using blank) _).symm
  | case3 character rest notBrackets notBlank =>
      rw [Bool.not_eq_true] at notBlank
      have trimmed : Text.trimBlanks (character :: rest).reverse =
          Text.trimFront (character :: rest).reverse := by
        rw [List.reverse_cons, Text.trimBlanks_append_singleton notBlank,
          Text.trimFront_append_cons notBlank]
      refine .name trimmed fun isSuffix => ?_
      -- A name that ends with brackets would have been peeled by the first case.
      have startsReversed : [']', '['] <+: character :: rest :=
        List.reverse_suffix.1 (isSuffix.trans (List.dropWhile_suffix Text.isBlank))
      obtain ⟨others, same⟩ := startsReversed
      cases same
      exact notBrackets others rfl rfl
  | case4 => exact .name rfl (by decide)

end Brackets

/-! ## Names that are recognized -/

section Recognized

variable {name : List Char} {dimensions : Nat} {declared : String}

/-- What stands in front of the first parenthesis, without the blanks at its ends. -/
def baseOf (name : List Char) : List Char :=
  Text.trimBlanks (name.takeWhile (· != '('))

theorem map_fst_known (parameters : List Nat) : (known parameters).map (·.1) = baseNames := rfl

theorem fst_baseAndParameters (trimmed : Text.trimBlanks name = name) :
    (baseAndParameters name).1 = baseOf name := by
  rw [baseAndParameters]
  split
  · rename_i noParenthesis
    have isWhole := List.takeWhile_append_dropWhile (p := (· != '(')) (l := name)
    rw [noParenthesis, List.append_nil] at isWhole
    rw [baseOf, isWhole, trimmed]
  · rfl

theorem known?_eq (name : List Char) :
    known? name =
      (known (baseAndParameters name).2).lookup (String.ofList (baseAndParameters name).1) := rfl

/-- A name is known by what stands in front of its first parenthesis. -/
theorem isSome_known?_iff (trimmed : Text.trimBlanks name = name) :
    (known? name).isSome = true ↔ String.ofList (baseOf name) ∈ baseNames := by
  rw [← fst_baseAndParameters trimmed, ← map_fst_known (baseAndParameters name).2,
    known?_eq, List.lookup_isSome_iff, List.mem_map]
  simp only [beq_iff_eq, eq_comm (a := String.ofList _)]

theorem mem_known_of_known? {kind : ColumnKind} (found : known? name = some kind) :
    (String.ofList (baseAndParameters name).1, kind) ∈ known (baseAndParameters name).2 := by
  rw [known?_eq] at found
  obtain ⟨front, back, isSplit, _⟩ := List.lookup_eq_some_iff.1 found
  rw [isSplit]
  exact List.mem_append_right _ List.mem_cons_self

theorem element_of_mem_known
    (parameters : List Nat) :
    ∀ entry ∈ known parameters, ∀ other, entry.2.element ≠ .custom other := by
  simp [known, element]

theorem element_arrays (kind : ColumnKind) (dimensions : Nat) :
    (arrays kind dimensions).element = kind.element := by
  induction dimensions with
  | zero => rfl
  | succ dimensions inductionHypothesis => exact inductionHypothesis

/-- The kind of a declared text, in terms of its name without brackets. -/
theorem ofDeclared_eq (strips : Strips (lowered declared) dimensions name) :
    ∃ kept, ofDeclared declared = arrays ((known? name).getD (custom kept)) dimensions := by
  have peels := strips_peelBrackets (lowered declared).reverse
  rw [List.reverse_reverse] at peels
  obtain ⟨rfl, rfl⟩ := strips.unique peels
  exact ⟨_, rfl⟩

/-- A text is recognized if it has a base name in front of its first parenthesis. -/
theorem recognized_iff (strips : Strips (lowered declared) dimensions name) :
    (∀ other, (ofDeclared declared).element ≠ .custom other) ↔
      String.ofList (baseOf name) ∈ baseNames := by
  obtain ⟨kept, isKind⟩ := ofDeclared_eq strips
  rw [← isSome_known?_iff strips.trimmed, isKind, element_arrays]
  cases found : known? name with
  | none => simp [element]
  | some kind =>
      exact iff_of_true (element_of_mem_known _ _ (mem_known_of_known? found)) rfl

/-- Arrays of what is not recognized have no codec. -/
theorem ofKind_arrays_custom (table column other : String) (dimensions : Nat) :
    Codec.ofKind table column (arrays (custom other) dimensions) =
      .error (.unsupportedColumnKind table column other) := by
  induction dimensions with
  | zero => rfl
  | succ dimensions inductionHypothesis =>
      rw [arrays, Codec.ofKind, inductionHypothesis]
      rfl

/-- A text that is not recognized has no codec. -/
theorem ofKind_of_notBase
    (strips : Strips (lowered declared) dimensions name)
    (notBase : String.ofList (baseOf name) ∉ baseNames)
    (table column : String) :
    ∃ other, Codec.ofKind table column (ofDeclared declared) =
      .error (.unsupportedColumnKind table column other) := by
  obtain ⟨kept, isKind⟩ := ofDeclared_eq strips
  rw [← isSome_known?_iff strips.trimmed, Option.not_isSome_iff_eq_none] at notBase
  rw [isKind, notBase, Option.getD_none]
  exact ⟨kept, ofKind_arrays_custom table column kept dimensions⟩

end Recognized

/-! ## Names of the grammar -/

section Grammar

variable {name front rest : List Char}

/-- Base names have neither blanks at their ends nor parentheses. -/
theorem baseNames_plain :
    ∀ name ∈ baseNames, Text.trimBlanks name.toList = name.toList ∧ '(' ∉ name.toList := by
  decide +kernel

theorem passes_of_noParenthesis (noParenthesis : '(' ∉ front) :
    ∀ character ∈ front, (character != '(') = true := by
  intro character member
  exact bne_iff_ne.2 fun same => noParenthesis (same ▸ member)

theorem noParenthesis_of_blanks
    {blanks : List Char}
    (noParenthesis : '(' ∉ front)
    (areBlanks : ∀ blank ∈ blanks, Text.isBlank blank = true) :
    '(' ∉ front ++ blanks := by
  rw [List.mem_append]
  rintro (inFront | inBlanks)
  · exact noParenthesis inFront
  · exact absurd (areBlanks _ inBlanks) (by decide)

theorem dropWhile_append_parenthesis (noParenthesis : '(' ∉ front) (rest : List Char) :
    (front ++ '(' :: rest).dropWhile (· != '(') = '(' :: rest := by
  rw [List.dropWhile_append_of_pos (passes_of_noParenthesis noParenthesis),
    List.dropWhile_cons_of_neg (by decide)]

theorem baseOf_append_parenthesis (noParenthesis : '(' ∉ front) (rest : List Char) :
    baseOf (front ++ '(' :: rest) = Text.trimBlanks front := by
  rw [baseOf, List.takeWhile_append_of_pos (passes_of_noParenthesis noParenthesis),
    List.takeWhile_cons_of_neg (by decide), List.append_nil]

theorem baseOf_of_noParenthesis (noParenthesis : '(' ∉ name) :
    baseOf name = Text.trimBlanks name := by
  rw [baseOf, List.takeWhile_eq_self_iff.2 (passes_of_noParenthesis noParenthesis)]

/-- Names of the grammar have a base name in front of the first parenthesis. -/
theorem IsStorageName.baseOf_mem (isName : IsStorageName name) :
    String.ofList (baseOf name) ∈ baseNames := by
  cases isName with
  | plain isBase =>
      have plain := baseNames_plain _ isBase
      rw [String.toList_ofList] at plain
      rw [baseOf_of_noParenthesis plain.2, plain.1]
      exact isBase
  | @withNumbers base blanks numbers isBase areBlanks areNumbers =>
      have plain := baseNames_plain _ isBase
      rw [String.toList_ofList] at plain
      rw [baseOf_append_parenthesis (noParenthesis_of_blanks plain.2 areBlanks),
        Text.trimBlanks_append_blanks areBlanks, plain.1]
      exact isBase

/-- What stands behind the first parenthesis of a name of the grammar. -/
theorem IsStorageName.exists_numbers
    (isName : IsStorageName (front ++ '(' :: rest))
    (noParenthesis : '(' ∉ front) :
    ∃ numbers, rest = numbers ++ [')'] ∧ AreNumbers numbers := by
  generalize isSplit : front ++ '(' :: rest = name at isName
  cases isName with
  | plain isBase =>
      have plain := baseNames_plain _ isBase
      rw [String.toList_ofList, ← isSplit] at plain
      exact absurd (List.mem_append_right _ List.mem_cons_self) plain.2
  | @withNumbers base blanks numbers isBase areBlanks areNumbers =>
      have plain := baseNames_plain _ isBase
      rw [String.toList_ofList] at plain
      have sameRest := congrArg (List.dropWhile (· != '(')) isSplit
      rw [dropWhile_append_parenthesis noParenthesis,
        dropWhile_append_parenthesis (noParenthesis_of_blanks plain.2 areBlanks)] at sameRest
      exact ⟨numbers, List.tail_eq_of_cons_eq sameRest, areNumbers⟩

/-- A trimmed name with a base name in front of its first parenthesis, and with numbers and a
closing parenthesis behind it, is one of the grammar. -/
theorem isStorageName_of_numbers
    {numbers : List Char}
    (trimmed : Text.trimBlanks (front ++ '(' :: (numbers ++ [')'])) =
      front ++ '(' :: (numbers ++ [')']))
    (isBase : String.ofList (Text.trimBlanks front) ∈ baseNames)
    (areNumbers : AreNumbers numbers) :
    IsStorageName (front ++ '(' :: (numbers ++ [')'])) := by
  -- The name is trimmed, so only blanks in front of the parenthesis are left to take off.
  have startsWith : ∀ first ∈ front.head?, Text.isBlank first = false := by
    intro first isFirst
    have ends := (Text.isBlank_ends_trimBlanks (front ++ '(' :: (numbers ++ [')']))).1 first
    rw [trimmed, List.head?_append, Option.mem_def.1 isFirst] at ends
    exact ends rfl
  rw [Text.trimBlanks, Text.trimFront_eq_self startsWith] at isBase
  obtain ⟨blanks, areBlanks, isSplit⟩ := Text.exists_blanks_of_trimBack front
  rw [isSplit]
  exact .withNumbers isBase areBlanks areNumbers

/-- A trimmed name with a base name in front of its first parenthesis is one of the grammar, unless
something else than numbers and a closing parenthesis stands behind it. -/
theorem isStorageName_iff
    (trimmed : Text.trimBlanks name = name)
    (isBase : String.ofList (baseOf name) ∈ baseNames) :
    IsStorageName name ↔
      ∀ front rest, name = front ++ '(' :: rest -> '(' ∉ front ->
        ∃ numbers, rest = numbers ++ [')'] ∧ AreNumbers numbers := by
  constructor
  · rintro isName front rest rfl noParenthesis
    exact isName.exists_numbers noParenthesis
  · intro behindFirst
    by_cases isMember : '(' ∈ name
    · obtain ⟨front, rest, rfl, noParenthesis⟩ := List.eq_append_cons_of_mem isMember
      obtain ⟨numbers, rfl, areNumbers⟩ := behindFirst front rest rfl noParenthesis
      rw [baseOf_append_parenthesis noParenthesis] at isBase
      exact isStorageName_of_numbers trimmed isBase areNumbers
    · rw [baseOf_of_noParenthesis isMember, trimmed] at isBase
      exact .plain isBase

end Grammar

/-! ## The recognized texts -/

section ReadsExactly

variable {declared : String}

/-- A text is a name of the grammar with pairs of brackets behind it. -/
def DeclaresKnown (declared : String) : Prop :=
  ∃ dimensions name, Strips (lowered declared) dimensions name ∧ IsStorageName name

/-- A text with a base name in front of its first parenthesis, and with something else behind it
than numbers and a closing parenthesis. -/
def IgnoresRest (declared : String) : Prop :=
  ∃ dimensions front rest, Strips (lowered declared) dimensions (front ++ '(' :: rest) ∧
    '(' ∉ front ∧ String.ofList (Text.trimBlanks front) ∈ baseNames ∧
    ∀ numbers, rest = numbers ++ [')'] -> ¬AreNumbers numbers

/-- A text is recognized if and only if it is one of the grammar, and all others are refused for
whatever column they are declared. -/
structure ReadsExactly (declared : String) : Prop where
  known_iff :
    (∀ other, (ofDeclared declared).element ≠ .custom other) ↔ DeclaresKnown declared
  refused : ¬DeclaresKnown declared ->
    ∀ table column, ∃ other, Codec.ofKind table column (ofDeclared declared) =
      .error (.unsupportedColumnKind table column other)

variable {dimensions : Nat} {name : List Char}

theorem declaresKnown_iff (strips : Strips (lowered declared) dimensions name) :
    DeclaresKnown declared ↔ IsStorageName name := by
  constructor
  · rintro ⟨otherDimensions, otherName, otherStrips, isName⟩
    rwa [(strips.unique otherStrips).2]
  · exact fun isName => ⟨dimensions, name, strips, isName⟩

theorem ignoresRest_iff (strips : Strips (lowered declared) dimensions name) :
    IgnoresRest declared ↔
      String.ofList (baseOf name) ∈ baseNames ∧ ¬IsStorageName name := by
  constructor
  · rintro ⟨otherDimensions, front, rest, otherStrips, noParenthesis, isBase, noNumbers⟩
    obtain ⟨-, rfl⟩ := strips.unique otherStrips
    rw [baseOf_append_parenthesis noParenthesis]
    refine ⟨isBase, fun isName => ?_⟩
    obtain ⟨numbers, isSplit, areNumbers⟩ := isName.exists_numbers noParenthesis
    exact noNumbers numbers isSplit areNumbers
  · rintro ⟨isBase, notName⟩
    rw [isStorageName_iff strips.trimmed isBase] at notName
    push Not at notName
    obtain ⟨front, rest, rfl, noParenthesis, noNumbers⟩ := notName
    rw [baseOf_append_parenthesis noParenthesis] at isBase
    exact ⟨dimensions, front, rest, strips, noParenthesis, isBase, noNumbers⟩

/-- The grammar is read exactly, except for texts with a base name in front of a parenthesis and
with something else than numbers behind it: they are taken for their base name. -/
theorem readsExactly_iff (declared : String) :
    ReadsExactly declared ↔ ¬IgnoresRest declared := by
  have strips := strips_peelBrackets (lowered declared).reverse
  rw [List.reverse_reverse] at strips
  rw [ignoresRest_iff strips, not_and_not_right]
  constructor
  · intro readsExactly isBase
    exact (declaresKnown_iff strips).1
      (readsExactly.known_iff.1 ((recognized_iff strips).2 isBase))
  · intro isNameOfBase
    have declares_iff := (declaresKnown_iff strips).trans
      ⟨IsStorageName.baseOf_mem, isNameOfBase⟩
    exact {
      known_iff := (recognized_iff strips).trans declares_iff.symm
      refused := fun notKnown =>
        ofKind_of_notBase strips fun isBase => notKnown (declares_iff.2 isBase) }

/-- A column of unsigned integers with a display width is taken for one of signed integers. -/
theorem not_readsExactly_unsigned :
    ofDeclared "bigint(20) unsigned" = .integer 64 false ∧
      ¬ReadsExactly "bigint(20) unsigned" := by
  refine ⟨rfl, fun readsExactly => ?_⟩
  have strips : Strips (lowered "bigint(20) unsigned") 0
      ("bigint".toList ++ '(' :: "20) unsigned".toList) := .name rfl (by decide)
  have isRecognized : ∀ other, (ofDeclared "bigint(20) unsigned").element ≠ .custom other :=
    fun _ => ColumnKind.noConfusion
  have isName := (declaresKnown_iff strips).1 (readsExactly.known_iff.1 isRecognized)
  obtain ⟨numbers, isSplit, _⟩ := isName.exists_numbers (by decide)
  have lastSame := congrArg List.getLast? isSplit
  rw [List.getLast?_concat] at lastSame
  exact absurd lastSame (by decide)

end ReadsExactly

end ColumnKind
end RelationalApi
