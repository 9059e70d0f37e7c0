import Mathlib.Algebra.Group.Nat.Defs
import Mathlib.Data.List.Induction
import RelationalApi.Text.Blank
import RelationalApi.Text.Digits

/-!
# Digits and blanks

The decimal digits of a number denote it, with any number of zeros in front of them.  No digit is
blank.  Taking the blanks off the ends of a text leaves a text that neither starts nor ends with a
blank, and such a text is left as it is.
-/

namespace RelationalApi
namespace Text

variable {digits rest characters blanks : List Char} {character : Char}

/-! ## Digits -/

theorem digitsValue_eq_ofDigitChars (digits : List Char) :
    digitsValue digits = Nat.ofDigitChars 10 digits 0 := by
  have sameStep :
      (fun (total : Nat) (digit : Char) => total * 10 + (digit.toNat - '0'.toNat)) =
        fun total digit => 10 * total + (digit.toNat - '0'.toNat) := by
    funext total digit
    rw [Nat.mul_comm]
  rw [digitsValue, sameStep]
  rfl

theorem digitsValue_toDigits (value : Nat) : digitsValue (Nat.toDigits 10 value) = value := by
  rw [digitsValue_eq_ofDigitChars]
  exact Nat.ofDigitChars_ten_toDigits

/-- Digits in front count as often as the power of ten with a zero for each digit behind them. -/
theorem digitsValue_append (digits rest : List Char) :
    digitsValue (digits ++ rest) = digitsValue digits * 10 ^ rest.length + digitsValue rest := by
  induction rest using List.reverseRecOn with
  | nil => simp [digitsValue]
  | append_singleton rest digit inductionHypothesis =>
      have lastDigit : ∀ front : List Char, digitsValue (front ++ [digit]) =
          digitsValue front * 10 + (digit.toNat - '0'.toNat) := by
        intro front
        rw [digitsValue, List.foldl_append]
        rfl
      rw [← List.append_assoc, lastDigit, lastDigit, inductionHypothesis, List.length_append,
        List.length_singleton, Nat.pow_succ, Nat.add_mul, Nat.mul_assoc, Nat.add_assoc]

theorem digitsValue_cons (digit : Char) (digits : List Char) :
    digitsValue (digit :: digits) =
      (digit.toNat - '0'.toNat) * 10 ^ digits.length + digitsValue digits := by
  have front : digitsValue [digit] = digit.toNat - '0'.toNat := by
    rw [digitsValue, List.foldl_cons, List.foldl_nil, Nat.zero_mul, Nat.zero_add]
  rw [← List.singleton_append, digitsValue_append, front]

/-- Zeros in front do not change what digits denote. -/
theorem digitsValue_replicate_zero (count : Nat) (digits : List Char) :
    digitsValue (List.replicate count '0' ++ digits) = digitsValue digits := by
  rw [digitsValue, List.foldl_append]
  induction count with
  | zero => rfl
  | succ count inductionHypothesis => exact inductionHypothesis

theorem digitValue_lt (isDigit : character.isDigit = true) :
    character.toNat - '0'.toNat < 10 := by
  rw [Char.isDigit, Bool.and_eq_true, decide_eq_true_iff, decide_eq_true_iff] at isDigit
  have most : character.toNat ≤ 57 := isDigit.2
  change character.toNat - 48 < 10
  omega

/-- Digits are ordered as their values. -/
theorem digitValue_lt_and_eq_iff
    {first second : Char}
    (isDigit : first.isDigit = true)
    (otherIsDigit : second.isDigit = true) :
    (first < second ↔ first.toNat - '0'.toNat < second.toNat - '0'.toNat) ∧
      (first = second ↔ first.toNat - '0'.toNat = second.toNat - '0'.toNat) := by
  rw [Char.isDigit, Bool.and_eq_true, decide_eq_true_iff, decide_eq_true_iff]
    at isDigit otherIsDigit
  have least : 48 ≤ first.toNat := isDigit.1
  have otherLeast : 48 ≤ second.toNat := otherIsDigit.1
  have isLess : first < second ↔ first.toNat < second.toNat := Iff.rfl
  have isSame : first = second ↔ first.toNat = second.toNat := Char.toNat_inj.symm
  rw [isLess, isSame]
  change (_ ↔ first.toNat - 48 < second.toNat - 48) ∧ (_ ↔ first.toNat - 48 = second.toNat - 48)
  omega

/-- Some digits denote less than the power of ten with as many zeros. -/
theorem digitsValue_lt (areDigits : digits.all Char.isDigit = true) :
    digitsValue digits < 10 ^ digits.length := by
  induction digits using List.reverseRecOn with
  | nil => exact Nat.one_pos
  | append_singleton digits digit inductionHypothesis =>
      rw [List.all_append, Bool.and_eq_true, List.all_cons, Bool.and_eq_true] at areDigits
      have last := digitValue_lt areDigits.2.1
      have others := inductionHypothesis areDigits.1
      rw [digitsValue, List.foldl_append, List.length_append, List.length_singleton,
        Nat.pow_succ]
      change digitsValue digits * 10 + (digit.toNat - '0'.toNat) < _
      omega

theorem isDigit_of_mem_toDigits {value : Nat} (member : character ∈ Nat.toDigits 10 value) :
    character.isDigit = true :=
  Nat.isDigit_of_mem_toDigits (by decide) (by decide) member

theorem all_isDigit_toDigits (value : Nat) : (Nat.toDigits 10 value).all Char.isDigit = true :=
  List.all_eq_true.2 fun _ => isDigit_of_mem_toDigits

theorem digits?_toDigits (value : Nat) : digits? (Nat.toDigits 10 value) = some value := by
  have notEmpty : (Nat.toDigits 10 value).isEmpty = false := by
    rw [List.isEmpty_eq_false_iff]
    exact Nat.toDigits_ne_nil
  rw [digits?, notEmpty, all_isDigit_toDigits, digitsValue_toDigits]
  rfl

theorem natural?_toDigits (value : Nat) : natural? (Nat.toDigits 10 value) = some value := by
  have areDigits := List.all_eq_true.1 (all_isDigit_toDigits value)
  have denotes := digits?_toDigits value
  generalize Nat.toDigits 10 value = digits at areDigits denotes
  rw [natural?.eq_def]
  split
  · exact absurd (areDigits '+' List.mem_cons_self) (by decide)
  · exact denotes

theorem integer?_toDigits (value : Nat) :
    integer? (Nat.toDigits 10 value) = some (value : Int) := by
  have areDigits := List.all_eq_true.1 (all_isDigit_toDigits value)
  have denotes := natural?_toDigits value
  generalize Nat.toDigits 10 value = digits at areDigits denotes
  rw [integer?.eq_def]
  split
  · exact absurd (areDigits '-' List.mem_cons_self) (by decide)
  · rw [denotes]
    rfl

/-- The characters of an integer. -/
theorem toList_toString (value : Int) :
    (toString value).toList =
      if value < 0 then '-' :: Nat.toDigits 10 value.natAbs else Nat.toDigits 10 value.natAbs := by
  rw [Int.toString_eq_repr]
  cases value with
  | ofNat value =>
      have notNegative : ¬Int.ofNat value < 0 := Int.not_lt.2 (Int.natCast_nonneg value)
      rw [Int.repr, Nat.repr_eq_ofList_toDigits, String.toList_ofList, if_neg notNegative]
      rfl
  | negSucc value =>
      rw [Int.repr, Nat.repr_eq_ofList_toDigits, String.toList_append,
        @String.toList_ofList (Nat.toDigits 10 value.succ), if_pos (Int.negSucc_lt_zero value)]
      rfl

/-- The text of an integer denotes it. -/
theorem integer?_toString (value : Int) : integer? (toString value).toList = some value := by
  rw [toList_toString]
  split
  · change (digits? (Nat.toDigits 10 value.natAbs)).map (fun value => -(value : Int)) = _
    rw [digits?_toDigits]
    change some (-(value.natAbs : Int)) = some value
    rw [Option.some.injEq]
    omega
  · rw [integer?_toDigits, Option.some.injEq]
    omega

theorem isUpper_iff : character.isUpper = true ↔ 65 ≤ character.toNat ∧ character.toNat ≤ 90 :=
  decide_eq_true_iff

/-- Digits are no capital letters. -/
theorem not_isUpper_of_isDigit (isDigit : character.isDigit = true) :
    ¬character.isUpper = true := by
  intro isUpper
  rw [Char.isDigit, Bool.and_eq_true, decide_eq_true_iff, decide_eq_true_iff] at isDigit
  have least : 65 ≤ character.toNat := (isUpper_iff.1 isUpper).1
  have most : character.toNat ≤ 57 := isDigit.2
  omega

/-! ## Blanks -/

/-- The visible characters of ASCII are not blank. -/
theorem isBlank_of_isVisible (least : 33 ≤ character.toNat) (most : character.toNat ≤ 126) :
    isBlank character = false := by
  simp only [isBlank, inRuns, blankRuns, Run.contains, List.any_cons, List.any_nil,
    Bool.or_eq_false_iff, Bool.and_eq_false_iff, decide_eq_false_iff_not, and_true]
  omega

theorem isBlank_of_isDigit (isDigit : character.isDigit = true) : isBlank character = false := by
  rw [Char.isDigit, Bool.and_eq_true, decide_eq_true_iff, decide_eq_true_iff] at isDigit
  have least : 48 ≤ character.toNat := isDigit.1
  have most : character.toNat ≤ 57 := isDigit.2
  exact isBlank_of_isVisible (by omega) (by omega)

theorem isBlank_of_mem_toDigits {value : Nat} (member : character ∈ Nat.toDigits 10 value) :
    isBlank character = false :=
  isBlank_of_isDigit (isDigit_of_mem_toDigits member)

/-- Blanks are no capital letters. -/
theorem not_isUpper_of_isBlank (blank : isBlank character = true) : ¬character.isUpper = true := by
  intro isUpper
  obtain ⟨least, most⟩ := isUpper_iff.1 isUpper
  rw [isBlank_of_isVisible (by omega) (by omega)] at blank
  exact Bool.false_ne_true blank

theorem trimFront_cons (notBlank : isBlank character = false) (rest : List Char) :
    trimFront (character :: rest) = character :: rest := by
  rw [trimFront, List.dropWhile_cons, notBlank]
  rfl

/-- What is left without the blanks in front does not start with one. -/
theorem isBlank_head?_trimFront
    (characters : List Char) :
    ∀ first ∈ (trimFront characters).head?, isBlank first = false := by
  intro first isFirst
  have notDropped := List.head?_dropWhile_not isBlank characters
  rw [← trimFront, Option.mem_def.1 isFirst] at notDropped
  exact notDropped

/-- What does not start with a blank has none in front. -/
theorem trimFront_eq_self
    (startsWith : ∀ first ∈ characters.head?, isBlank first = false) :
    trimFront characters = characters := by
  cases characters with
  | nil => rfl
  | cons first rest => exact trimFront_cons (startsWith first rfl) rest

theorem trimBack_eq_self
    (endsWith : ∀ last ∈ characters.getLast?, isBlank last = false) :
    trimBack characters = characters := by
  have reversed := @trimFront_eq_self characters.reverse (by rwa [List.head?_reverse])
  rw [trimBack, ← trimFront, reversed, List.reverse_reverse]

/-- What neither starts nor ends with a blank is left as it is. -/
theorem trimBlanks_eq_self
    (startsWith : ∀ first ∈ characters.head?, isBlank first = false)
    (endsWith : ∀ last ∈ characters.getLast?, isBlank last = false) :
    trimBlanks characters = characters := by
  rw [trimBlanks, trimFront_eq_self startsWith, trimBack_eq_self endsWith]

/-- What is left without blanks neither starts nor ends with one. -/
theorem isBlank_ends_trimBlanks (characters : List Char) :
    (∀ first ∈ (trimBlanks characters).head?, isBlank first = false) ∧
      ∀ last ∈ (trimBlanks characters).getLast?, isBlank last = false := by
  constructor
  · intro first isFirst
    have kept : trimBlanks characters <+: trimFront characters := by
      rw [← List.reverse_suffix, trimBlanks, trimBack, List.reverse_reverse]
      exact List.dropWhile_suffix isBlank
    obtain ⟨rest, isSplit⟩ := kept
    refine isBlank_head?_trimFront characters first ?_
    rw [← isSplit, List.head?_append, Option.mem_def.1 isFirst]
    rfl
  · intro last isLast
    rw [trimBlanks, trimBack, List.getLast?_reverse] at isLast
    exact isBlank_head?_trimFront (trimFront characters).reverse last isLast

theorem trimBlanks_trimBlanks (characters : List Char) :
    trimBlanks (trimBlanks characters) = trimBlanks characters :=
  trimBlanks_eq_self (isBlank_ends_trimBlanks characters).1 (isBlank_ends_trimBlanks characters).2

theorem trimBlanks_trimFront (characters : List Char) :
    trimBlanks (trimFront characters) = trimBlanks characters := by
  rw [trimBlanks, trimFront_eq_self (isBlank_head?_trimFront characters), trimBlanks]

theorem trimFront_blanks_append
    (areBlanks : ∀ blank ∈ blanks, isBlank blank = true)
    (characters : List Char) :
    trimFront (blanks ++ characters) = trimFront characters :=
  List.dropWhile_append_of_pos areBlanks

/-- Blanks in front of a character that is none are all that is taken off the front. -/
theorem trimFront_append_cons
    (notBlank : isBlank character = false)
    (characters rest : List Char) :
    trimFront (characters ++ character :: rest) = trimFront characters ++ character :: rest := by
  rw [trimFront, List.dropWhile_append, ← trimFront, ← trimFront, trimFront_cons notBlank]
  split
  · rename_i isEmpty
    rw [List.isEmpty_iff.1 isEmpty, List.nil_append]
  · rfl

/-- Blanks behind a text are taken off. -/
theorem trimBlanks_append_blanks
    (areBlanks : ∀ blank ∈ blanks, isBlank blank = true)
    (characters : List Char) :
    trimBlanks (characters ++ blanks) = trimBlanks characters := by
  have noneLeft : trimFront blanks = [] := by
    rw [← List.append_nil blanks, trimFront_blanks_append areBlanks, trimFront_nil]
  have areReversed : ∀ blank ∈ blanks.reverse, isBlank blank = true :=
    fun blank member => areBlanks blank (List.mem_reverse.1 member)
  rw [trimBlanks, trimFront, List.dropWhile_append, ← trimFront, ← trimFront, noneLeft]
  split
  · rename_i isEmpty
    rw [trimBlanks, List.isEmpty_iff.1 isEmpty]
  · rw [trimBack, List.reverse_append, List.dropWhile_append_of_pos areReversed, trimBlanks,
      trimBack]

/-- What ends with something else than a blank has blanks taken off its front alone. -/
theorem trimBlanks_append_singleton
    (notBlank : isBlank character = false)
    (characters : List Char) :
    trimBlanks (characters ++ [character]) = trimFront characters ++ [character] := by
  rw [trimBlanks, trimFront_append_cons notBlank, trimBack_eq_self]
  intro last isLast
  rw [List.getLast?_concat, Option.mem_some_iff] at isLast
  exact isLast ▸ notBlank

/-- Blanks are what is taken off behind a text. -/
theorem exists_blanks_of_trimBack (characters : List Char) :
    ∃ blanks, (∀ blank ∈ blanks, isBlank blank = true) ∧
      characters = trimBack characters ++ blanks := by
  refine ⟨(characters.reverse.takeWhile isBlank).reverse, fun blank member => ?_, ?_⟩
  · exact List.all_eq_true.1 List.all_takeWhile blank (List.mem_reverse.1 member)
  · rw [trimBack, ← List.reverse_append, List.takeWhile_append_dropWhile, List.reverse_reverse]

/-- Characters without blanks among them are all kept. -/
theorem trimBlanks_of_forall (notBlank : ∀ character ∈ digits, isBlank character = false) :
    trimBlanks digits = digits :=
  trimBlanks_eq_self (fun first isFirst => notBlank first (List.mem_of_head? isFirst))
    fun last isLast => notBlank last (List.mem_of_getLast? isLast)

/-! ## Parts -/

section Parts

variable {separator : Char} {part : List Char}

theorem splitAtChar_of_notMem (notMem : separator ∉ part) :
    splitAtChar separator part = [part] := by
  induction part with
  | nil => rfl
  | cons character part inductionHypothesis =>
      rw [List.mem_cons, not_or] at notMem
      rw [splitAtChar, if_neg (Ne.symm notMem.1), inductionHypothesis notMem.2]

theorem splitAtChar_append_cons (notMem : separator ∉ part) (rest : List Char) :
    splitAtChar separator (part ++ separator :: rest) = part :: splitAtChar separator rest := by
  induction part with
  | nil => rw [List.nil_append, splitAtChar, if_pos rfl]
  | cons character part inductionHypothesis =>
      rw [List.mem_cons, not_or] at notMem
      rw [List.cons_append, splitAtChar, if_neg (Ne.symm notMem.1), inductionHypothesis notMem.2]

end Parts

end Text
end RelationalApi
