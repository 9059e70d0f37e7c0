import Mathlib.Algebra.Ring.Nat
import RelationalApi.Encoding.Base64
import RelationalApi.Encoding.Uuid

/-!
# Texts of bytes and of identifiers

The Base64 text of bytes is read as the bytes.  Three bytes are cut into four groups of six bits,
and the characters of groups are told from the padding.
-/

namespace RelationalApi
namespace Base64

theorem digitValue?_digitChar {value : Nat} (sixBits : value < 64) :
    digitValue? (digitChar value) = some value := by
  have all : ∀ value < 64, digitValue? (digitChar value) = some value := by decide
  exact all value sixBits

theorem digitChar_ne_padding {value : Nat} (sixBits : value < 64) : digitChar value ≠ '=' := by
  have all : ∀ value < 64, digitChar value ≠ '=' := by decide
  exact all value sixBits

/-- A group without padding is read by itself, whatever follows. -/
theorem decodeChars?_group
    (a b c d : Char)
    (rest : List Char)
    (notPadded : d ≠ '=') :
    decodeChars? (a :: b :: c :: d :: rest) = (do
      let a ← digitValue? a
      let b ← digitValue? b
      let c ← digitValue? c
      let d ← digitValue? d
      let bytes ← decodeChars? rest
      some (UInt8.ofNat (a * 4 + b / 16) :: UInt8.ofNat (b % 16 * 16 + c / 4) ::
        UInt8.ofNat (c % 4 * 64 + d) :: bytes)) := by
  rw [decodeChars?]
  · exact fun _ same _ => notPadded same
  · exact fun same _ => notPadded same

/-- What is read from the characters for bytes is the bytes. -/
theorem decodeChars?_encodeChars (content : List UInt8) :
    decodeChars? (encodeChars content) = some content := by
  induction content using encodeChars.induct with
  | case1 => rfl
  | case2 a =>
      have aBound := a.toNat_lt
      rw [encodeChars, decodeChars?]
      simp only [Option.bind_eq_bind, digitValue?_digitChar (show a.toNat / 4 < 64 by omega),
        digitValue?_digitChar (show a.toNat % 4 * 16 < 64 by omega), Option.bind_some]
      rw [if_pos (by omega)]
      have first : a.toNat / 4 * 4 + a.toNat % 4 * 16 / 16 = a.toNat := by omega
      rw [first, UInt8.ofNat_toNat]
  | case3 a b =>
      have aBound := a.toNat_lt
      have bBound := b.toNat_lt
      rw [encodeChars, decodeChars?]
      · simp only [Option.bind_eq_bind, digitValue?_digitChar (show a.toNat / 4 < 64 by omega),
          digitValue?_digitChar (show a.toNat % 4 * 16 + b.toNat / 16 < 64 by omega),
          digitValue?_digitChar (show b.toNat % 16 * 4 < 64 by omega), Option.bind_some]
        rw [if_pos (by omega)]
        have first : a.toNat / 4 * 4 + (a.toNat % 4 * 16 + b.toNat / 16) / 16 = a.toNat := by omega
        have second : (a.toNat % 4 * 16 + b.toNat / 16) % 16 * 16 + b.toNat % 16 * 4 / 4 =
            b.toNat := by
          omega
        rw [first, second, UInt8.ofNat_toNat, UInt8.ofNat_toNat]
      · exact digitChar_ne_padding (by omega)
  | case4 a b c rest inductionHypothesis =>
      have aBound := a.toNat_lt
      have bBound := b.toNat_lt
      have cBound := c.toNat_lt
      rw [encodeChars, decodeChars?_group _ _ _ _ _ (digitChar_ne_padding (by omega))]
      simp only [Option.bind_eq_bind, digitValue?_digitChar (show a.toNat / 4 < 64 by omega),
        digitValue?_digitChar (show a.toNat % 4 * 16 + b.toNat / 16 < 64 by omega),
        digitValue?_digitChar (show b.toNat % 16 * 4 + c.toNat / 64 < 64 by omega),
        digitValue?_digitChar (show c.toNat % 64 < 64 by omega), Option.bind_some,
        inductionHypothesis]
      have first : a.toNat / 4 * 4 + (a.toNat % 4 * 16 + b.toNat / 16) / 16 = a.toNat := by omega
      have second : (a.toNat % 4 * 16 + b.toNat / 16) % 16 * 16 +
          (b.toNat % 16 * 4 + c.toNat / 64) / 4 = b.toNat := by
        omega
      have third : (b.toNat % 16 * 4 + c.toNat / 64) % 4 * 64 + c.toNat % 64 = c.toNat := by omega
      rw [first, second, third, UInt8.ofNat_toNat, UInt8.ofNat_toNat, UInt8.ofNat_toNat]

/-- The text of bytes is read as the bytes. -/
theorem decode?_encode (content : List UInt8) : decode? (encode content) = some content := by
  rw [decode?, encode, String.toList_ofList]
  exact decodeChars?_encodeChars content

end Base64

/-!
## Canonical identifiers

An identifier is read from its canonical text, and the canonical text of that text is the text
itself.  Grouping digits and taking the hyphens out again gives the digits, in small letters if they
were made small.
-/

namespace Uuid

variable {lengths : List Nat} {characters digits : List Char}

/-- Groups of digits without the hyphens between them are as many digits as the groups have. -/
theorem of_ungroup?
    (ungrouped : ungroup? lengths characters = some digits) :
    digits.length = lengths.sum ∧ digits.all isHexDigit = true := by
  induction lengths generalizing characters digits with
  | nil => cases ungrouped
  | cons length lengths inductionHypothesis =>
      cases lengths with
      | nil =>
          rw [ungroup?, Option.ite_none_right_eq_some, Bool.and_eq_true, decide_eq_true_iff]
            at ungrouped
          obtain ⟨⟨isLength, areDigits⟩, same⟩ := ungrouped
          cases same
          exact ⟨isLength, areDigits⟩
      | cons next lengths =>
          rw [ungroup?] at ungrouped
          · split at ungrouped
            · rename_i rest isRest
              rw [Option.ite_none_right_eq_some] at ungrouped
              obtain ⟨areDigits, ungrouped⟩ := ungrouped
              obtain ⟨others, ungroupedOthers, rfl⟩ := Option.map_eq_some_iff.1 ungrouped
              obtain ⟨sameLength, othersDigits⟩ := inductionHypothesis ungroupedOthers
              have long : length ≤ characters.length := by
                have behind := congrArg List.length isRest
                rw [List.length_drop, List.length_cons] at behind
                omega
              rw [List.length_append, List.length_take_of_le long, sameLength, List.all_append,
                areDigits, othersDigits]
              exact ⟨rfl, rfl⟩
            · cases ungrouped
          · simp

/-- A group is read up to the hyphen behind it. -/
theorem ungroup?_hyphen
    {length next : Nat}
    {first others : List Char}
    (isGroup : first.length = length) :
    ungroup? (length :: next :: lengths) (first ++ '-' :: others) =
      if first.all isHexDigit then (ungroup? (next :: lengths) others).map (first ++ ·)
      else none := by
  subst isGroup
  rw [ungroup?, List.take_left, List.drop_left]
  · rfl
  · simp

/-- Grouped digits are read as the digits. -/
theorem ungroup?_group
    (hasGroup : lengths ≠ [])
    (enough : digits.length = lengths.sum)
    (areDigits : digits.all isHexDigit = true) :
    ungroup? lengths (group lengths digits) = some digits := by
  induction lengths generalizing digits with
  | nil => exact absurd rfl hasGroup
  | cons length lengths inductionHypothesis =>
      cases lengths with
      | nil =>
          rw [List.sum_cons, List.sum_nil, Nat.add_zero] at enough
          rw [group, ungroup?, if_pos (by rw [areDigits, decide_eq_true enough]; rfl)]
      | cons next lengths =>
          rw [List.sum_cons] at enough
          have first : (digits.take length).length = length := List.length_take_of_le (by omega)
          have parts := List.take_append_drop length digits
          rw [← parts, List.all_append, Bool.and_eq_true] at areDigits
          have enoughOthers : (digits.drop length).length = (next :: lengths).sum := by
            rw [List.length_drop]
            omega
          have others :=
            inductionHypothesis (List.cons_ne_nil next lengths) enoughOthers areDigits.2
          rw [group, ungroup?_hyphen first, if_pos areDigits.1, others, Option.map_some, parts]
          simp

theorem length_group
    (hasGroup : lengths ≠ [])
    (enough : digits.length = lengths.sum) :
    (group lengths digits).length + 1 = digits.length + lengths.length := by
  induction lengths generalizing digits with
  | nil => exact absurd rfl hasGroup
  | cons length lengths inductionHypothesis =>
      cases lengths with
      | nil => rfl
      | cons next lengths =>
          rw [List.sum_cons] at enough
          have enoughOthers : (digits.drop length).length = (next :: lengths).sum := by
            rw [List.length_drop]
            omega
          have others := inductionHypothesis (List.cons_ne_nil next lengths) enoughOthers
          rw [List.length_drop] at others
          rw [group]
          · simp only [List.length_append, List.length_take, List.length_cons] at others ⊢
            omega
          · simp

/-- An identifier has thirty-two digits. -/
theorem of_digits? (read : digits? characters = some digits) :
    digits.length = groupLengths.sum ∧ digits.all isHexDigit = true := by
  rw [digits?] at read
  split at read
  · rename_i isPlain
    rw [Option.ite_none_right_eq_some] at read
    obtain ⟨areDigits, same⟩ := read
    cases same
    exact ⟨isPlain, areDigits⟩
  · split at read
    · exact of_ungroup? read
    · split at read
      · exact of_ungroup? read
      · split at read
        · exact of_ungroup? read
        · cases read

/-- The small letter of a hexadecimal digit is one, and stays as it is. -/
theorem toLower_isHexDigit
    {character : Char}
    (isDigit : isHexDigit character = true) :
    isHexDigit character.toLower = true ∧ character.toLower.toLower = character.toLower := by
  have all : ∀ code < 128, isHexDigit (Char.ofNat code) = true ->
      isHexDigit (Char.ofNat code).toLower = true ∧
        (Char.ofNat code).toLower.toLower = (Char.ofNat code).toLower := by
    decide
  have isAscii : character.toNat < 128 := by
    simp only [isHexDigit, Char.isDigit, Bool.or_eq_true, Bool.and_eq_true, decide_eq_true_eq]
      at isDigit
    rcases isDigit with (⟨_, most⟩ | ⟨_, most⟩) | ⟨_, most⟩
    · exact Nat.lt_of_le_of_lt most (by decide)
    · exact Nat.lt_of_le_of_lt most (by decide)
    · exact Nat.lt_of_le_of_lt most (by decide)
  have known := all character.toNat isAscii
  rw [Char.ofNat_toNat] at known
  exact known isDigit

/-- The canonical text of an identifier is its own canonical text. -/
theorem canonical?_canonical
    {text canonical : String}
    (read : canonical? text = some canonical) :
    canonical? canonical = some canonical := by
  obtain ⟨digits, isRead, rfl⟩ := Option.map_eq_some_iff.1 read
  obtain ⟨enough, areDigits⟩ := of_digits? isRead
  have small := fun digit member =>
    toLower_isHexDigit (List.all_eq_true.1 areDigits digit member)
  have lowered : ((digits.map Char.toLower).map Char.toLower) = digits.map Char.toLower := by
    rw [List.map_map]
    exact List.map_congr_left fun digit member => (small digit member).2
  have loweredDigits : (digits.map Char.toLower).all isHexDigit = true := by
    rw [List.all_map, List.all_eq_true]
    exact fun digit member => (small digit member).1
  have loweredLength : (digits.map Char.toLower).length = groupLengths.sum := by
    rw [List.length_map, enough]
  have hasGroup : groupLengths ≠ [] := List.cons_ne_nil _ _
  have length := length_group hasGroup loweredLength
  have isLong : (group groupLengths (digits.map Char.toLower)).length = 36 := by
    rw [loweredLength] at length
    exact Nat.succ.inj length
  have again : digits? (group groupLengths (digits.map Char.toLower)) =
      some (digits.map Char.toLower) := by
    rw [digits?, isLong, if_neg (by decide), if_pos rfl,
      ungroup?_group hasGroup loweredLength loweredDigits]
  rw [canonical?, String.toList_ofList, again, Option.map_some, lowered]

end Uuid
end RelationalApi
