import Mathlib
import RelationalApi.Proofs.Text.Patterns
import RelationalApi.Storage.Evaluation

/-!
# Patterns that ignore case

Patterns ignore the case of ASCII letters, or of all letters.  Both text and pattern are put into
lower case before they are compared.  For ASCII letters every character becomes one character,
whatever stands around it.  Among all letters there are two that do not: the dotted capital `İ`
becomes two characters, and a capital sigma takes another form at the end of a word.

So a text that matches while only ASCII case is ignored may fail to match when all case is ignored.
This happens exactly where the mark for one character can meet a dotted capital, or where marks of
the pattern can stand around a capital sigma.
-/

namespace RelationalApi
namespace Text

variable {character mark : Char} {text pattern characters low : List Char}
variable {tokens : List PatternToken}

/-! ## Letters of ASCII -/

/-- The letters that have lower case in ASCII. -/
def asciiCapitals : List Char :=
  (List.range 26).map fun index => Char.ofNat ('A'.toNat + index)

theorem toLower_eq_self_or_mem (character : Char) :
    character.toLower = character ∨ character ∈ asciiCapitals := by
  rw [Char.toLower]
  split
  · rename_i isCapital
    have least : 65 ≤ character.toNat := isCapital.1
    have most : character.toNat ≤ 90 := isCapital.2
    refine .inr (List.mem_map.2 ⟨character.toNat - 65, List.mem_range.2 (by omega), ?_⟩)
    change Char.ofNat (65 + (character.toNat - 65)) = character
    rw [Nat.add_sub_cancel' least, Char.ofNat_toNat]
  · exact .inl rfl

/-- What ASCII lower case keeps of the capital letters, it keeps of all characters. -/
theorem keeps_toLower
    {α : Type}
    {view : Char -> α}
    (capitals : asciiCapitals.map (view ∘ Char.toLower) = asciiCapitals.map view)
    (character : Char) :
    view character.toLower = view character := by
  rcases toLower_eq_self_or_mem character with same | isCapital
  · rw [same]
  · exact List.map_inj_left.1 capitals character isCapital

theorem lowercaseChar_toLower (character : Char) :
    lowercaseChar character.toLower = lowercaseChar character :=
  keeps_toLower (by decide +kernel) character

theorem isCased_toLower (character : Char) : isCased character.toLower = isCased character :=
  keeps_toLower (by decide +kernel) character

theorem isCaseIgnorable_toLower (character : Char) :
    isCaseIgnorable character.toLower = isCaseIgnorable character :=
  keeps_toLower (by decide +kernel) character

/-- Only letters of ASCII are moved, and no mark is one. -/
theorem toLower_eq_iff (isOther : mark ∉ asciiCapitals ∧ mark ∉ asciiCapitals.map Char.toLower) :
    character.toLower = mark ↔ character = mark := by
  rcases toLower_eq_self_or_mem character with same | isCapital
  · rw [same]
  · refine iff_of_false ?_ ?_
    · rintro rfl
      exact isOther.2 (List.mem_map_of_mem isCapital)
    · rintro rfl
      exact isOther.1 isCapital

/-! ## Patterns with replaced characters -/

/-- Characters are replaced one by one.  The marks of patterns stay, and nothing becomes one. -/
structure KeepsMarks (fold : Char -> List Char) : Prop where
  marks : ∀ mark ∈ patternMarks, fold mark = [mark]
  others : ∀ character ∉ patternMarks,
    fold character ≠ [] ∧ ∀ folded ∈ fold character, folded ∉ patternMarks

/-- The tokens of what the characters of a token are replaced by. -/
def PatternToken.folded (fold : Char -> List Char) : PatternToken -> List PatternToken
  | .literal character => (fold character).map .literal
  | token => [token]

theorem patternTokens_plain_append
    (noMarks : ∀ character ∈ characters, character ∉ patternMarks)
    (rest : List Char) :
    patternTokens (characters ++ rest) = characters.map .literal ++ patternTokens rest := by
  induction characters with
  | nil => rfl
  | cons first others inductionHypothesis =>
      rw [List.forall_mem_cons] at noMarks
      rw [List.cons_append, patternTokens_plain noMarks.1, inductionHypothesis noMarks.2]
      rfl

theorem patternTokens_of_noMarks (noMarks : ∀ character ∈ characters, character ∉ patternMarks) :
    patternTokens characters = characters.map .literal := by
  have plain := patternTokens_plain_append noMarks []
  rwa [List.append_nil, patternTokens, List.append_nil] at plain

/-- A pattern whose characters are replaced is read as the replaced tokens. -/
theorem KeepsMarks.patternTokens_flatMap
    {fold : Char -> List Char}
    (keeps : KeepsMarks fold)
    (pattern : List Char) :
    patternTokens (pattern.flatMap fold) =
      (patternTokens pattern).flatMap (PatternToken.folded fold) := by
  induction pattern using patternTokens.induct with
  | case1 => rfl
  | case2 rest inductionHypothesis =>
      rw [List.flatMap_cons, keeps.marks '%' (by decide)]
      exact congrArg (PatternToken.anyCharacters :: ·) inductionHypothesis
  | case3 rest inductionHypothesis =>
      rw [List.flatMap_cons, keeps.marks '_' (by decide)]
      exact congrArg (PatternToken.anyCharacter :: ·) inductionHypothesis
  | case4 character rest inductionHypothesis =>
      rw [List.flatMap_cons, List.flatMap_cons, keeps.marks '\\' (by decide), patternTokens,
        List.flatMap_cons, ← inductionHypothesis]
      by_cases isMark : character ∈ patternMarks
      · rw [PatternToken.folded, keeps.marks character isMark]
        rfl
      · -- The backslash escapes the first of the new characters, and none of them is a mark.
        obtain ⟨notEmpty, noMarks⟩ := keeps.others character isMark
        obtain ⟨first, others, isFolded⟩ := List.exists_cons_of_ne_nil notEmpty
        rw [isFolded, List.forall_mem_cons] at noMarks
        rw [PatternToken.folded, isFolded]
        change PatternToken.literal first :: patternTokens (others ++ rest.flatMap fold) = _
        rw [patternTokens_plain_append noMarks.2]
        rfl
  | case5 =>
      rw [List.flatMap_cons, keeps.marks '\\' (by decide)]
      rfl
  | case6 character rest notAny notOne notEscape notDangling inductionHypothesis =>
      have notMark : character ∉ patternMarks :=
        notMem_patternMarks_of_reading notAny notOne notEscape notDangling
      rw [List.flatMap_cons, patternTokens_plain_append (keeps.others character notMark).2,
        patternTokens_plain notMark, List.flatMap_cons, inductionHypothesis]
      rfl

theorem keepsMarks_toLower : KeepsMarks fun character => [character.toLower] := by
  constructor
  · exact List.map_inj_left.1 (by decide)
  · intro character notMark
    refine ⟨List.cons_ne_nil _ _, List.forall_mem_singleton.2 fun isMark => notMark ?_⟩
    have others : ∀ mark ∈ patternMarks,
        mark ∉ asciiCapitals ∧ mark ∉ asciiCapitals.map Char.toLower := by
      rw [patternMarks, List.forall_mem_cons, List.forall_mem_cons, List.forall_mem_singleton]
      decide
    have same := (toLower_eq_iff (others _ isMark)).1 rfl
    rwa [← same] at isMark

/-- Lower case letters come behind all marks. -/
theorem shiftCase_notMem_patternMarks (notMark : character ∉ patternMarks) :
    shiftCase lowercaseShifts character ∉ patternMarks := by
  have behind : ∀ shift ∈ lowercaseShifts,
      ('_'.toNat : Int) < shift.run.first + shift.distance := by decide +kernel
  have marksBefore : ∀ mark ∈ patternMarks, mark.toNat ≤ '_'.toNat ∧ mark.toNat ≠ 0 := by
    rw [patternMarks, List.forall_mem_cons, List.forall_mem_cons, List.forall_mem_singleton]
    decide
  rw [shiftCase]
  split
  · rename_i shift found
    have contained := List.find?_some found
    rw [Run.contains, Bool.and_eq_true, Bool.and_eq_true, decide_eq_true_iff] at contained
    have later := behind shift (List.mem_of_find?_eq_some found)
    intro isMark
    obtain ⟨before, notZero⟩ := marksBefore _ isMark
    rw [Char.ofNat] at before notZero
    split at before
    · change (character.toNat + shift.distance).toNat ≤ '_'.toNat at before
      omega
    · rename_i notValid
      rw [dif_neg notValid] at notZero
      exact notZero rfl
  · exact notMark

theorem keepsMarks_lowercaseChar : KeepsMarks lowercaseChar := by
  constructor
  · exact List.map_inj_left.1 (by decide +kernel)
  · intro character notMark
    rw [lowercaseChar]
    split
    · rw [List.forall_mem_cons, List.forall_mem_singleton]
      decide
    · exact ⟨List.cons_ne_nil _ _,
        List.forall_mem_singleton.2 (shiftCase_notMem_patternMarks notMark)⟩

/-! ## Lower case of texts -/

/-- The lower case of a text, as far as it does not depend on what stands around a capital sigma. -/
inductive LowersTo : List Char -> List Char -> Prop
  | nil : LowersTo [] []
  | sigma
      {rest low : List Char}
      {form : Char}
      (isForm : form = 'σ' ∨ form = 'ς')
      (lowers : LowersTo rest low) :
      LowersTo ('Σ' :: rest) (form :: low)
  | other
      {character : Char}
      {rest low : List Char}
      (notSigma : character ≠ 'Σ')
      (lowers : LowersTo rest low) :
      LowersTo (character :: rest) (lowercaseChar character ++ low)

theorem lowersTo_lowercaseAfter (before characters : List Char) :
    LowersTo characters (lowercaseAfter before characters) := by
  induction characters generalizing before with
  | nil => exact .nil
  | cons first others inductionHypothesis =>
      rw [lowercaseAfter]
      by_cases isSigma : first = 'Σ'
      · subst isSigma
        rw [if_pos rfl]
        split
        · exact .sigma (.inr rfl) (inductionHypothesis _)
        · exact .sigma (.inl rfl) (inductionHypothesis _)
      · rw [if_neg isSigma]
        exact .other isSigma (inductionHypothesis _)

theorem lowersTo_lowercase (characters : List Char) : LowersTo characters (lowercase characters) :=
  lowersTo_lowercaseAfter [] characters

/-- What stands in front is lowered in front. -/
theorem LowersTo.of_append
    {front back : List Char}
    (lowers : LowersTo (front ++ back) low) :
    ∃ lowFront lowBack, lowFront ++ lowBack = low ∧ LowersTo back lowBack := by
  induction front generalizing low with
  | nil => exact ⟨[], low, rfl, lowers⟩
  | cons first others inductionHypothesis =>
      cases lowers with
      | sigma isForm lowers =>
          obtain ⟨lowFront, lowBack, rfl, lowersBack⟩ := inductionHypothesis lowers
          exact ⟨_ :: lowFront, lowBack, rfl, lowersBack⟩
      | other notSigma lowers =>
          obtain ⟨lowFront, lowBack, rfl, lowersBack⟩ := inductionHypothesis lowers
          exact ⟨lowercaseChar first ++ lowFront, lowBack, List.append_assoc _ _ _, lowersBack⟩

/-- Without a capital sigma every character is lowered on its own. -/
theorem LowersTo.eq_flatMap
    (lowers : LowersTo characters low)
    (noSigma : 'Σ' ∉ characters) :
    low = characters.flatMap lowercaseChar := by
  induction lowers with
  | nil => rfl
  | sigma => exact absurd List.mem_cons_self noSigma
  | other _ _ inductionHypothesis =>
      have noSigmaLater := fun member => noSigma (List.mem_cons_of_mem _ member)
      rw [List.flatMap_cons, inductionHypothesis noSigmaLater]

/-- Lowering makes no marks. -/
theorem LowersTo.noMarks
    (lowers : LowersTo characters low)
    (noMarks : ∀ character ∈ characters, character ∉ patternMarks) :
    ∀ character ∈ low, character ∉ patternMarks := by
  induction lowers with
  | nil => exact noMarks
  | sigma isForm _ inductionHypothesis =>
      rw [List.forall_mem_cons] at noMarks ⊢
      refine ⟨?_, inductionHypothesis noMarks.2⟩
      rcases isForm with rfl | rfl <;> decide
  | other _ _ inductionHypothesis =>
      rw [List.forall_mem_cons] at noMarks
      exact List.forall_mem_append.2
        ⟨(keepsMarks_lowercaseChar.others _ noMarks.1).2, inductionHypothesis noMarks.2⟩

/-- Lower case does not depend on the case of ASCII letters. -/
theorem lowercaseAfter_toLower (before characters : List Char) :
    lowercaseAfter (before.map Char.toLower) (characters.map Char.toLower) =
      lowercaseAfter before characters := by
  have sameReach : ∀ others : List Char,
      reachesCased (others.map Char.toLower) = reachesCased others := by
    intro others
    have sameIgnored : isCaseIgnorable ∘ Char.toLower = isCaseIgnorable :=
      funext isCaseIgnorable_toLower
    rw [reachesCased, reachesCased, List.dropWhile_map, List.head?_map, Option.map_map,
      sameIgnored]
    exact congrArg (Option.getD · false)
      (congrArg (Option.map · _) (funext isCased_toLower))
  have isSigma : ∀ character : Char, character.toLower = 'Σ' ↔ character = 'Σ' :=
    fun _ => toLower_eq_iff (by decide)
  induction characters generalizing before with
  | nil => rfl
  | cons first others inductionHypothesis =>
      rw [List.map_cons, lowercaseAfter, lowercaseAfter, sameReach, sameReach,
        lowercaseChar_toLower, ← List.map_cons, inductionHypothesis]
      simp only [isSigma]

theorem lowercase_toLower (characters : List Char) :
    lowercase (characters.map Char.toLower) = lowercase characters :=
  lowercaseAfter_toLower [] characters

/-! ## Matching in lower case -/

/-- A character that is no mark stands for itself wherever it stands in a pattern. -/
theorem literal_mem_patternTokens_iff (notMark : character ∉ patternMarks) :
    .literal character ∈ patternTokens pattern ↔ character ∈ pattern := by
  have isOther : ∀ mark ∈ patternMarks, character ≠ mark := fun _ isMark same =>
    notMark (same ▸ isMark)
  induction pattern using patternTokens.induct with
  | case1 => simp [patternTokens]
  | case2 rest inductionHypothesis =>
      simp [patternTokens, inductionHypothesis, isOther '%' (by decide)]
  | case3 rest inductionHypothesis =>
      simp [patternTokens, inductionHypothesis, isOther '_' (by decide)]
  | case4 next rest inductionHypothesis =>
      simp [patternTokens, inductionHypothesis, isOther '\\' (by decide)]
  | case5 => simp [patternTokens, isOther '\\' (by decide)]
  | case6 first rest notAny notOne notEscape notDangling inductionHypothesis =>
      rw [patternTokens_plain
        (notMem_patternMarks_of_reading notAny notOne notEscape notDangling)]
      simp [inductionHypothesis]

theorem mem_of_anyCharacter_mem (member : .anyCharacter ∈ patternTokens pattern) :
    '_' ∈ pattern := by
  induction pattern using patternTokens.induct with
  | case1 => simp [patternTokens] at member
  | case3 rest => exact List.mem_cons_self
  | case5 => simp [patternTokens] at member
  | case6 first rest notAny notOne notEscape notDangling inductionHypothesis =>
      rw [patternTokens_plain
        (notMem_patternMarks_of_reading notAny notOne notEscape notDangling)] at member
      simp only [List.mem_cons, reduceCtorEq, false_or] at member
      exact List.mem_cons_of_mem _ (inductionHypothesis member)
  | _ => simp_all [patternTokens]

/-- Characters that match as they are. -/
theorem cutBy_literals_append :
    CutBy (pattern.map .literal ++ tokens) characters ↔
      ∃ rest, pattern ++ rest = characters ∧ CutBy tokens rest := by
  induction pattern generalizing characters with
  | nil => simp
  | cons first others inductionHypothesis =>
      rw [List.map_cons, List.cons_append, cutBy_cons]
      constructor
      · rintro ⟨_, _, ⟨⟩, isCut, rfl⟩
        obtain ⟨rest, rfl, isCutLater⟩ := inductionHypothesis.1 isCut
        exact ⟨rest, rfl, isCutLater⟩
      · rintro ⟨rest, rfl, isCut⟩
        exact ⟨[first], others ++ rest, .literal first, inductionHypothesis.2 ⟨rest, rfl, isCut⟩,
          rfl⟩

/-- A text without wildcards matches itself alone. -/
theorem cutBy_literals : CutBy (pattern.map .literal) characters ↔ characters = pattern := by
  have isCut := @cutBy_literals_append pattern characters []
  rw [List.append_nil] at isCut
  rw [isCut]
  simp [cutBy_nil, eq_comm]

theorem CutBy.mem_of_literal
    (isCut : CutBy tokens characters)
    (member : .literal character ∈ tokens) :
    character ∈ characters := by
  obtain ⟨pieces, pairs, rfl⟩ := isCut
  induction pairs with
  | nil => cases member
  | cons standsFor _ inductionHypothesis =>
      rw [List.flatten_cons, List.mem_append]
      rcases List.mem_cons.1 member with rfl | later
      · cases standsFor
        exact .inl (List.mem_singleton_self _)
      · exact .inr (inductionHypothesis later)

/-- A cut while ASCII case is ignored becomes one while all case is ignored: what a token stands for
is lowered along with the token.  Only a capital sigma may be lowered to another form than the
token, and only a dotted capital to more than the one character that a mark stands for. -/
theorem CutBy.lowered
    (isCut : CutBy (tokens.flatMap (PatternToken.folded fun character => [character.toLower]))
      (text.map Char.toLower))
    (noSigma : .literal 'Σ' ∉ tokens)
    (noDots : .anyCharacter ∈ tokens -> 'İ' ∉ text)
    (lowers : LowersTo text low) :
    CutBy (tokens.flatMap (PatternToken.folded lowercaseChar)) low := by
  induction tokens generalizing text low with
  | nil =>
      rw [List.flatMap_nil, cutBy_nil, List.map_eq_nil_iff] at isCut
      subst isCut
      cases lowers
      exact cutBy_nil.2 rfl
  | cons token tokens inductionHypothesis =>
      rw [List.mem_cons, not_or] at noSigma
      have noDotsLater : ∀ {back : List Char}, back ⊆ text -> .anyCharacter ∈ tokens ->
          'İ' ∉ back :=
        fun within member isDot => noDots (List.mem_cons_of_mem _ member) (within isDot)
      cases token with
      | anyCharacters =>
          obtain ⟨piece, rest, _, isCutLater, whole⟩ := cutBy_cons.1 isCut
          obtain ⟨front, back, rfl, rfl, rfl⟩ := List.map_eq_append_iff.1 whole.symm
          obtain ⟨lowFront, lowBack, rfl, lowersBack⟩ := lowers.of_append
          exact cutBy_cons.2 ⟨lowFront, lowBack, .anyCharacters lowFront,
            inductionHypothesis isCutLater noSigma.2
              (noDotsLater (List.subset_append_right front back)) lowersBack, rfl⟩
      | anyCharacter =>
          obtain ⟨_, rest, ⟨⟩, isCutLater, whole⟩ := cutBy_cons.1 isCut
          obtain ⟨first, others, rfl, rfl, rfl⟩ := List.map_eq_cons_iff.1 whole.symm
          have isCutLow : ∀ {low}, LowersTo others low ->
              CutBy (tokens.flatMap (PatternToken.folded lowercaseChar)) low :=
            inductionHypothesis isCutLater noSigma.2
              (noDotsLater (List.subset_cons_self first others))
          cases lowers with
          | sigma _ lowersLater =>
              exact cutBy_cons.2 ⟨[_], _, .anyCharacter _, isCutLow lowersLater, rfl⟩
          | other _ lowersLater =>
              have notDot : first ≠ 'İ' := fun isDot =>
                noDots List.mem_cons_self (isDot ▸ List.mem_cons_self)
              rw [lowercaseChar, if_neg notDot]
              exact cutBy_cons.2 ⟨[_], _, .anyCharacter _, isCutLow lowersLater, rfl⟩
      | literal expected =>
          obtain ⟨_, rest, ⟨⟩, isCutLater, whole⟩ := cutBy_cons.1 isCut
          obtain ⟨first, others, rfl, same, rfl⟩ := List.map_eq_cons_iff.1 whole.symm
          cases lowers with
          | sigma _ _ =>
              have isSigma : expected = 'Σ' := (toLower_eq_iff (by decide)).1 same.symm
              exact absurd (congrArg PatternToken.literal isSigma.symm) noSigma.1
          | other _ lowersLater =>
              have sameLow : lowercaseChar expected = lowercaseChar first := by
                rw [← lowercaseChar_toLower first, same, lowercaseChar_toLower]
              refine cutBy_literals_append.2 ⟨_, congrArg (· ++ _) sameLow, ?_⟩
              exact inductionHypothesis isCutLater noSigma.2
                (noDotsLater (List.subset_cons_self first others)) lowersLater
      | danglingEscape =>
          obtain ⟨_, _, ⟨⟩, _⟩ := cutBy_cons.1 isCut

/-- A capital sigma of the pattern matches one of the text. -/
theorem CutBy.sigma_mem
    (isCut : CutBy (patternTokens (pattern.map Char.toLower)) (text.map Char.toLower))
    (hasSigma : 'Σ' ∈ pattern) :
    'Σ' ∈ text := by
  have isLiteral : .literal 'Σ' ∈ patternTokens (pattern.map Char.toLower) :=
    (literal_mem_patternTokens_iff (by decide)).2 (List.mem_map_of_mem hasSigma)
  obtain ⟨character, isText, isSigma⟩ := List.mem_map.1 (isCut.mem_of_literal isLiteral)
  rw [toLower_eq_iff (by decide)] at isSigma
  exact isSigma ▸ isText

/-- A pattern without marks matches its own text alone, up to ASCII case. -/
theorem CutBy.lowercase_of_noMarks
    (isCut : CutBy (patternTokens (pattern.map Char.toLower)) (text.map Char.toLower))
    (noMarks : ∀ character ∈ pattern, character ∉ patternMarks) :
    CutBy (patternTokens (lowercase pattern)) (lowercase text) := by
  have noMarksFolded : ∀ folded ∈ pattern.map Char.toLower, folded ∉ patternMarks :=
    List.forall_mem_map.2 fun character member =>
      (keepsMarks_toLower.others character (noMarks character member)).2 _
        (List.mem_singleton_self _)
  rw [patternTokens_of_noMarks noMarksFolded, cutBy_literals] at isCut
  rw [patternTokens_of_noMarks ((lowersTo_lowercase pattern).noMarks noMarks), cutBy_literals,
    ← lowercase_toLower text, isCut, lowercase_toLower]

/-- A pattern that matches a text while ASCII case is ignored matches it while all case is ignored,
unless a mark for one character may stand for a dotted capital, or the pattern has marks around a
capital sigma of the text. -/
theorem matches_lowercase
    (matched : matchTokens (patternTokens (pattern.map Char.toLower))
      (text.map Char.toLower) = true)
    (noDots : '_' ∈ pattern -> 'İ' ∉ text)
    (noSigmas : 'Σ' ∈ pattern -> 'Σ' ∈ text -> ∀ mark ∈ patternMarks, mark ∉ pattern) :
    matchTokens (patternTokens (lowercase pattern)) (lowercase text) = true := by
  rw [matchTokens_eq_true] at matched ⊢
  by_cases hasSigma : 'Σ' ∈ pattern
  · -- The text has the sigma too, so the pattern has no marks.
    exact matched.lowercase_of_noMarks fun character member isMark =>
      noSigmas hasSigma (matched.sigma_mem hasSigma) character isMark member
  · have noSigma := mt (literal_mem_patternTokens_iff (by decide)).1 hasSigma
    rw [(lowersTo_lowercase pattern).eq_flatMap hasSigma,
      keepsMarks_lowercaseChar.patternTokens_flatMap]
    rw [List.map_eq_flatMap, keepsMarks_toLower.patternTokens_flatMap] at matched
    exact matched.lowered noSigma (fun member => noDots (mem_of_anyCharacter_mem member))
      (lowersTo_lowercase text)

end Text

open Text

/-- Ignoring all case never loses what is found while only ASCII case is ignored: for texts and
patterns of certain characters, a stored text that matches still matches, and one that does not
match did not match before. -/
def Filter.IgnoringCaseWidens (texts patterns : Char -> Prop) : Prop :=
  ∀ row field text pattern, fieldValue? row field = some (.string text) ->
    (∀ character ∈ text.toList, texts character) ->
    (∀ character ∈ pattern.toList, patterns character) ->
      (holds row (.pattern ⟨false, false⟩ field pattern) = true ->
        holds row (.pattern ⟨true, false⟩ field pattern) = true) ∧
      (holds row (.pattern ⟨true, true⟩ field pattern) = true ->
        holds row (.pattern ⟨false, true⟩ field pattern) = true)

theorem Filter.holds_pattern_of_string
    {row : StoredRow}
    {field text : String}
    (stored : fieldValue? row field = some (.string text))
    (test : PatternTest)
    (pattern : String) :
    holds row (.pattern test field pattern) = test.holds text pattern := by
  rw [holds, stored]

theorem PatternTest.holds_negated (ignoresCase : Bool) (text pattern : String) :
    PatternTest.holds ⟨ignoresCase, true⟩ text pattern =
      !PatternTest.holds ⟨ignoresCase, false⟩ text pattern := by
  rw [PatternTest.holds, PatternTest.holds, Bool.bne_true, Bool.bne_false]

theorem PatternTest.holds_ignoringCase
    {text pattern : String}
    (noDots : '_' ∈ pattern.toList -> 'İ' ∉ text.toList)
    (noSigmas : 'Σ' ∈ pattern.toList -> 'Σ' ∈ text.toList ->
      ∀ mark ∈ patternMarks, mark ∉ pattern.toList)
    (found : PatternTest.holds ⟨false, false⟩ text pattern = true) :
    PatternTest.holds ⟨true, false⟩ text pattern = true := by
  rw [PatternTest.holds, Bool.bne_false] at found ⊢
  exact matches_lowercase found noDots noSigmas

/-- With any mark there is a pattern that finds capital sigmas only as long as their case counts. -/
theorem PatternTest.loses_sigmas
    {mark : Char}
    (isMark : mark ∈ patternMarks) :
    ∃ text pattern : String,
      text.toList.all (· == 'Σ') = true ∧
      pattern.toList.all (fun character => character == 'Σ' || character == mark) = true ∧
      PatternTest.holds ⟨false, false⟩ text pattern = true ∧
      PatternTest.holds ⟨true, false⟩ text pattern = false := by
  simp only [patternMarks, List.mem_cons, List.not_mem_nil, or_false] at isMark
  rcases isMark with rfl | rfl | rfl
  · exact ⟨"ΣΣ", "%Σ", by decide +kernel⟩
  · exact ⟨"ΣΣ", "_Σ", by decide +kernel⟩
  · exact ⟨"ΣΣ", "Σ\\Σ", by decide +kernel⟩

/-- It is enough to look at the tests that are not negated, and at one field. -/
theorem Filter.ignoringCaseWidens_iff_tests (texts patterns : Char -> Prop) :
    IgnoringCaseWidens texts patterns ↔
      ∀ text pattern : String,
        (∀ character ∈ text.toList, texts character) ->
        (∀ character ∈ pattern.toList, patterns character) ->
        PatternTest.holds ⟨false, false⟩ text pattern = true ->
          PatternTest.holds ⟨true, false⟩ text pattern = true := by
  constructor
  · intro widens text pattern ofText ofPattern
    have stored : fieldValue? [⟨"word", .string text⟩] "word" = some (.string text) := rfl
    have widened := (widens _ _ text pattern stored ofText ofPattern).1
    rwa [holds_pattern_of_string stored, holds_pattern_of_string stored] at widened
  · intro widens row field text pattern stored ofText ofPattern
    simp only [holds_pattern_of_string stored, PatternTest.holds_negated, Bool.not_eq_true']
    refine ⟨widens text pattern ofText ofPattern, fun notFound => ?_⟩
    rw [Bool.eq_false_iff] at notFound ⊢
    exact fun found => notFound (widens text pattern ofText ofPattern found)

/-- Ignoring all case loses nothing exactly where no mark for one character meets a dotted capital,
and no mark stands in a pattern next to a capital sigma. -/
theorem Filter.ignoringCaseWidens_iff (texts patterns : Char -> Prop) :
    IgnoringCaseWidens texts patterns ↔
      ¬(patterns '_' ∧ texts 'İ') ∧
        ¬(patterns 'Σ' ∧ texts 'Σ' ∧ ∃ mark ∈ patternMarks, patterns mark) := by
  rw [ignoringCaseWidens_iff_tests]
  constructor
  · intro widens
    constructor
    · rintro ⟨isOne, isDot⟩
      have lost := widens "İ" "_" (List.forall_mem_singleton.2 isDot)
        (List.forall_mem_singleton.2 isOne) (by decide +kernel)
      exact absurd lost (by decide +kernel)
    · rintro ⟨isPattern, isText, mark, isMark, isPatternMark⟩
      obtain ⟨text, pattern, ofText, ofPattern, found, notFound⟩ := PatternTest.loses_sigmas isMark
      simp only [List.all_eq_true, Bool.or_eq_true, beq_iff_eq] at ofText ofPattern
      have lost := widens text pattern (fun character member => ofText character member ▸ isText)
        (fun character member => (ofPattern character member).elim (· ▸ isPattern)
          (· ▸ isPatternMark)) found
      rw [notFound] at lost
      cases lost
  · rintro ⟨noDots, noSigmas⟩ text pattern ofText ofPattern
    refine PatternTest.holds_ignoringCase (fun isOne isDot => ?_)
      (fun isPattern isText mark isMark isPatternMark => ?_)
    · exact noDots ⟨ofPattern _ isOne, ofText _ isDot⟩
    · exact noSigmas ⟨ofPattern _ isPattern, ofText _ isText, mark, isMark,
        ofPattern _ isPatternMark⟩

/-- Ignoring all case loses texts, as characters of all kinds can be stored and asked for. -/
theorem Filter.not_ignoringCaseWidens : ¬IgnoringCaseWidens (fun _ => True) fun _ => True := by
  intro widens
  have lost := (widens [⟨"word", .string "İ"⟩] "word" "İ" "_" rfl (fun _ _ => trivial)
    (fun _ _ => trivial)).1 (by decide +kernel)
  exact absurd lost (by decide +kernel)

end RelationalApi
