import Mathlib.Data.List.Forall2
import RelationalApi.Text.Pattern

/-!
# What patterns match

A pattern is written in tokens, one after another, and every pattern can be read in exactly one way.
A text matches if it can be cut into pieces, one for each token, such that every token stands for
its piece.  The matcher tries the pieces from left to right and finds a cut wherever there is one.
-/

namespace RelationalApi
namespace Text

/-- The characters that do not stand for themselves in a pattern. -/
def patternMarks : List Char := ['%', '_', '\\']

/-- The pieces of a text that a token stands for.  An escape of nothing stands for no piece. -/
inductive PatternToken.StandsFor : PatternToken -> List Char -> Prop
  | anyCharacters (piece : List Char) : StandsFor .anyCharacters piece
  | anyCharacter (character : Char) : StandsFor .anyCharacter [character]
  | literal (character : Char) : StandsFor (.literal character) [character]

/-- Characters can be cut into pieces that the tokens stand for. -/
def CutBy (tokens : List PatternToken) (characters : List Char) : Prop :=
  ∃ pieces, List.Forall₂ PatternToken.StandsFor tokens pieces ∧ pieces.flatten = characters

variable {pattern characters : List Char} {tokens : List PatternToken} {token : PatternToken}

/-! ## Reading -/

/-- A character that is no mark stands for itself, whatever follows it. -/
theorem patternTokens_plain
    {character : Char}
    (notMark : character ∉ patternMarks)
    (rest : List Char) :
    patternTokens (character :: rest) = .literal character :: patternTokens rest := by
  simp only [patternMarks, List.mem_cons, List.not_mem_nil, or_false, not_or] at notMark
  obtain ⟨notAny, notOne, notEscape⟩ := notMark
  rw [patternTokens.eq_def]
  split <;> simp_all

/-- A character that is read as itself is no mark. -/
theorem notMem_patternMarks_of_reading
    {character : Char}
    {rest : List Char}
    (notAny : character ≠ '%')
    (notOne : character ≠ '_')
    (notEscape : ∀ next others, character = '\\' -> rest = next :: others -> False)
    (notDangling : character = '\\' -> rest = [] -> False) :
    character ∉ patternMarks := by
  simp only [patternMarks, List.mem_cons, List.not_mem_nil, or_false, not_or]
  refine ⟨notAny, notOne, fun isEscape => ?_⟩
  cases rest with
  | nil => exact notDangling isEscape rfl
  | cons next others => exact notEscape next others isEscape rfl

theorem anySuffix_eq_true {test : List Char -> Bool} :
    anySuffix test characters = true ↔
      ∃ skipped rest, skipped ++ rest = characters ∧ test rest = true := by
  induction characters with
  | nil =>
      rw [anySuffix]
      constructor
      · exact fun passes => ⟨[], [], rfl, passes⟩
      · rintro ⟨skipped, rest, whole, passes⟩
        rw [(List.append_eq_nil_iff.1 whole).2] at passes
        exact passes
  | cons first others inductionHypothesis =>
      rw [anySuffix, Bool.or_eq_true, inductionHypothesis]
      constructor
      · rintro (passes | ⟨skipped, rest, rfl, passes⟩)
        · exact ⟨[], _, rfl, passes⟩
        · exact ⟨first :: skipped, rest, rfl, passes⟩
      · rintro ⟨skipped, rest, whole, passes⟩
        cases skipped with
        | nil =>
            rw [← whole]
            exact .inl passes
        | cons head skipped => exact .inr ⟨skipped, rest, List.tail_eq_of_cons_eq whole, passes⟩

theorem cutBy_nil : CutBy [] characters ↔ characters = [] := by
  rw [CutBy]
  constructor
  · rintro ⟨_, ⟨⟩, whole⟩
    exact whole.symm
  · rintro rfl
    exact ⟨[], .nil, rfl⟩

/-- What more than one token cuts starts with a piece for the first one. -/
theorem cutBy_cons :
    CutBy (token :: tokens) characters ↔
      ∃ piece rest, token.StandsFor piece ∧ CutBy tokens rest ∧ piece ++ rest = characters := by
  rw [CutBy]
  constructor
  · rintro ⟨_, pairs, whole⟩
    cases pairs with
    | cons standsFor others => exact ⟨_, _, standsFor, ⟨_, others, rfl⟩, whole⟩
  · rintro ⟨piece, _, standsFor, ⟨pieces, others, rfl⟩, whole⟩
    exact ⟨piece :: pieces, .cons standsFor others, whole⟩

/-- The matcher finds a cut exactly where there is one. -/
theorem matchTokens_eq_true : matchTokens tokens characters = true ↔ CutBy tokens characters := by
  induction tokens generalizing characters with
  | nil => rw [matchTokens_nil, List.isEmpty_iff, cutBy_nil]
  | cons token tokens inductionHypothesis =>
      rw [cutBy_cons]
      cases token with
      | anyCharacters =>
          rw [matchTokens_anyCharacters, anySuffix_eq_true]
          constructor
          · rintro ⟨skipped, rest, whole, matched⟩
            exact ⟨skipped, rest, .anyCharacters skipped, inductionHypothesis.1 matched, whole⟩
          · rintro ⟨skipped, rest, _, isCut, whole⟩
            exact ⟨skipped, rest, whole, inductionHypothesis.2 isCut⟩
      | anyCharacter =>
          constructor
          · intro matched
            cases characters with
            | nil => cases matched
            | cons first others =>
                exact ⟨[first], others, .anyCharacter first, inductionHypothesis.1 matched, rfl⟩
          · rintro ⟨_, rest, ⟨⟩, isCut, rfl⟩
            exact inductionHypothesis.2 isCut
      | literal expected =>
          constructor
          · intro matched
            cases characters with
            | nil => cases matched
            | cons first others =>
                rw [matchTokens, Bool.and_eq_true, beq_iff_eq] at matched
                obtain ⟨rfl, matched⟩ := matched
                exact ⟨[expected], others, .literal expected, inductionHypothesis.1 matched, rfl⟩
          · rintro ⟨_, rest, ⟨⟩, isCut, rfl⟩
            change matchTokens (.literal expected :: tokens) (expected :: rest) = true
            rw [matchTokens, beq_self_eq_true, Bool.true_and]
            exact inductionHypothesis.2 isCut
      | danglingEscape =>
          constructor
          · intro matched
            cases characters <;> cases matched
          · rintro ⟨_, _, ⟨⟩, _⟩

example : matchesPattern "50%_off" "%\\%__ff" = true := by decide

example : matchesPattern "50%\\" "50%\\" = false := by decide

end Text
end RelationalApi
