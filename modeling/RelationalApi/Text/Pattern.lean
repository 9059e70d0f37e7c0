/-!
# Text patterns

The patterns of the `like` operators.  A pattern is read from left to right as tokens: `%` stands
for any characters, `_` for exactly one, a backslash makes the next character stand for itself,
and every other character stands for itself.  A backslash at the end of a pattern is a token that
nothing matches.
-/

namespace RelationalApi
namespace Text

/-- One token of a pattern. -/
inductive PatternToken where
  | anyCharacters
  | anyCharacter
  | literal (character : Char)
  | danglingEscape
  deriving Repr, DecidableEq

/-- Reads a pattern as tokens. -/
def patternTokens : List Char → List PatternToken
  | [] => []
  | '%' :: rest => .anyCharacters :: patternTokens rest
  | '_' :: rest => .anyCharacter :: patternTokens rest
  | '\\' :: character :: rest => .literal character :: patternTokens rest
  | '\\' :: [] => [.danglingEscape]
  | character :: rest => .literal character :: patternTokens rest

/-- Whether some end of the characters, the whole and the empty one included, passes a test. -/
def anySuffix (test : List Char → Bool) : List Char → Bool
  | [] => test []
  | character :: rest => test (character :: rest) || anySuffix test rest

/-- Whether the tokens match all of the characters. -/
def matchTokens : List PatternToken → List Char → Bool
  | [], characters => characters.isEmpty
  | .anyCharacters :: tokens, characters => anySuffix (matchTokens tokens) characters
  | .anyCharacter :: tokens, _ :: characters => matchTokens tokens characters
  | .literal expected :: tokens, character :: characters =>
    expected == character && matchTokens tokens characters
  | _ :: _, _ => false

/-- Whether a text matches a pattern as a whole. -/
def matchesPattern (text pattern : String) : Bool :=
  matchTokens (patternTokens pattern.toList) text.toList

@[simp] theorem matchTokens_nil (characters : List Char) :
    matchTokens [] characters = characters.isEmpty := rfl

@[simp] theorem matchTokens_anyCharacters (tokens : List PatternToken) (characters : List Char) :
    matchTokens (.anyCharacters :: tokens) characters =
      anySuffix (matchTokens tokens) characters := by
  cases characters <;> rfl

end Text
end RelationalApi
