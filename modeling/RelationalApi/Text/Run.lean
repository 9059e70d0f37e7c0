/-!
# Runs of code points

A Unicode property is written as a short list of runs.  A run has a first and a last code point
and a step, so that alphabets in which capital and small letters alternate stay short as well.
-/

namespace RelationalApi
namespace Text

/-- The code points `first`, `first + step`, … up to `last`. -/
structure Run where
  first : Nat
  last : Nat
  step : Nat := 1
  deriving Repr, DecidableEq

/-- Membership of a code point in one run. -/
def Run.contains (run : Run) (codePoint : Nat) : Bool :=
  run.first ≤ codePoint && codePoint ≤ run.last && (codePoint - run.first) % run.step == 0

/-- Membership of a character in a property given by its runs. -/
def inRuns (runs : List Run) (character : Char) : Bool :=
  runs.any fun run => run.contains character.toNat

end Text
end RelationalApi
