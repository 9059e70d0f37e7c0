import RelationalApi.Text.Run

/-!
# White space

The Unicode property `White_Space` (twenty-five code points) and the removal of white space at
the ends of a text.  Nothing else counts as blank: neither the zero width space nor the byte
order mark has the property.
-/

namespace RelationalApi
namespace Text

/-- The runs of the property `White_Space`. -/
def blankRuns : List Run :=
  [⟨0x9, 0xD, 1⟩, ⟨0x20, 0x20, 1⟩, ⟨0x85, 0x85, 1⟩, ⟨0xA0, 0xA0, 1⟩, ⟨0x1680, 0x1680, 1⟩,
    ⟨0x2000, 0x200A, 1⟩, ⟨0x2028, 0x2029, 1⟩, ⟨0x202F, 0x202F, 1⟩, ⟨0x205F, 0x205F, 1⟩,
    ⟨0x3000, 0x3000, 1⟩]

/-- A character with the property `White_Space`. -/
def isBlank (character : Char) : Bool :=
  inRuns blankRuns character

/-- The characters without the blanks in front of them. -/
def trimFront (characters : List Char) : List Char :=
  characters.dropWhile isBlank

/-- The characters without the blanks behind them. -/
def trimBack (characters : List Char) : List Char :=
  (characters.reverse.dropWhile isBlank).reverse

/-- The characters without blanks at either end. -/
def trimBlanks (characters : List Char) : List Char :=
  trimBack (trimFront characters)

/-- The text without blanks at either end. -/
def trim (text : String) : String :=
  String.ofList (trimBlanks text.toList)

@[simp] theorem trimFront_nil : trimFront [] = [] := rfl

@[simp] theorem trimBlanks_nil : trimBlanks [] = [] := rfl

end Text
end RelationalApi
