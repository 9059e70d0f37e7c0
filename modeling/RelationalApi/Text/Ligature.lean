import RelationalApi.Text.Breadth

/-!
# Ligatures

Some letters are drawn as one shape with the letters before them and then take fewer columns than
apart.  A line is measured from its end, so a ligature is first met in its last letter, and the
question is what the character before it adds.
-/

namespace RelationalApi
namespace Text

/-- The ends of ligatures: a last letter, or a last letter with a part of the shape before it. -/
inductive Ligature where
  /-- The Arabic letter alef in any of its forms. -/
  | alef
  /-- The Hebrew letter lamed. -/
  | lamed
  /-- The Buginese letter ya. -/
  | ya
  /-- The Buginese letter ya with the vowel sign i and a joiner before it. -/
  | vowelYa
  /-- A Tifinagh consonant. -/
  | consonant
  /-- A Tifinagh consonant with the consonant joiner before it. -/
  | boundConsonant
  /-- The Lisu tone letters mya na and mya jeu. -/
  | lisuTone
  /-- The Old Turkic letter Orkhon i. -/
  | orkhonI
  /-- A Khmer letter that takes a form below the letter before it. -/
  | subscript
  deriving Repr, DecidableEq

/-- The forms of alef. -/
def alefRuns : List Run :=
  [⟨0x622, 0x623, 1⟩, ⟨0x625, 0x627, 2⟩, ⟨0x671, 0x673, 1⟩, ⟨0x675, 0x675, 1⟩,
    ⟨0x773, 0x774, 1⟩, ⟨0x870, 0x882, 1⟩]

/-- The forms of lam, which joins an alef behind it. -/
def lamRuns : List Run :=
  [⟨0x644, 0x644, 1⟩, ⟨0x6B5, 0x6B8, 1⟩, ⟨0x76A, 0x76A, 1⟩, ⟨0x8A6, 0x8A6, 1⟩,
    ⟨0x8C7, 0x8C7, 1⟩]

/-- The Tifinagh consonants. -/
def consonantRuns : List Run :=
  [⟨0x2D31, 0x2D65, 1⟩, ⟨0x2D6F, 0x2D6F, 1⟩]

/-- The Khmer letters that have a form below other letters. -/
def subscriptRuns : List Run :=
  [⟨0x1780, 0x1782, 1⟩, ⟨0x1784, 0x1787, 1⟩, ⟨0x1789, 0x178C, 1⟩, ⟨0x178E, 0x1793, 1⟩,
    ⟨0x1795, 0x1798, 1⟩, ⟨0x179B, 0x179D, 1⟩, ⟨0x17A0, 0x17A2, 2⟩, ⟨0x17A7, 0x17A7, 1⟩,
    ⟨0x17AB, 0x17AC, 1⟩, ⟨0x17AF, 0x17AF, 1⟩]

/-- The Lisu tone letters that another tone letter can stand before. -/
def toneRuns : List Run :=
  [⟨0xA4FC, 0xA4FD, 1⟩]

/-- The Lisu tone letters that can stand before another one. -/
def leadingToneRuns : List Run :=
  [⟨0xA4F8, 0xA4FB, 1⟩]

/-- The marks without a shape over which letters form ligatures, besides the joiner. -/
def shapelessRuns : List Run :=
  [⟨0x34F, 0x34F, 1⟩, ⟨0x17B4, 0x17B5, 1⟩, ⟨0x180B, 0x180D, 1⟩, ⟨0x180F, 0x180F, 1⟩,
    ⟨0xFE00, 0xFE0F, 1⟩, ⟨0xE0100, 0xE01EF, 1⟩]

/-- The character that asks its neighbours to join. -/
def joiner : Char := '\u200d'

namespace Ligature

/-- The last letters of ligatures. -/
def lastLetters : List (List Run × Ligature) :=
  [(alefRuns, alef), ([⟨0x5DC, 0x5DC, 1⟩], lamed), ([⟨0x1A10, 0x1A10, 1⟩], ya),
    (consonantRuns, consonant), (toneRuns, lisuTone), ([⟨0x10C03, 0x10C03, 1⟩], orkhonI),
    (subscriptRuns, subscript)]

/-- The ligature whose last letter a character may be. -/
def of? (character : Char) : Option Ligature :=
  (lastLetters.find? fun entry => inRuns entry.1 character).map (·.2)

/-- The columns that a character adds before a ligature, and the ligature that may go on before
it; nothing if the character does not take part.  `joined` says that a joiner stands between. -/
def before? (ligature : Ligature) (joined : Bool) (character : Char) :
    Option (Int × Option Ligature) :=
  let complete (columns : Int) (isPart : Bool) : Option (Int × Option Ligature) :=
    if isPart then some (columns, none) else none
  match ligature with
  | alef =>
    if inRuns lamRuns character then some (0, none)
    else if isJoinedOver character then some (0, some alef)
    else none
  | lamed => complete 0 (joined && character.toNat == 0x5D0)
  | ya => if joined && character.toNat == 0x1A17 then some (0, some vowelYa) else none
  | vowelYa => complete 0 (character.toNat == 0x1A15)
  | consonant =>
    if character.toNat = 0x2D7F then some (1, some boundConsonant)
    else complete 0 (joined && inRuns consonantRuns character)
  | boundConsonant => complete (-1) (inRuns consonantRuns character)
  | lisuTone => complete 0 (inRuns leadingToneRuns character)
  | orkhonI => complete 0 (joined && character.toNat == 0x10C32)
  | subscript => complete (-1) (character.toNat == 0x17D2)

/-- A mark without a shape, over which the letters of a ligature join.  Before alef, all marks that
take no column are joined over, which `before?` decides. -/
def isShapeless (ligature : Ligature) (character : Char) : Bool :=
  ligature != alef && (character == joiner || inRuns shapelessRuns character)

end Ligature
end Text
end RelationalApi
