import RelationalApi.Text.Emoji
import RelationalApi.Text.Ligature

/-!
# Display width

The number of columns that a line takes on a terminal.  Every character adds its breadth, unless
the characters behind it make it a part of one shape with them: a ligature, a flag, a picture with
a style or a tone of skin, or a picture joined with others.  So a line is measured from its end,
and what stands behind a character is remembered as far as it matters.
-/

namespace RelationalApi
namespace Text

/-- What stands directly behind a place of a line. -/
inductive Link where
  /-- Nothing that the character before it can join. -/
  | nothing
  /-- The end of a ligature, and whether a joiner stands before it. -/
  | ligature (ligature : Ligature) (joined : Bool)
  /-- The Kirat Rai vowel sign e. -/
  | vowelE
  /-- The Kirat Rai vowel sign ai. -/
  | vowelAi
  /-- The selector for the wide form of quotation marks. -/
  | wideQuote
  /-- A tone of skin. -/
  | tone
  /-- One letter of a flag. -/
  | flagLetter
  /-- Two or more letters of flags. -/
  | flagLetters
  /-- A picture. -/
  | picture
  /-- A joiner before a picture. -/
  | joinedPicture
  /-- The frame of a key before a joiner and a picture. -/
  | joinedKey
  /-- One letter of a flag before a joiner and a picture. -/
  | joinedLetter
  /-- An even number of letters of flags before a joiner and a picture. -/
  | evenLetters
  /-- An odd number of letters of flags, more than one, before a joiner and a picture. -/
  | oddLetters
  /-- The end of a flag of a region before a joiner and a picture, with the number of letters and
  of digits of the region read so far. -/
  | region (letters digits : Nat)
  deriving Repr, DecidableEq

/-- What stands behind a place of a line, with the selectors that ask for a style. -/
structure Context where
  link : Link := .nothing
  /-- The selector for pictures stands behind the place. -/
  pictureStyle : Bool := false
  /-- The selector for text stands behind the place. -/
  textStyle : Bool := false
  deriving Repr, DecidableEq

/-- The selector for pictures. -/
def pictureSelector : Char := '\ufe0f'

/-- The selector for text. -/
def textSelector : Char := '\ufe0e'

/-- The quotation marks that have a wide form. -/
def quoteRuns : List Run :=
  [⟨0x2018, 0x2019, 1⟩, ⟨0x201C, 0x201D, 1⟩]

/-- The tags that stand for letters of a region. -/
def letterTagRun : Run := ⟨0xE0061, 0xE007A, 1⟩

/-- The tags that stand for digits of a region. -/
def digitTagRun : Run := ⟨0xE0030, 0xE0039, 1⟩

namespace Link

/-- What a character opens that joins nothing behind it. -/
def opened (character : Char) : Link :=
  match Ligature.of? character with
  | some part => ligature part false
  | none =>
    if character.toNat = 0x16D67 then vowelE
    else if character.toNat = 0x16D68 then vowelAi
    else if character.toNat = 0xFE01 then wideQuote
    else if isFlagLetter character then flagLetter
    else if isTone character then tone
    else if isPicture character then picture
    else nothing

/-- Whether selectors leave a link as it is. -/
def outlastsSelectors : Link → Bool
  | ligature _ _ => true
  | _ => false

/-- Whether a picture of the selected style is joined with another picture. -/
def isJoined : Link → Bool
  | joinedPicture => true
  | joinedKey => true
  | _ => false

/-- What a character adds before a joiner and a picture. -/
def beforeJoined? (character : Char) : Option (Int × Link) :=
  if character = '\u20e3' then some (0, joinedKey)
  else if isFlagLetter character then some (1, joinedLetter)
  else if isTone character then some (0, tone)
  else if character.toNat = 0xE007F then some (0, region 0 0)
  else if isPicture character then some (0, picture)
  else none

/-- What a character adds inside the flag of a region: a black flag, then three to six letters,
or up to four letters and three digits. -/
def beforeRegion? (letters digits : Nat) (character : Char) : Option (Int × Link) :=
  if letterTagRun.contains character.toNat && digits = 0 && letters < 6 then
    some (0, region (letters + 1) 0)
  else if digitTagRun.contains character.toNat && letters ≤ 4 && digits < 3 then
    some (0, region letters (digits + 1))
  else if character.toNat = 0x1F3F4 && (digits = 3 || (digits = 0 && 3 ≤ letters)) then
    some (0, picture)
  else none

/-- What a character adds before a Kirat Rai vowel sign.  Signs that are made of others take the
columns of one. -/
def beforeVowelE? (character : Char) : Option (Int × Link) :=
  if character.toNat = 0x16D63 then some (0, nothing)
  else if character.toNat = 0x16D67 then some (0, vowelAi)
  else if character.toNat = 0x16D68 then some (1, vowelE)
  else if character.toNat = 0x16D69 then some (0, nothing)
  else none

/-- What a character adds before a ligature. -/
def beforeLigature? (part : Ligature) (joined : Bool) (character : Char) :
    Option (Int × Link) :=
  if part.isShapeless character then
    some (0, ligature part (joined || character == joiner))
  else
    (part.before? joined character).map fun (columns, rest) =>
      (columns, rest.elim nothing fun rest => ligature rest false)

/-- The columns that a character adds as a part of one shape with what stands behind it, and what
then stands behind the character before it; nothing if it joins nothing. -/
def before? (link : Link) (character : Char) : Option (Int × Link) :=
  let complete (columns : Int) (next : Link) (isPart : Bool) : Option (Int × Link) :=
    if isPart then some (columns, next) else none
  let picture? : Option (Int × Link) := complete 0 joinedPicture (character == joiner)
  match link with
  | nothing => none
  | ligature part joined => beforeLigature? part joined character
  | vowelE => beforeVowelE? character
  | vowelAi => complete 0 nothing (character.toNat == 0x16D63)
  | wideQuote => complete 2 nothing (inRuns quoteRuns character)
  | tone => (complete 0 picture (takesTone character)).or picture?
  | flagLetter => complete 1 flagLetters (isFlagLetter character)
  | flagLetters => (complete 1 flagLetters (isFlagLetter character)).or picture?
  | picture => picture?
  | joinedPicture => beforeJoined? character
  | joinedKey => none
  | joinedLetter => complete (-1) evenLetters (isFlagLetter character)
  | evenLetters => (complete 3 oddLetters (isFlagLetter character)).or picture?
  | oddLetters => (complete (-1) evenLetters (isFlagLetter character)).or picture?
  | region letters digits => beforeRegion? letters digits character

end Link

namespace Context

/-- The context behind a selector for pictures. -/
def withPictureStyle (context : Context) : Context :=
  if context.link.outlastsSelectors then { context with pictureStyle := true }
  else if context.link.isJoined then { link := context.link, pictureStyle := true }
  else { pictureStyle := true }

/-- The context behind a selector for text. -/
def withTextStyle (context : Context) : Context :=
  if context.link.outlastsSelectors then { context with textStyle := true }
  else { textStyle := true }

/-- The context in which a selector for pictures stands behind a character that has no picture. -/
def withoutPictureStyle (context : Context) : Context :=
  if context.pictureStyle then
    if context.link.outlastsSelectors then { context with pictureStyle := false } else {}
  else context

/-- The columns of a character before a context without a selector for pictures, and the context
of the character before it. -/
def beforePlain (context : Context) (character : Char) : Int × Context :=
  if character ≤ '\u00a0' then (1, {})
  else if character = pictureSelector then (0, context.withPictureStyle)
  else if character = textSelector then (0, context.withTextStyle)
  else if context.textStyle && becomesSign character then (1, {})
  else
    let (columns, link) :=
      (context.link.before? character).getD (breadth character, .opened character)
    (columns, { link })

/-- The columns of a character before a context, and the context of the character before it. -/
def before (context : Context) (character : Char) : Int × Context :=
  if context.pictureStyle && becomesPicture character then
    (if context.link.isJoined then 0 else 2, { link := .picture })
  else context.withoutPictureStyle.beforePlain character

end Context

/-- The columns of characters, and the context of the character before them. -/
def measure : List Char → Int × Context
  | [] => (0, {})
  | character :: rest =>
    let (columns, context) := measure rest
    let (own, context) := context.before character
    (own + columns, context)

/-- The number of columns that a line takes. -/
def width (line : String) : Nat :=
  (measure line.toList).1.toNat

end Text
end RelationalApi
