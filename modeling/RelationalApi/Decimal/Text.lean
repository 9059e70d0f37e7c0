import RelationalApi.Decimal.Shortest

/-!
# Decimal text of doubles

A style says how the digits of a double are laid out: up to which magnitudes the notation is
positional, whether a whole number keeps a zero behind the point, and how ties between two
shortest decimals are broken.  Two styles are used, one for documents and one for decimal columns.
-/

namespace RelationalApi
namespace Decimal

/-- The layout decisions of a decimal notation. -/
structure Style where
  tie : Tie
  /-- The magnitudes written positionally, or all of them. -/
  positional : Option (Int × Int)
  /-- Whether a whole number ends in a point and a zero. -/
  keepsPoint : Bool

/-- Documents write magnitudes from minus four to sixteen positionally, always with a point, and
others with a signed exponent; ties go to the even digit. -/
def documentStyle : Style := ⟨.even, some (-4, 16), true⟩

/-- Decimal columns never use an exponent, write whole numbers without a point, and round ties
up. -/
def columnStyle : Style := ⟨.up, none, false⟩

/-- The digits of a positive number without the zeros at its end, and the magnitude `e` of the
number read as `0.ddd * 10 ^ e`. -/
def significantDigits (scaled : Scaled) : List Char × Int :=
  let digits := Nat.toDigits 10 scaled.coefficient
  ((digits.reverse.dropWhile (· == '0')).reverse, scaled.exponent + digits.length)

/-- Positional notation of `0.ddd * 10 ^ magnitude`. -/
def positionalText (keepsPoint : Bool) (digits : List Char) (magnitude : Int) : List Char :=
  if magnitude ≤ 0 then
    "0.".toList ++ List.replicate (-magnitude).toNat '0' ++ digits
  else if digits.length ≤ magnitude.toNat then
    digits ++ List.replicate (magnitude.toNat - digits.length) '0' ++
      (if keepsPoint then ".0".toList else [])
  else digits.take magnitude.toNat ++ '.' :: digits.drop magnitude.toNat

/-- Notation with one digit before the point and a signed exponent. -/
def exponentText (digits : List Char) (magnitude : Int) : List Char :=
  let exponent := magnitude - 1
  let sign := if exponent < 0 then '-' else '+'
  let mantissa := match digits with
    | [] => ['0']
    | [digit] => [digit]
    | digit :: others => digit :: '.' :: others
  mantissa ++ 'e' :: sign :: Nat.toDigits 10 exponent.natAbs

/-- The text of a double in a style. -/
def Style.format (style : Style) (value : Float) : String :=
  if value.isNaN then "NaN"
  else
    let sign := if value.toBits.toNat < Nat.pow 2 63 then [] else ['-']
    if value.isInf then String.ofList (sign ++ "inf".toList)
    else
      let binary := Binary.ofBits value.toBits
      let text :=
        if binary.mantissa = 0 then
          if style.keepsPoint then "0.0".toList else ['0']
        else
          let (digits, magnitude) := significantDigits (shortest style.tie binary)
          match style.positional with
          | some (least, greatest) =>
            if least ≤ magnitude && magnitude ≤ greatest then
              positionalText style.keepsPoint digits magnitude
            else exponentText digits magnitude
          | none => positionalText style.keepsPoint digits magnitude
      String.ofList (sign ++ text)

end Decimal
end RelationalApi
