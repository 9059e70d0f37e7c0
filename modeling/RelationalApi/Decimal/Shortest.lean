/-!
# Shortest decimals of binary fractions

A finite double is `mantissa * 2 ^ exponent`.  Among the decimals that read back to it, those with
the fewest digits are wanted, and among these the nearest.  For each number of digits only the two
neighbours of the value on that decimal grid have to be looked at, and the first grid on which one
of them reads back is taken.  All arithmetic is on natural numbers.

The reals that read back to a double form an interval around it.  It ends halfway to the two
neighbouring doubles, and its ends belong to it exactly when the mantissa is even.
-/

namespace RelationalApi
namespace Decimal

/-- A positive double as `mantissa * 2 ^ exponent`. -/
structure Binary where
  mantissa : Nat
  exponent : Int
  deriving Repr, DecidableEq

/-- Which of two equally near decimals is taken. -/
inductive Tie where
  | even
  | up
  deriving Repr, DecidableEq

/-- The decimal `coefficient * 10 ^ exponent`. -/
structure Scaled where
  coefficient : Nat
  exponent : Int
  deriving Repr, DecidableEq

/-- The mantissa and exponent in the bits of a finite double, its sign dropped. -/
def Binary.ofBits (bits : UInt64) : Binary :=
  let fraction : Nat := bits.toNat % Nat.pow 2 52
  let biased : Nat := bits.toNat / Nat.pow 2 52 % Nat.pow 2 11
  if biased = 0 then ⟨fraction, -1074⟩ else ⟨Nat.pow 2 52 + fraction, (biased : Int) - 1075⟩

/-- Whether the double below is only half as far away as the one above. -/
def Binary.isLowerGapHalved (value : Binary) : Bool :=
  value.mantissa == Nat.pow 2 52 && -1074 < value.exponent

/-- Powers of two and ten that turn quarters of the mantissa's unit, and steps of the grid
`10 ^ gridExponent`, into whole numbers of one common measure. -/
def commonMeasure (value : Binary) (gridExponent : Int) : Nat × Nat :=
  let quarterExponent := value.exponent - 2
  (Nat.pow 2 quarterExponent.toNat * Nat.pow 10 (-gridExponent).toNat,
    Nat.pow 2 (-quarterExponent).toNat * Nat.pow 10 gridExponent.toNat)

/-- The number of decimal digits in front of the point, or minus the number of zeros behind it:
the least `e` with `value < 10 ^ e`, looked for upwards from `start`. -/
def decimalMagnitude (value : Binary) (start : Int) : Nat → Int
  | 0 => start
  | fuel + 1 =>
    let (quarter, step) := commonMeasure value start
    if 4 * value.mantissa * quarter < step then start
    else decimalMagnitude value (start + 1) fuel

/-- The decimal exponent next to which the magnitude of a positive double lies. -/
def Binary.magnitude (value : Binary) : Int :=
  let binaryMagnitude : Int := value.mantissa.log2 + value.exponent
  decimalMagnitude value (binaryMagnitude * 30103 / 100000 - 1) 4

/-- The nearest of the two neighbours on the grid `10 ^ gridExponent` that read back. -/
def onGrid (tie : Tie) (value : Binary) (gridExponent : Int) : Option Nat :=
  let (quarter, step) := commonMeasure value gridExponent
  let exact := 4 * value.mantissa * quarter
  let low := (4 * value.mantissa - if value.isLowerGapHalved then 1 else 2) * quarter
  let high := (4 * value.mantissa + 2) * quarter
  let closed := value.mantissa % 2 == 0
  let readsBack (coefficient : Nat) : Bool :=
    let point := coefficient * step
    if closed then low ≤ point && point ≤ high else low < point && point < high
  let below := exact / step
  let remainder := exact % step
  match readsBack below, readsBack (below + 1) with
  | false, false => none
  | true, false => some below
  | false, true => some (below + 1)
  | true, true =>
    if 2 * remainder < step then some below
    else if step < 2 * remainder then some (below + 1)
    else match tie with
      | .up => some (below + 1)
      | .even => some (if below % 2 = 0 then below else below + 1)

/-- The first grid with at least `digits` digits on which a neighbour reads back. -/
def firstOnGrid (tie : Tie) (value : Binary) (magnitude : Int) (digits : Nat) : Nat → Scaled
  | 0 => ⟨0, 0⟩
  | fuel + 1 =>
    match onGrid tie value (magnitude - digits) with
    | some coefficient => ⟨coefficient, magnitude - digits⟩
    | none => firstOnGrid tie value magnitude (digits + 1) fuel

/-- The shortest decimal that reads back to a positive double; seventeen digits always do. -/
def shortest (tie : Tie) (value : Binary) : Scaled :=
  firstOnGrid tie value value.magnitude 1 17

end Decimal
end RelationalApi
