import ScriptTree.Number.Binary64

/-!
# The shortest decimal that reads back

A decimal reads back as a number if the number is the one nearest to it. `Magnitude.shortest`
gives the decimal with the fewest digits that reads back, of several such the nearest, and at
equal distance the one with the even last digit. A `Layout` says how a decimal is written.
-/

namespace ScriptTree.Number
set_option autoImplicit false

/-- The number `significand * 10 ^ exponent`. -/
structure Decimal where
  significand : Nat
  exponent : Int
deriving DecidableEq, Repr

namespace Magnitude

/-- The ends of the interval of numbers that round to this magnitude, in quarters of a unit. The
interval is narrower below a power of two. -/
def ends (m : Magnitude) : Nat × Nat :=
  let gap := Nat.pow 2 (lastPlace m.units)
  let below := if m.units = Nat.pow 2 52 * gap ∧ 1 < gap then gap else 2 * gap
  (4 * m.units - below, 4 * m.units + 2 * gap)

/-- The ends themselves round to this magnitude if its last digit is even. -/
def closed (m : Magnitude) : Bool :=
  m.units / Nat.pow 2 (lastPlace m.units) % 2 == 0

/-- A decimal that reads back as this magnitude. -/
def covers (m : Magnitude) (d : Decimal) : Bool :=
  let quarters := d.significand * Nat.pow 10 d.exponent.toNat * Nat.pow 2 (unitPlace + 2)
  let scale := Nat.pow 10 (-d.exponent).toNat
  let low := m.ends.1 * scale
  let high := m.ends.2 * scale
  if m.closed then low ≤ quarters && quarters ≤ high else low < quarters && quarters < high

/-- The decimal with its last digit at the place `exponent` that reads back as this magnitude, if
there is one: one of the two neighbours of the magnitude on that grid. -/
def onGrid? (m : Magnitude) (exponent : Int) : Option Decimal :=
  let num := m.units * Nat.pow 10 (-exponent).toNat
  let den := Nat.pow 2 unitPlace * Nat.pow 10 exponent.toNat
  let lower : Decimal := ⟨num / den, exponent⟩
  let upper : Decimal := ⟨num / den + 1, exponent⟩
  match m.covers lower, m.covers upper with
  | true, true => some ⟨roundQuotient num den, exponent⟩
  | true, false => some lower
  | false, true => some upper
  | false, false => none

/-- A power of ten above this magnitude, by its exponent. -/
def decimalPlace (m : Magnitude) : Int :=
  ((m.units.log2 : Int) + 1 - unitPlace) * 30103 / 100000 + 2

/-- The shortest decimal that reads back: the grids are tried from the coarse to the fine, and
seventeen digits always suffice. -/
def shortest (m : Magnitude) : Decimal :=
  if m.units = 0 then ⟨0, 0⟩
  else ((List.range 24).findSome? fun i : Nat => m.onGrid? (m.decimalPlace - i)).getD ⟨0, 0⟩

end Magnitude

/-- How a decimal is written: positionally if the exponent of its first digit lies between two
bounds, and with an exponent otherwise. A positional integer is followed by `wholeEnd`. -/
structure Layout where
  least : Int
  most : Int
  wholeEnd : List Char

namespace Decimal

/-- The exponent of the first digit. -/
def leading (d : Decimal) : Int :=
  d.exponent + (Text.decimalDigits d.significand).length - 1

/-- The decimal in positional form. -/
def positional (d : Decimal) (wholeEnd : List Char) : List Char :=
  let digits := Text.decimalDigits d.significand
  if 0 ≤ d.exponent then
    digits ++ List.replicate d.exponent.toNat '0' ++ wholeEnd
  else if 0 ≤ d.leading then
    digits.take (d.leading.toNat + 1) ++ '.' :: digits.drop (d.leading.toNat + 1)
  else
    '0' :: '.' :: List.replicate ((-d.leading).toNat - 1) '0' ++ digits

/-- The decimal with an exponent, which always has a sign. -/
def scientific (d : Decimal) : List Char :=
  let mantissa :=
    match Text.decimalDigits d.significand with
    | first :: second :: rest => first :: '.' :: second :: rest
    | digits => digits
  mantissa ++ ['e', if d.leading < 0 then '-' else '+'] ++ Text.decimalDigits d.leading.natAbs

/-- The decimal as a layout has it. -/
def write (l : Layout) (d : Decimal) : List Char :=
  if l.least ≤ d.leading ∧ d.leading ≤ l.most then d.positional l.wholeEnd else d.scientific

end Decimal

/-- The text of a magnitude: the shortest decimal that reads back, as a layout has it. -/
def Magnitude.write (l : Layout) (m : Magnitude) : List Char :=
  m.shortest.write l

end ScriptTree.Number
