import ScriptTree.Number.Rounding
import ScriptTree.Text.DecimalDigit

/-!
# Binary floating-point numbers of 64 bits

A finite number is a sign and a magnitude, which counts units of `2 ^ -1074`, the smallest
positive number of the format. Every operation computes the exact result, a quotient of natural
numbers, and rounds it once: `ofRatio`.
-/

namespace ScriptTree.Number
set_option autoImplicit false

/-- The place of the binary point: a magnitude counts units of `2 ^ -unitPlace`. -/
def unitPlace : Nat := 1074

/-- The magnitudes of finite numbers lie below this many units. -/
def unitLimit : Nat := Nat.pow 2 (1024 + unitPlace)

theorem unitLimit_pos : 0 < unitLimit := by
  unfold unitLimit
  generalize 1024 + unitPlace = place
  exact Nat.two_pow_pos place

/-- The magnitude of a finite number, in units of `2 ^ -1074`. -/
structure Magnitude where
  units : Nat
  fits : Fits units
  bounded : units < unitLimit
deriving DecidableEq

/-- A binary floating-point number of 64 bits; all that is not a number is one value. -/
inductive Binary64 where
  | nan
  | infinity (negative : Bool)
  | finite (negative : Bool) (magnitude : Magnitude)
deriving DecidableEq

namespace Binary64

/-- The number nearest to the quotient `n / d`, with a sign. -/
def ofRatio (negative : Bool) (n d : Nat) : Binary64 :=
  if bounded : roundToFit (n * Nat.pow 2 unitPlace) d < unitLimit then
    .finite negative ⟨roundToFit (n * Nat.pow 2 unitPlace) d, fits_roundToFit _ _, bounded⟩
  else
    .infinity negative

/-- The number nearest to a natural number. -/
def ofNat (n : Nat) : Binary64 :=
  ofRatio false n 1

/-- The number nearest to an integer. -/
def ofInt (n : Int) : Binary64 :=
  ofRatio (decide (n < 0)) n.natAbs 1

/-- Zero with a sign. -/
def zero (negative : Bool) : Binary64 :=
  .finite negative ⟨0, ⟨0, 0, by decide, rfl⟩, unitLimit_pos⟩

/-- The number nearest to `digits * 10 ^ exponent`, with a sign. Far outside of the range of the
format the power of ten is not computed. -/
def ofDecimal (negative : Bool) (digits : Nat) (exponent : Int) : Binary64 :=
  let places : Int := (Text.decimalDigits digits).length + exponent
  if digits = 0 then zero negative
  else if 310 < places then .infinity negative
  else if places < -330 then zero negative
  else ofRatio negative (digits * Nat.pow 10 exponent.toNat) (Nat.pow 10 (-exponent).toNat)

/-- A power of ten, rounded. -/
def powerOfTen (k : Nat) : Binary64 :=
  ofNat (Nat.pow 10 k)

/-- The number with the other sign. -/
def negate : Binary64 → Binary64
  | .nan => .nan
  | .infinity s => .infinity (!s)
  | .finite s m => .finite (!s) m

/-- The number with a sign put before it. -/
def withSign (negative : Bool) (x : Binary64) : Binary64 :=
  if negative then x.negate else x

/-- The product, rounded. -/
def mul : Binary64 → Binary64 → Binary64
  | .finite s a, .finite t b => ofRatio (s != t) (a.units * b.units) (Nat.pow 2 (2 * unitPlace))
  | .infinity s, .infinity t => .infinity (s != t)
  | .infinity s, .finite t b => if b.units = 0 then .nan else .infinity (s != t)
  | .finite s a, .infinity t => if a.units = 0 then .nan else .infinity (s != t)
  | _, _ => .nan

/-- The quotient, rounded. -/
def div : Binary64 → Binary64 → Binary64
  | .finite s a, .finite t b =>
    if b.units = 0 then if a.units = 0 then .nan else .infinity (s != t)
    else ofRatio (s != t) a.units b.units
  | .infinity s, .finite t _ => .infinity (s != t)
  | .finite s _, .infinity t => zero (s != t)
  | _, _ => .nan

/-- Equality of numbers: the two zeros are equal, and what is not a number differs from all. -/
def same : Binary64 → Binary64 → Bool
  | .infinity s, .infinity t => s == t
  | .finite s a, .finite t b => a.units == b.units && (s == t || a.units == 0)
  | _, _ => false

/-- One of the two zeros. -/
def isZero : Binary64 → Bool
  | .finite _ m => m.units == 0
  | _ => false

/-- The sign; what is not a number has none. -/
def isNegative : Binary64 → Bool
  | .nan => false
  | .infinity s => s
  | .finite s _ => s

/-- One of the two infinities. -/
def isInfinite : Binary64 → Bool
  | .infinity _ => true
  | _ => false

/-- The format's word without its sign bit: the exponent field and the fraction follow from the
place of the leading digit. -/
def magnitudeWord (units : Nat) : Nat :=
  lastPlace units * Nat.pow 2 52 + units / Nat.pow 2 (lastPlace units)

/-- The word of 64 bits; `none` for what is not a number, which has many words. -/
def toWord? : Binary64 → Option Nat
  | .nan => none
  | .infinity s => some ((if s then Nat.pow 2 63 else 0) + 2047 * Nat.pow 2 52)
  | .finite s m => some ((if s then Nat.pow 2 63 else 0) + magnitudeWord m.units)

end Binary64

namespace Magnitude

/-- The integral part. -/
def floor (m : Magnitude) : Nat :=
  m.units / Nat.pow 2 unitPlace

/-- A magnitude without a fractional part. -/
def isIntegral (m : Magnitude) : Bool :=
  m.units % Nat.pow 2 unitPlace == 0

end Magnitude

end ScriptTree.Number
