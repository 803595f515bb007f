import ScriptTree.Number.Binary64
import ScriptTree.Text.Blank

/-!
# The number that a text stands for

The text of a numeric literal is a decimal number, a number of base sixteen, eight or two behind
`0x`, `0o` or `0b`, or a signed `Infinity`; blanks around it do not count, and nothing at all is
zero. Any other text is not a number. A decimal number is rounded once. The digits of another base
are taken one by one, and every step is rounded.
-/

namespace ScriptTree.Build
set_option autoImplicit false
open Number

/-- The value of a digit in a base up to sixteen. -/
def radixDigit? (radix : Nat) (c : Char) : Option Nat :=
  let value? : Option Nat :=
    if '0' ≤ c ∧ c ≤ '9' then some (c.toNat - '0'.toNat)
    else if 'a' ≤ c ∧ c ≤ 'z' then some (c.toNat - 'a'.toNat + 10)
    else if 'A' ≤ c ∧ c ≤ 'Z' then some (c.toNat - 'A'.toNat + 10)
    else none
  value?.filter (· < radix)

/-- One more digit after a number: the product and the sum are rounded to 53 binary digits. -/
def appendDigit (radix n digit : Nat) : Nat :=
  roundToFit (roundToFit (n * radix) 1 + digit) 1

/-- The number that one or more digits of a base spell. -/
def ofRadix (radix : Nat) (digits : List Char) : Binary64 :=
  if digits.isEmpty then .nan
  else
    match digits.mapM (radixDigit? radix) with
    | none => .nan
    | some values => .ofNat (values.foldl (appendDigit radix) 0)

/-- A decimal number without sign: the digits before and after the point, and the exponent. -/
structure DecimalText where
  whole : List Char
  fraction : List Char
  exponent : Int
deriving DecidableEq

/-- Takes a sign off the front of a text; `true` is minus. -/
def splitSign : List Char → Bool × List Char
  | '-' :: rest => (true, rest)
  | '+' :: rest => (false, rest)
  | cs => (false, cs)

/-- The value of an exponent, which is the whole text. -/
def exponent? (cs : List Char) : Option Int :=
  let digits := (splitSign cs).2
  if digits.isEmpty ∨ !digits.all Char.isDigit then none
  else
    let n : Int := Text.decimalValue digits
    some (if (splitSign cs).1 then -n else n)

/-- The exponent at the end of a decimal number: none at all is zero. -/
def exponentPart? : List Char → Option Int
  | [] => some 0
  | c :: rest => if c = 'e' ∨ c = 'E' then exponent? rest else none

/-- The digits after the point, if there is one, and what follows them. -/
def fractionPart : List Char → List Char × List Char
  | '.' :: rest => (rest.takeWhile Char.isDigit, rest.dropWhile Char.isDigit)
  | cs => ([], cs)

/-- A decimal number with at least one digit before or after the point. -/
def DecimalText.ofChars? (cs : List Char) : Option DecimalText := do
  let whole := cs.takeWhile Char.isDigit
  let (fraction, rest) := fractionPart (cs.dropWhile Char.isDigit)
  if whole.isEmpty && fraction.isEmpty then none
  else return ⟨whole, fraction, ← exponentPart? rest⟩

/-- The value of a decimal number with a sign, rounded once. -/
def DecimalText.value (negative : Bool) (d : DecimalText) : Binary64 :=
  .ofDecimal negative (Text.decimalValue (d.whole ++ d.fraction)) (d.exponent - d.fraction.length)

/-- The number that a text with a sign stands for. -/
def ofSigned (cs : List Char) : Binary64 :=
  let (negative, rest) := splitSign cs
  if rest = "Infinity".toList then .infinity negative
  else
    match DecimalText.ofChars? rest with
    | some d => d.value negative
    | none => .nan

/-- The number that a text without blanks around it stands for. -/
def ofTrimmed (cs : List Char) : Binary64 :=
  match cs with
  | [] => .zero false
  | '0' :: 'x' :: digits | '0' :: 'X' :: digits => ofRadix 16 digits
  | '0' :: 'o' :: digits | '0' :: 'O' :: digits => ofRadix 8 digits
  | '0' :: 'b' :: digits | '0' :: 'B' :: digits => ofRadix 2 digits
  | cs => ofSigned cs

/-- The number that a text stands for. -/
def toNumber (raw : String) : Binary64 :=
  ofTrimmed (Text.trim raw.toList)

end ScriptTree.Build
