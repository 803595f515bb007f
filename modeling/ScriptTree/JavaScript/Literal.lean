import ScriptTree.Number.Shortest

/-!
# Literals of JavaScript

A string stands between double quotes. A number that is not small is written in the shortest of
several forms; of equally short ones, the first.
-/

namespace ScriptTree.JavaScript
set_option autoImplicit false
open Number

/-! ## Strings -/

/-- The letters that would close a script after `</`, in either case. -/
def startsScript (cs : List Char) : Bool :=
  (cs.take 6).map Char.toLower = "script".toList

/-- A character of a string between its quotes; `rest` is what follows it. -/
def stringChar (c : Char) (rest : List Char) : List Char :=
  match c with
  | '\n' => ['\\', 'n']
  | '\r' => ['\\', 'r']
  | '\x08' => ['\\', 'b']
  | '\x0b' => ['\\', 'v']
  | '\x0c' => ['\\', 'f']
  | '\\' => ['\\', '\\']
  | '"' => ['\\', '"']
  | '\x07' => "\\x07".toList
  | '\x1b' => "\\x1B".toList
  | '\x00' =>
    match rest with
    | d :: _ => if d.isDigit then "\\x00".toList else "\\0".toList
    | [] => "\\0".toList
  | '\u00a0' => "\\xA0".toList
  | '\u2028' => "\\u2028".toList
  | '\u2029' => "\\u2029".toList
  | c => [c]

/-- The characters of a string between its quotes. -/
def stringChars : List Char → List Char
  | [] => []
  | '<' :: '/' :: rest =>
    if startsScript rest then '<' :: '\\' :: '/' :: stringChars rest
    else '<' :: '/' :: stringChars rest
  | c :: rest => stringChar c rest ++ stringChars rest

/-- A string. -/
def stringLiteral (s : String) : List Char :=
  '"' :: stringChars s.toList ++ ['"']

/-! ## Numbers -/

/-- Numbers are positional from `0.000001` up to `10 ^ 21`. -/
def numberLayout : Layout :=
  ⟨-6, 20, []⟩

/-- The text without a zero before the point and without the plus of an exponent. -/
def plainForm (m : Magnitude) : List Char :=
  let digits := m.write numberLayout
  let digits :=
    match digits with
    | '0' :: '.' :: rest => '.' :: rest
    | _ => digits
  digits.filter (· != '+')

/-- An integer in base sixteen, which is kept to 128 bits. -/
def hexForm? (m : Magnitude) : Option (List Char) :=
  if m.isIntegral then some ('0' :: 'x' :: Text.hexDigits (min m.floor (Nat.pow 2 128 - 1)))
  else none

/-- A small fraction with an exponent in the place of the zeros after the point. -/
def fractionForm? (plain : List Char) : Option (List Char) :=
  match plain with
  | '.' :: '0' :: rest =>
    some (rest.dropWhile (· == '0') ++ 'e' :: '-' :: Text.decimalDigits (rest.length + 1))
  | _ => none

/-- The text with an exponent in the place of the zeros at its end. -/
def roundForm? (plain : List Char) : Option (List Char) :=
  let zeros := (plain.reverse.takeWhile (· == '0')).length
  if zeros = 0 then none
  else some (plain.take (plain.length - zeros) ++ 'e' :: Text.decimalDigits zeros)

/-- The value of the digits of an exponent with an optional sign. -/
def exponentOf : List Char → Int
  | '-' :: digits => -(Text.decimalValue digits : Int)
  | digits => Text.decimalValue digits

/-- A number with a point and an exponent, without the point. -/
def integralForm? (plain : List Char) : Option (List Char) :=
  match plain.dropWhile (· != '.') with
  | [] => none
  | _ :: rest =>
    match rest.dropWhile (· != 'e') with
    | [] => none
    | _ :: exponent =>
      let fraction := rest.takeWhile (· != 'e')
      let e := exponentOf exponent - fraction.length
      some (plain.takeWhile (· != '.') ++ fraction ++ 'e' ::
        ((if e < 0 then ['-'] else []) ++ Text.decimalDigits e.natAbs))

/-- The shortest of a text and others; of equally short ones, the first. -/
def shortestOf : List Char → List (List Char) → List Char
  | best, [] => best
  | best, t :: rest => shortestOf (if t.length < best.length then t else best) rest

/-- The text of a magnitude. -/
def magnitudeText (m : Magnitude) : List Char :=
  if m.isIntegral ∧ m.floor < 1000 then Text.decimalDigits m.floor
  else
    let plain := plainForm m
    shortestOf plain
      ([hexForm? m, fractionForm? plain, roundForm? plain, integralForm? plain].filterMap id)

/-- A text after which a point would belong to the number. -/
def isBareInteger (cs : List Char) : Bool :=
  cs.all fun c => c != '.' && c != 'e' && c != 'x'

end ScriptTree.JavaScript
