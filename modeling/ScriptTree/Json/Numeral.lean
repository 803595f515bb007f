import ScriptTree.Json.Fault

/-!
# Numbers of a JSON text

`Numeral.scan` takes a number off the front of a text, digit by digit as it is written, and
`Numeral.value` gives its value. An integer of 64 bits is exact. Of another number, as many digits
are kept as fit a word of 64 bits, and the result is scaled by a power of ten, with one rounding
for the digits, one for the power and one for each step of scaling.
-/

namespace ScriptTree.Json
set_option autoImplicit false
open Number

/-- A number as it is written. -/
structure Numeral where
  negative : Bool
  whole : List Char
  fraction : Option (List Char)
  /-- The sign and the digits of the exponent. -/
  exponent : Option (Bool × List Char)
deriving DecidableEq

/-- The fault of a text that does not start with a digit. -/
def noDigit (cs : List Char) : Fault :=
  if cs.isEmpty then .atEnd .endInValue else .on .badNumber cs

/-- Takes one or more digits off the front of a text. -/
def takeDigits (cs : List Char) : Except Fault (List Char × List Char) :=
  if (cs.takeWhile Char.isDigit).isEmpty then .error (noDigit cs)
  else .ok (cs.takeWhile Char.isDigit, cs.dropWhile Char.isDigit)

/-- Takes the digits before the point: a zero stands alone. -/
def takeWhole (cs : List Char) : Except Fault (List Char × List Char) :=
  match cs with
  | '0' :: rest =>
    if (rest.takeWhile Char.isDigit).isEmpty then .ok (['0'], rest)
    else .error (.on .badNumber rest)
  | _ => takeDigits cs

/-- Takes the point and the digits after it, if there is a point. -/
def takeFraction (cs : List Char) : Except Fault (Option (List Char) × List Char) :=
  match cs with
  | '.' :: rest =>
    match takeDigits rest with
    | .ok (digits, rest) => .ok (some digits, rest)
    | .error f => .error f
  | _ => .ok (none, cs)

/-- Takes a sign off the front of a text; no sign counts as a plus. -/
def takeSign : List Char → Bool × List Char
  | '+' :: rest => (false, rest)
  | '-' :: rest => (true, rest)
  | cs => (false, cs)

/-- Takes the exponent, if there is one. -/
def takeExponent (cs : List Char) : Except Fault (Option (Bool × List Char) × List Char) :=
  match cs with
  | [] => .ok (none, [])
  | c :: rest =>
    if c = 'e' ∨ c = 'E' then
      match takeDigits (takeSign rest).2 with
      | .ok (digits, left) => .ok (some ((takeSign rest).1, digits), left)
      | .error f => .error f
    else .ok (none, cs)

namespace Numeral

/-- Takes a number without its sign off the front of a text. -/
def scanUnsigned (negative : Bool) (cs : List Char) : Except Fault (Numeral × List Char) :=
  match takeWhole cs with
  | .error f => .error f
  | .ok (whole, cs) =>
    match takeFraction cs with
    | .error f => .error f
    | .ok (fraction, cs) =>
      match takeExponent cs with
      | .error f => .error f
      | .ok (exponent, cs) => .ok (⟨negative, whole, fraction, exponent⟩, cs)

/-- Takes a number off the front of a text. -/
def scan (cs : List Char) : Except Fault (Numeral × List Char) :=
  match cs with
  | '-' :: rest => scanUnsigned true rest
  | _ => scanUnsigned false cs

/-- Words of 64 bits lie below this. -/
def wordLimit : Nat := Nat.pow 2 64

/-- The digits before the point that fit a word, and how many were left out. -/
def keepWhole (digits : List Char) : Nat × Nat :=
  digits.foldl (fun (kept, dropped) c =>
    if 0 < dropped ∨ wordLimit ≤ 10 * kept + Text.digitValue c then (kept, dropped + 1)
    else (10 * kept + Text.digitValue c, 0)) (0, 0)

/-- Appends the digits after the point as long as they fit a word, and counts them. -/
def keepFraction (kept : Nat) : List Char → Nat → Nat × Nat
  | [], count => (kept, count)
  | c :: rest, count =>
    if wordLimit ≤ 10 * kept + Text.digitValue c then (kept, count)
    else keepFraction (10 * kept + Text.digitValue c) rest (count + 1)

/-- The value of the digits of an exponent after a value `n`. Once it exceeds a signed word of 32
bits, the digits that follow are returned. -/
def exponentValue (n : Nat) : List Char → Except (List Char) Nat
  | [] => .ok n
  | c :: rest =>
    if Nat.pow 2 31 ≤ 10 * n + Text.digitValue c then .error rest
    else exponentValue (10 * n + Text.digitValue c) rest

/-- Division by a power of ten, in steps of at most `10 ^ 308`. -/
def shrink (x : Binary64) (k : Nat) : Binary64 :=
  if k ≤ 308 then x.div (.powerOfTen k)
  else if x.isZero then x
  else shrink (x.div (.powerOfTen 308)) (k - 308)
termination_by k

/-- The digits times a power of ten; `none` if that is too large. -/
def scaled? (digits : Nat) (exponent : Int) : Option Binary64 :=
  let x := Binary64.ofNat digits
  if exponent < 0 then some (shrink x (-exponent).toNat)
  else if exponent ≤ 308 then
    let y := x.mul (.powerOfTen exponent.toNat)
    if y.isInfinite then none else some y
  else if x.isZero then some x
  else none

/-- The value of a number without point and exponent that fits a word. -/
def wordValue (negative : Bool) (n : Nat) : Json :=
  if !negative then .integer n
  else if n = 0 ∨ Nat.pow 2 63 < n then .real (Binary64.ofNat n).negate
  else .integer (-n)

/-- The value of a number; `left` is what follows it in the text. -/
def value (n : Numeral) (left : List Char) : Except Fault Json :=
  let whole := keepWhole n.whole
  if n.fraction.isNone ∧ n.exponent.isNone ∧ whole.2 = 0 then .ok (wordValue n.negative whole.1)
  else
    let kept := keepFraction whole.1 (n.fraction.getD []) 0
    let place : Int := whole.2 - kept.2
    let scale (exponent : Int) : Except Fault Json :=
      match scaled? kept.1 exponent with
      | some x => .ok (.real (x.withSign n.negative))
      | none => .error (.before .numberTooLarge left)
    match n.exponent with
    | none => scale place
    | some (negative, digits) =>
      match exponentValue 0 digits with
      | .ok e => scale (if negative then place - e else place + e)
      | .error rest =>
        if kept.1 = 0 ∨ negative then .ok (.real (.zero n.negative))
        else .error (.before .numberTooLarge (rest ++ left))

end Numeral

/-! ## What is left is shorter -/

theorem length_dropWhile_le (p : Char → Bool) (cs : List Char) :
    (cs.dropWhile p).length ≤ cs.length :=
  (List.dropWhile_sublist p).length_le

theorem takeDigits_shorter {cs digits rest : List Char} (h : takeDigits cs = .ok (digits, rest)) :
    rest.length < cs.length := by
  unfold takeDigits at h
  split at h
  · cases h
  · rename_i some
    cases h
    cases cs with
    | nil => simp at some
    | cons c rest =>
      by_cases digit : c.isDigit = true
      · have := length_dropWhile_le Char.isDigit rest
        simpa [List.dropWhile, digit] using Nat.lt_succ_of_le this
      · simp [List.takeWhile, digit] at some

theorem takeWhole_shorter {cs digits rest : List Char} (h : takeWhole cs = .ok (digits, rest)) :
    rest.length < cs.length := by
  unfold takeWhole at h
  split at h
  · split at h
    · cases h
      simp
    · cases h
  · exact takeDigits_shorter h

theorem takeFraction_le {cs rest : List Char} {digits : Option (List Char)}
    (h : takeFraction cs = .ok (digits, rest)) : rest.length ≤ cs.length := by
  unfold takeFraction at h
  split at h
  · split at h
    · rename_i taken
      cases h
      have := takeDigits_shorter taken
      simp only [List.length_cons]
      omega
    · cases h
  · cases h
    exact Nat.le_refl _

theorem takeSign_le (cs : List Char) : (takeSign cs).2.length ≤ cs.length := by
  unfold takeSign
  split <;> simp

theorem takeExponent_le {cs rest : List Char} {e : Option (Bool × List Char)}
    (h : takeExponent cs = .ok (e, rest)) : rest.length ≤ cs.length := by
  unfold takeExponent at h
  split at h
  · cases h
    exact Nat.le_refl _
  · rename_i c tail
    split at h
    · split at h
      · rename_i taken
        cases h
        have := takeDigits_shorter taken
        have := takeSign_le tail
        simp only [List.length_cons]
        omega
      · cases h
    · cases h
      exact Nat.le_refl _

theorem Numeral.scanUnsigned_shorter {negative : Bool} {cs rest : List Char} {n : Numeral}
    (h : scanUnsigned negative cs = .ok (n, rest)) : rest.length < cs.length := by
  unfold scanUnsigned at h
  split at h
  · cases h
  · rename_i whole
    split at h
    · cases h
    · rename_i fraction
      split at h
      · cases h
      · rename_i exponent
        cases h
        have := takeWhole_shorter whole
        have := takeFraction_le fraction
        have := takeExponent_le exponent
        omega

theorem Numeral.scan_shorter {cs rest : List Char} {n : Numeral} (h : scan cs = .ok (n, rest)) :
    rest.length < cs.length := by
  unfold scan at h
  split at h
  · exact Nat.lt_succ_of_lt (scanUnsigned_shorter h)
  · exact scanUnsigned_shorter h

end ScriptTree.Json
