import ScriptTree.Comment.Text
import ScriptTree.Text.Blank
import ScriptTree.Text.DecimalDigit

/-!
# Placeholders of comments

A program is printed with a statement in the place of each comment: `void` and a string that holds
the number of the comment. `restore` puts the texts of the comments in their places. It finds the
placeholders by their text alone, so a program that spells one out by itself is refused.
-/

namespace ScriptTree.Placeholder
set_option autoImplicit false
open Text

/-- The string that stands for the comment with a number. -/
def content (index : Nat) : List Char :=
  "__estemplate_comment_".toList ++ decimalDigits index ++ "__".toList

/-- The text after a text that comes first. -/
def after? : List Char → List Char → Option (List Char)
  | [], cs => some cs
  | _ :: _, [] => none
  | e :: expected, c :: cs => if c = e then after? expected cs else none

/-- The text after a quote of either kind. -/
def afterQuote? : List Char → Option (List Char)
  | [] => none
  | c :: cs => if c = '"' ∨ c = '\x27' then some cs else none

/-- The text after one or more decimal digits, and the digits. -/
def afterDigits? (cs : List Char) : Option (List Char × List Char) :=
  if (cs.takeWhile isDecimalDigit).isEmpty then none
  else some (cs.takeWhile isDecimalDigit, cs.dropWhile isDecimalDigit)

/-- The digits of a placeholder that comes first in a text, and the text after it. -/
def first? (cs : List Char) : Option (List Char × List Char) := do
  let cs ← after? "void".toList cs
  let cs ← afterQuote? (cs.dropWhile isBlank)
  let cs ← after? "__estemplate_comment_".toList cs
  let (digits, cs) ← afterDigits? cs
  let cs ← after? "__".toList cs
  let cs ← afterQuote? cs
  let cs ← after? [';'] (cs.dropWhile isBlank)
  return (digits, cs)

/-! ## What is left is shorter -/

theorem after?_length {expected cs rest : List Char} (h : after? expected cs = some rest) :
    rest.length + expected.length = cs.length := by
  fun_induction after? expected cs with
  | case1 => simp_all
  | case2 => cases h
  | case3 expected e cs ih =>
    have := ih h
    simp only [List.length_cons]
    omega
  | case4 => cases h

theorem afterQuote?_shorter {cs rest : List Char} (h : afterQuote? cs = some rest) :
    rest.length < cs.length := by
  unfold afterQuote? at h
  split at h
  · cases h
  · split at h
    · cases h
      simp
    · cases h

theorem afterDigits?_le {cs digits rest : List Char} (h : afterDigits? cs = some (digits, rest)) :
    rest.length ≤ cs.length := by
  unfold afterDigits? at h
  split at h
  · cases h
  · cases h
    exact (List.dropWhile_sublist isDecimalDigit).length_le

theorem first?_shorter {cs digits rest : List Char} (h : first? cs = some (digits, rest)) :
    rest.length < cs.length := by
  simp only [first?, Option.bind_eq_bind, Option.bind_eq_some_iff] at h
  obtain ⟨a, ha, b, hb, c, hc, ⟨d, e⟩, hd, f, hf, g, hg, i, hi, last⟩ := h
  cases last
  have := after?_length ha
  have := afterQuote?_shorter hb
  have := (List.dropWhile_sublist (l := a) isBlank).length_le
  have := after?_length hc
  have := afterDigits?_le hd
  have := after?_length hf
  have := afterQuote?_shorter hg
  have := (List.dropWhile_sublist (l := g) isBlank).length_le
  have := after?_length hi
  simp only [List.length_cons] at *
  omega

/-! ## Cutting and filling -/

/-- A text cut at its placeholders: the text before the first one, and for each of them its digits
and the text that follows it. -/
structure Pieces where
  head : List Char
  tail : List (List Char × List Char)

/-- The pieces with a character before them. -/
def Pieces.cons (c : Char) (p : Pieces) : Pieces :=
  ⟨c :: p.head, p.tail⟩

/-- The pieces with a placeholder before them. -/
def Pieces.mark (digits : List Char) (p : Pieces) : Pieces :=
  ⟨[], (digits, p.head) :: p.tail⟩

/-- Cuts a text at its placeholders, from the left. -/
def cut (cs : List Char) : Pieces :=
  match _found : first? cs with
  | some (digits, rest) => (cut rest).mark digits
  | none =>
    match cs with
    | [] => ⟨[], []⟩
    | c :: rest => (cut rest).cons c
termination_by cs.length
decreasing_by
  · exact first?_shorter _found
  · simp

/-- The number that the digits of a placeholder give, if it is one of 64 bits. -/
def index? (digits : List Char) : Option Nat :=
  if digits.all Char.isDigit ∧ decimalValue digits < Nat.pow 2 64 then some (decimalValue digits)
  else none

/-- A text whose placeholders are not those of its comments. -/
structure Collision where
  found : Nat
  expected : Nat
deriving DecidableEq

/-- The text with the comments in the places of their placeholders. -/
def Pieces.fill (p : Pieces) (comments : List Comment) : List Char :=
  p.head ++ (p.tail.zip comments).flatMap fun (piece, c) => c.text ++ piece.2

/-- Puts comments in the places of their placeholders. -/
def restore (code : List Char) (comments : List Comment) : Except Collision (List Char) :=
  let pieces := cut code
  if pieces.tail.map (fun piece => index? piece.1) = (List.range comments.length).map some then
    .ok (pieces.fill comments)
  else .error ⟨pieces.tail.length, comments.length⟩

end ScriptTree.Placeholder
