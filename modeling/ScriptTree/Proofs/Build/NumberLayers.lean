import ScriptTree.Proofs.Build.NumberForm
import ScriptTree.Proofs.Text.Bytes

/-!
# Reading a number in guarded steps

`guardedNumber?` reads a number by layers that each know little of the others: the first byte for
the sign, a slice from the second byte on, a filter for the characters, a test of the first one, and
a parser of floating-point numbers that also takes words. A text accessed beyond its end or inside
of a character has no answer. There is an answer for every text, and it is the value of the text
(`guardedNumber?_eq`), so the layers accept the grammar and nothing else: `toNumber_eq_nan_iff`.
-/

namespace ScriptTree.Build
set_option autoImplicit false
open Number

/-! ## Bytes -/

/-- The first byte of a text. -/
def firstByte? (cs : List Char) : Option UInt8 :=
  (cs.flatMap String.utf8EncodeChar).head?

/-- The text from a byte on; `none` if the byte lies beyond the text or inside of a character. -/
def fromByte? : Nat → List Char → Option (List Char)
  | 0, cs => some cs
  | _ + 1, [] => none
  | offset + 1, c :: cs =>
    if c.utf8Size ≤ offset + 1 then fromByte? (offset + 1 - c.utf8Size) cs else none

/-- The sign that a text starts with, by its first byte. -/
def signByte? (cs : List Char) : Option (Bool × List Char) := do
  let first ← firstByte? cs
  if first = '-'.toUInt8 then return (true, ← fromByte? 1 cs)
  else if first = '+'.toUInt8 then return (false, ← fromByte? 1 cs)
  else return (false, cs)

theorem firstByte?_cons (c : Char) (cs : List Char) :
    firstByte? (c :: cs) = (String.utf8EncodeChar c).head? := by
  obtain ⟨b, more, bytes⟩ := List.exists_cons_of_ne_nil (String.utf8EncodeChar_ne_nil (c := c))
  simp [firstByte?, bytes]

theorem firstByte?_eq_iff {c : Char} {b : UInt8} (cs : List Char) (ascii : b.toNat < 128) :
    firstByte? (c :: cs) = some b ↔ c.toNat = b.toNat := by
  rw [firstByte?_cons]
  exact Text.head?_utf8EncodeChar_eq_iff ascii

theorem fromByte?_one {c : Char} (single : c.utf8Size = 1) (cs : List Char) :
    fromByte? 1 (c :: cs) = some cs := by
  simp [fromByte?, single]

/-- The first byte of a text that is not empty tells the sign as the first character does. -/
theorem signByte?_eq {cs : List Char} (nonempty : cs ≠ []) :
    signByte? cs = some (splitSign cs) := by
  obtain ⟨c, rest, rfl⟩ := List.exists_cons_of_ne_nil nonempty
  obtain ⟨b, more, bytes⟩ := List.exists_cons_of_ne_nil (String.utf8EncodeChar_ne_nil (c := c))
  have first : firstByte? (c :: rest) = some b := by
    rw [firstByte?_cons, bytes, List.head?_cons]
  have minus : b = '-'.toUInt8 ↔ c = '-' := by
    rw [← Char.toNat_inj, ← Option.some_inj, ← first]
    exact firstByte?_eq_iff rest (by decide)
  have plus : b = '+'.toUInt8 ↔ c = '+' := by
    rw [← Char.toNat_inj, ← Option.some_inj, ← first]
    exact firstByte?_eq_iff rest (by decide)
  simp only [signByte?, first, minus, plus, Option.bind_eq_bind, Option.bind_some]
  by_cases isMinus : c = '-'
  · subst isMinus
    rw [if_pos rfl, fromByte?_one (by decide)]
    rfl
  by_cases isPlus : c = '+'
  · subst isPlus
    rw [if_neg isMinus, if_pos rfl, fromByte?_one (by decide)]
    rfl
  · rw [if_neg isMinus, if_neg isPlus]
    unfold splitSign
    split <;> simp_all

/-! ## Layers -/

/-- A floating-point number with a sign; the words for infinity and for what is not a number are
numbers here, in any case. -/
def parseFloat? (cs : List Char) : Option Binary64 :=
  let (negative, rest) := splitSign cs
  let word := String.ofList (rest.map Char.toLower)
  if word = "inf" ∨ word = "infinity" then some (.infinity negative)
  else if word = "nan" then some .nan
  else (DecimalText.ofChars? rest).map (·.value negative)

/-- The number that a text stands for, layer by layer: each looks at the text alone and lets pass
what the next one decides. `none` is an access beyond the text or inside of a character. -/
def guardedNumber? (raw : String) : Option Binary64 :=
  let text := Text.trim raw.toList
  if text = [] then some (.zero false)
  else
    match announced? text with
    | some (b, digits) => some (ofRadix b.radix digits)
    | none => do
      let (negative, unsigned) ← signByte? text
      if unsigned = "Infinity".toList then return .infinity negative
      else if !unsigned.all isDecimalChar || !(unsigned.head?.any startsDecimal) then return .nan
      else return (parseFloat? text).getD .nan

theorem isDecimalChar_toLower {c : Char} (decimal : isDecimalChar c = true) :
    isDecimalChar c.toLower = true := by
  simp only [isDecimalChar, Bool.or_eq_true, decide_eq_true_eq] at decimal
  rcases decimal with ((((digit | rfl) | rfl) | rfl) | rfl) | rfl
  · have same : c.toLower = c := by
      unfold Char.toLower
      refine dif_neg fun upper => ?_
      have low : 'A'.toNat ≤ c.toNat := upper.1
      exact absurd (Nat.le_trans low (Char.isDigit_iff_toNat.1 digit).2) (by decide)
    rw [same]
    exact isDecimalChar_of_isDigit digit
  all_goals decide

/-- Of a text with the characters of a decimal number, no word is read. -/
theorem parseFloat?_decimal {cs : List Char}
    (decimal : ∀ c ∈ (splitSign cs).2, isDecimalChar c = true) :
    (parseFloat? cs).getD .nan = ofSigned cs := by
  have letter : 'n' ∉ (splitSign cs).2.map Char.toLower := by
    intro member
    obtain ⟨c, within, same⟩ := List.mem_map.1 member
    have lower := isDecimalChar_toLower (decimal c within)
    rw [same] at lower
    exact absurd lower (by decide)
  have noWord {word : String} (named : 'n' ∈ word.toList) :
      String.ofList ((splitSign cs).2.map Char.toLower) ≠ word := by
    rintro rfl
    rw [String.toList_ofList] at named
    exact letter named
  have notInfinity : (splitSign cs).2 ≠ "Infinity".toList := by
    intro same
    rw [same] at decimal
    exact absurd (decimal 'I' (by decide)) (by decide)
  unfold parseFloat? ofSigned
  simp only
  rw [if_neg (not_or.2 ⟨noWord (by decide), noWord (by decide)⟩), if_neg (noWord (by decide)),
    if_neg notInfinity]
  cases DecimalText.ofChars? (splitSign cs).2 <;> rfl

theorem guardedNumber?_eq (raw : String) : guardedNumber? raw = some (toNumber raw) := by
  unfold guardedNumber? toNumber
  generalize Text.trim raw.toList = text
  by_cases empty : text = []
  · subst empty
    rfl
  simp only [if_neg empty]
  cases announced : announced? text with
  | some d =>
    obtain ⟨b, digits⟩ := d
    simp only [ofTrimmed_announced announced]
  | none =>
    rw [ofTrimmed_unannounced empty announced]
    simp only [signByte?_eq empty, Option.bind_eq_bind, Option.bind_some]
    by_cases word : (splitSign text).2 = "Infinity".toList
    · rw [if_pos word]
      simp [ofSigned, word]
    rw [if_neg word]
    split
    · rename_i other
      have notDecimal : ¬ DecimalForm (splitSign text).2 := by
        intro form
        obtain ⟨c, rest, first, start⟩ := form.starts
        have all := List.all_eq_true.2 form.isDecimalChar
        rw [all, first] at other
        simp [start] at other
      rw [(ofSigned_eq_nan_iff text).2 (not_or.2 ⟨word, notDecimal⟩)]
      rfl
    · rename_i decimal
      simp only [Bool.or_eq_true, Bool.not_eq_true', not_or, Bool.not_eq_false,
        List.all_eq_true] at decimal
      rw [parseFloat?_decimal decimal.1]
      rfl

/-- **Which texts are numbers**, and that they are read within the bounds of the text. -/
theorem toNumber_eq_nan_iff (raw : String) :
    guardedNumber? raw = some (toNumber raw) ∧
      (toNumber raw = .nan ↔ Text.trim raw.toList ≠ [] ∧ ¬ NumberForm (Text.trim raw.toList)) :=
  ⟨guardedNumber?_eq raw, ofTrimmed_eq_nan_iff (Text.trim raw.toList)⟩

end ScriptTree.Build
