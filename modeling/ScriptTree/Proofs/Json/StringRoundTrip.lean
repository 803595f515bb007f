import ScriptTree.Json.StringText

/-!
# Strings of a JSON text are read back

The reader of a string undoes its escapes, one character at a time, and stops at the closing
quote: `readString_stringText`.
-/

namespace ScriptTree.Json
set_option autoImplicit false

theorem hexValue?_digitChar : ∀ d < 16, hexValue? (Nat.digitChar d) = some d := by
  decide

/-- The code of a control character is read back. -/
theorem takeCode_control {c : Char} (control : c.toNat < 0x20) (rest : List Char) :
    takeCode ('0' :: '0' :: Nat.digitChar (c.toNat / 16) :: Nat.digitChar (c.toNat % 16) :: rest) =
      .ok (c, rest) := by
  have high := hexValue?_digitChar (c.toNat / 16) (by omega)
  have low := hexValue?_digitChar (c.toNat % 16) (by omega)
  have zero : hexValue? '0' = some 0 := hexValue?_digitChar 0 (by decide)
  have unit : hexUnit? '0' '0' (Nat.digitChar (c.toNat / 16)) (Nat.digitChar (c.toNat % 16)) =
      some c.toNat := by
    simp only [hexUnit?, zero, high, low, Option.bind_eq_bind, Option.bind_some]
    congr 1
    omega
  have notTrailing : isTrailing c.toNat = false := by
    simp [isTrailing]
    omega
  have notLeading : isLeading c.toNat = false := by
    simp [isLeading]
    omega
  simp [takeCode, takeUnit, unit, notTrailing, notLeading, Char.ofNat_toNat]

/-- A character that needs no escape is read as it stands. -/
theorem takeChar_plain {c : Char} (quote : c ≠ '"') (backslash : c ≠ '\\')
    (printable : ¬ c.toNat < 0x20) (rest : List Char) :
    takeChar (c :: rest) = .ok (some c, rest) := by
  unfold takeChar
  split
  · rename_i text
    cases text
  · rename_i text
    exact absurd (List.cons.inj text).1 backslash
  · rename_i text
    exact absurd (List.cons.inj text).1 quote
  · rename_i text
    exact absurd (List.cons.inj text).1 backslash
  · rename_i text
    exact absurd (List.cons.inj text).1 backslash
  · rename_i text
    obtain ⟨rfl, rfl⟩ := List.cons.inj text
    rw [if_neg printable]

/-- An escaped character is read back. -/
theorem takeChar_escapeChar (c : Char) (rest : List Char) :
    takeChar (escapeChar c ++ rest) = .ok (some c, rest) := by
  unfold escapeChar
  split
  case h_8 =>
    rename_i quote backslash _ _ _ _ _
    split
    · rename_i control
      simp only [List.cons_append, List.nil_append, takeChar]
      rw [takeCode_control control]
    · rename_i printable
      exact takeChar_plain quote backslash printable rest
  all_goals rfl

theorem readString_escaped (cs rest : List Char) :
    readString (cs.flatMap escapeChar ++ '"' :: rest) = .ok (cs, rest) := by
  induction cs with
  | nil =>
    rw [readString]
    split <;> simp_all [takeChar]
  | cons c cs ih =>
    have first := takeChar_escapeChar c (cs.flatMap escapeChar ++ '"' :: rest)
    rw [List.flatMap_cons, List.append_assoc, readString]
    split <;> simp_all

/-- **A string is read back** from the front of a text, after its opening quote. -/
theorem readString_stringText (s : String) (rest : List Char) :
    ∃ text, stringText s ++ rest = '"' :: text ∧ readString text = .ok (s.toList, rest) := by
  refine ⟨s.toList.flatMap escapeChar ++ '"' :: rest, ?_, readString_escaped s.toList rest⟩
  simp [stringText]

end ScriptTree.Json
