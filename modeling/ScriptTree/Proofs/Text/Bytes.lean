import Mathlib.Data.String.Basic

/-!
# The bytes of a text

A byte below 128 is a character of its own (`head?_utf8EncodeChar_eq_iff`), and texts are ordered
by their bytes in UTF-8 as they are by their characters (`bytes_lt_iff`).
-/

namespace ScriptTree.Text
set_option autoImplicit false

/-- The bytes of a text in UTF-8. -/
def bytes (s : String) : List UInt8 :=
  s.toUTF8.data.toList

theorem bytes_eq (s : String) : bytes s = s.toList.flatMap String.utf8EncodeChar := by
  unfold bytes
  rw [String.toUTF8_eq_toByteArray, ← String.utf8Encode_toList, List.utf8Encode,
    List.toList_data_toByteArray]

/-- A first byte below 128 is the character itself. -/
theorem head?_utf8EncodeChar_eq_iff {c : Char} {b : UInt8} (ascii : b.toNat < 128) :
    (String.utf8EncodeChar c).head? = some b ↔ c.toNat = b.toNat := by
  have value : c.toNat = c.val.toNat := rfl
  unfold String.utf8EncodeChar
  simp only [value]
  repeat' split
  all_goals
    rw [List.head?_cons, Option.some.injEq, ← UInt8.toNat_inj, UInt8.toNat_ofNat']
    omega

/-! ## The order of texts -/

/-- Of two characters, the bytes of the lesser one come first, whatever follows. -/
theorem utf8EncodeChar_append_lt {c d : Char} (below : c < d) (xs ys : List UInt8) :
    String.utf8EncodeChar c ++ xs < String.utf8EncodeChar d ++ ys := by
  have less : c.val.toNat < d.val.toNat := below
  have bound : d.val.toNat < 0x110000 := by
    rcases d.valid with low | ⟨-, high⟩
    · exact Nat.lt_trans low (by decide)
    · exact high
  have digits (n : Nat) : n / 4096 = n / 64 / 64 ∧ n / 262144 = n / 64 / 64 / 64 := by omega
  unfold String.utf8EncodeChar
  -- a character of more bytes has a greater first byte; of as many bytes, these are its digits in
  -- base 64
  simp only [digits]
  repeat' split
  all_goals
    simp only [List.cons_append, List.nil_append, List.cons_lt_cons_iff, UInt8.lt_iff_toNat_lt,
      ← UInt8.toNat_inj, UInt8.toNat_ofNat']
    omega

theorem append_lt_append_iff (front xs ys : List UInt8) : front ++ xs < front ++ ys ↔ xs < ys := by
  induction front with
  | nil => rfl
  | cons b front ih => simp [ih]

theorem flatMap_utf8EncodeChar_lt_iff (cs ds : List Char) :
    cs.flatMap String.utf8EncodeChar < ds.flatMap String.utf8EncodeChar ↔ cs < ds := by
  induction cs generalizing ds with
  | nil =>
    cases ds with
    | nil => simp
    | cons d ds =>
      obtain ⟨b, more, bytes⟩ := List.exists_cons_of_ne_nil (String.utf8EncodeChar_ne_nil (c := d))
      simp [List.flatMap_cons, bytes]
  | cons c cs ih =>
    cases ds with
    | nil => simp
    | cons d ds =>
      rw [List.flatMap_cons, List.flatMap_cons, List.cons_lt_cons_iff]
      rcases lt_trichotomy c d with below | rfl | above
      · exact iff_of_true (utf8EncodeChar_append_lt below _ _) (.inl below)
      · rw [append_lt_append_iff, ih]
        simp
      · have after := utf8EncodeChar_append_lt above (ds.flatMap String.utf8EncodeChar)
          (cs.flatMap String.utf8EncodeChar)
        refine iff_of_false (List.lt_asymm after) ?_
        rintro (below | ⟨rfl, -⟩)
        · exact lt_asymm above below
        · exact lt_irrefl _ above

/-- **Texts are ordered by their bytes** as they are by their characters. -/
theorem bytes_lt_iff (s t : String) : bytes s < bytes t ↔ s < t := by
  rw [bytes_eq, bytes_eq, flatMap_utf8EncodeChar_lt_iff, String.lt_iff_toList_lt]

end ScriptTree.Text
