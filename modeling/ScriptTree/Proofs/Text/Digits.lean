import ScriptTree.Text.DecimalDigit
import Mathlib.Data.List.TakeWhile

/-!
# Decimal digits of a number

`decimalDigits` writes a number with the digits `0` to `9` alone and without leading zeros, and
`decimalValue` reads it back. Any other digits are the digits of a number with zeros before them
(`exists_zeros_append`). A run of digits ends where the first other character stands.
-/

namespace ScriptTree.Text
set_option autoImplicit false

theorem isDigit_of_mem_decimalDigits {n : Nat} {c : Char} (h : c ∈ decimalDigits n) :
    c.isDigit = true :=
  Nat.isDigit_of_mem_toDigits (by decide) (by decide) h

theorem decimalDigits_ne_nil (n : Nat) : decimalDigits n ≠ [] :=
  Nat.toDigits_ne_nil

theorem decimalDigits_zero : decimalDigits 0 = ['0'] :=
  Nat.toDigits_zero 10

@[simp] theorem decimalValue_decimalDigits (n : Nat) : decimalValue (decimalDigits n) = n :=
  Nat.ofDigitChars_ten_toDigits

/-- The first digit of a positive number is no zero. -/
theorem decimalDigits_cons {n : Nat} (h : 0 < n) :
    ∃ d ds, decimalDigits n = d :: ds ∧ d ≠ '0' := by
  induction n using Nat.strongRecOn with
  | ind n ih =>
    by_cases small : n < 10
    · refine ⟨n.digitChar, [], Nat.toDigits_of_lt_base small, ?_⟩
      intro zero
      have value := Nat.toNat_digitChar_of_lt_ten small
      rw [zero] at value
      simp at value
      omega
    · obtain ⟨d, ds, digits, first⟩ := ih (n / 10) (by omega) (by omega)
      refine ⟨d, ds ++ [Nat.digitChar (n % 10)], ?_, first⟩
      have split := Nat.toDigits_of_base_le (b := 10) (n := n) (by decide) (by omega)
      unfold decimalDigits at digits ⊢
      rw [split, digits]
      rfl

theorem isDecimalDigit_of_isDigit {c : Char} (h : c.isDigit = true) : isDecimalDigit c = true := by
  obtain ⟨low, high⟩ := Char.isDigit_iff_toNat.1 h
  exact inRanges_iff.2 ⟨(0x30, 0x3a), by simp [decimalDigitRanges], low, Nat.lt_succ_of_le high⟩

/-! ## Zeros before a number -/

theorem digitChar_digitValue {c : Char} (digit : c.isDigit = true) :
    digitValue c < 10 ∧ Nat.digitChar (digitValue c) = c := by
  obtain ⟨low, high⟩ := Char.isDigit_iff_toNat.1 digit
  have zero : '0'.toNat = 48 := rfl
  have nine : '9'.toNat = 57 := rfl
  have value : digitValue c = c.toNat - '0'.toNat := rfl
  refine ⟨by omega, Char.toNat_inj.1 ?_⟩
  rw [Nat.toNat_digitChar_of_lt_ten (by omega)]
  omega

/-- The digits of a positive number and further digits are the digits of a number. -/
theorem decimalDigits_append {n : Nat} (positive : 0 < n) {digits : List Char}
    (all : ∀ c ∈ digits, c.isDigit = true) :
    decimalDigits n ++ digits =
      decimalDigits (digits.foldl (fun n c => 10 * n + digitValue c) n) := by
  induction digits generalizing n with
  | nil => simp
  | cons c rest ih =>
    rw [List.forall_mem_cons] at all
    obtain ⟨small, char⟩ := digitChar_digitValue all.1
    have next : decimalDigits n ++ [c] = decimalDigits (10 * n + digitValue c) := by
      have join := Nat.toDigits_append_toDigits (b := 10) (by decide) positive small
      rwa [Nat.toDigits_of_lt_base small, char] at join
    rw [List.foldl_cons, ← ih (by omega) all.2, ← next, List.append_assoc]
    rfl

/-- Digits `0` to `9` are zeros and the digits of the number that they spell. -/
theorem exists_zeros_append {digits : List Char} (nonempty : digits ≠ [])
    (all : ∀ c ∈ digits, c.isDigit = true) :
    ∃ zeros, digits = List.replicate zeros '0' ++ decimalDigits (decimalValue digits) := by
  induction digits with
  | nil => exact absurd rfl nonempty
  | cons c rest ih =>
    rw [List.forall_mem_cons] at all
    by_cases zero : c = '0'
    · subst zero
      cases rest with
      | nil => exact ⟨0, by decide⟩
      | cons d rest =>
        obtain ⟨zeros, split⟩ := ih (by simp) all.2
        exact ⟨zeros + 1, congrArg _ split⟩
    · -- the first digit is a number by itself, and the others go on from it
      obtain ⟨small, char⟩ := digitChar_digitValue all.1
      have single : decimalDigits (digitValue c) = [c] := by
        rw [decimalDigits, Nat.toDigits_of_lt_base small, char]
      have positive : 0 < digitValue c := by
        rw [Nat.pos_iff_ne_zero]
        intro none
        rw [none] at char
        exact zero char.symm
      have whole := decimalDigits_append positive all.2
      rw [single] at whole
      refine ⟨0, whole.trans ?_⟩
      simp [decimalValue]

theorem decimalValue_zeros_append (zeros : Nat) (digits : List Char) :
    decimalValue (List.replicate zeros '0' ++ digits) = decimalValue digits := by
  induction zeros with
  | zero => rfl
  | succ zeros ih => exact ih

/-! ## Runs of characters of a class -/

/-- A text that does not go on with a character of a class. -/
def Ends (p : Char → Bool) (rest : List Char) : Prop :=
  ∀ c ∈ rest.head?, p c = false

theorem ends_nil (p : Char → Bool) : Ends p [] := by
  simp [Ends]

theorem ends_cons {p : Char → Bool} {c : Char} {rest : List Char} :
    Ends p (c :: rest) ↔ p c = false := by
  simp [Ends]

theorem takeWhile_run {p : Char → Bool} {run rest : List Char} (all : ∀ c ∈ run, p c = true)
    (stop : Ends p rest) : (run ++ rest).takeWhile p = run := by
  rw [List.takeWhile_append_of_pos all]
  cases rest with
  | nil => simp
  | cons c rest => simp [ends_cons.1 stop]

theorem dropWhile_run {p : Char → Bool} {run rest : List Char} (all : ∀ c ∈ run, p c = true)
    (stop : Ends p rest) : (run ++ rest).dropWhile p = rest := by
  rw [List.dropWhile_append_of_pos all]
  cases rest with
  | nil => simp
  | cons c rest => simp [ends_cons.1 stop]

end ScriptTree.Text
