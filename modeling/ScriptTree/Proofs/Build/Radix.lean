import ScriptTree.Build.Coercion
import ScriptTree.Proofs.Number.Rounding
import Mathlib.Data.List.Induction

/-!
# The value of the digits of a base

The digits of base sixteen, eight or two are taken one by one, and the number is rounded at every
digit. As long as the value has 53 binary digits, nothing is rounded. The first digit with which
it has more ends the head of the digits: the head is rounded, and each digit behind it counts as a
zero. So the result is the number nearest to the value, except where the head lies halfway above
an even neighbour and a digit behind it is not zero (`ofRadix_eq_nearest_iff`).
-/

namespace ScriptTree.Build
set_option autoImplicit false
open Number

/-! ## The exact value -/

/-- The exact value of digits in a base. -/
def digitsValue (radix : Nat) (values : List Nat) : Nat :=
  values.foldl (fun n digit => n * radix + digit) 0

theorem digitsValue_concat (radix : Nat) (values : List Nat) (digit : Nat) :
    digitsValue radix (values ++ [digit]) = digitsValue radix values * radix + digit := by
  simp [digitsValue, List.foldl_append]

theorem digitsValue_append (radix : Nat) (front back : List Nat) :
    digitsValue radix (front ++ back) =
      digitsValue radix front * Nat.pow radix back.length + digitsValue radix back := by
  induction back using List.reverseRecOn with
  | nil => simp [digitsValue]
  | append_singleton back digit ih =>
    have longer : Nat.pow radix (back ++ [digit]).length = Nat.pow radix back.length * radix := by
      rw [List.length_append]
      rfl
    rw [← List.append_assoc, digitsValue_concat, ih, digitsValue_concat, longer, Nat.add_mul,
      Nat.mul_assoc, Nat.add_assoc]

theorem digitsValue_lt {radix : Nat} {values : List Nat} (digits : ∀ d ∈ values, d < radix) :
    digitsValue radix values < Nat.pow radix values.length := by
  induction values using List.reverseRecOn with
  | nil => exact Nat.one_pos
  | append_singleton front digit ih =>
    have before := ih fun d member => digits d (List.mem_append_left _ member)
    have last : digit < radix := digits digit (by simp)
    rw [digitsValue_concat, List.length_append]
    calc digitsValue radix front * radix + digit
        < digitsValue radix front * radix + radix := Nat.add_lt_add_left last _
      _ = (digitsValue radix front + 1) * radix := (Nat.succ_mul _ _).symm
      _ ≤ Nat.pow radix front.length * radix := Nat.mul_le_mul_right _ before

theorem digitsValue_eq_zero_iff {radix : Nat} (positive : 0 < radix) (values : List Nat) :
    digitsValue radix values = 0 ↔ ∀ d ∈ values, d = 0 := by
  induction values using List.reverseRecOn with
  | nil => simp [digitsValue]
  | append_singleton front digit ih =>
    rw [digitsValue_concat, Nat.add_eq_zero_iff, Nat.mul_eq_zero, ih]
    simp [Nat.ne_of_gt positive, or_imp, forall_and]

/-! ## Digit by digit -/

variable {bits : Nat}

theorem pow_pow (bits k : Nat) : Nat.pow (Nat.pow 2 bits) k = Nat.pow 2 (bits * k) :=
  (Nat.pow_mul 2 bits k).symm

theorem appendDigit_eq {n : Nat} (fits : Fits n) (digit : Nat) :
    appendDigit (Nat.pow 2 bits) n digit = roundToFit (n * Nat.pow 2 bits + digit) 1 := by
  unfold appendDigit
  rw [roundToFit_of_fits (fits.mul_pow bits)]

/-- As long as the value has 53 binary digits, nothing is rounded. -/
theorem foldl_appendDigit_of_lt {values : List Nat}
    (short : digitsValue (Nat.pow 2 bits) values < Nat.pow 2 53) :
    values.foldl (appendDigit (Nat.pow 2 bits)) 0 = digitsValue (Nat.pow 2 bits) values := by
  induction values using List.reverseRecOn with
  | nil => rfl
  | append_singleton front digit ih =>
    have grows : digitsValue (Nat.pow 2 bits) front ≤
        digitsValue (Nat.pow 2 bits) (front ++ [digit]) := by
      rw [digitsValue_concat]
      exact Nat.le_trans (Nat.le_mul_of_pos_right _ (Nat.two_pow_pos bits)) (Nat.le_add_right _ _)
    have shorter := Nat.lt_of_le_of_lt grows short
    rw [List.foldl_append, ih shorter, List.foldl_cons, List.foldl_nil,
      appendDigit_eq (fits_of_lt shorter), ← digitsValue_concat]
    exact roundToFit_of_fits (fits_of_lt short)

/-- A number of more than 53 digits that fits takes no notice of a further digit. -/
theorem foldl_appendDigit_of_fits {n : Nat} (fits : Fits n) (long : Nat.pow 2 53 ≤ n)
    {values : List Nat} (digits : ∀ d ∈ values, d < Nat.pow 2 bits) :
    values.foldl (appendDigit (Nat.pow 2 bits)) n =
      n * Nat.pow (Nat.pow 2 bits) values.length := by
  induction values generalizing n with
  | nil => exact (Nat.mul_one n).symm
  | cons digit values ih =>
    obtain ⟨below, further⟩ := List.forall_mem_cons.1 digits
    have step : appendDigit (Nat.pow 2 bits) n digit = n * Nat.pow 2 bits := by
      rw [appendDigit_eq fits,
        roundToFit_append long below fun lost => fits.not_halfwayAboveEven lost.1,
        roundToFit_of_fits fits]
    have longer : Nat.pow 2 53 ≤ n * Nat.pow 2 bits :=
      Nat.le_trans long (Nat.le_mul_of_pos_right n (Nat.two_pow_pos bits))
    rw [List.foldl_cons, step, ih (fits.mul_pow bits) longer further, Nat.mul_assoc]
    congr 1
    exact (Nat.pow_succ').symm

/-! ## The head of the digits -/

/-- Digits up to the first one with which the value has more than 53 binary digits. -/
structure IsHead (radix : Nat) (head : List Nat) : Prop where
  short : digitsValue radix head.dropLast < Nat.pow 2 53
  long : Nat.pow 2 53 ≤ digitsValue radix head

theorem exists_head {radix : Nat} {values : List Nat}
    (long : Nat.pow 2 53 ≤ digitsValue radix values) :
    ∃ head tail, values = head ++ tail ∧ IsHead radix head := by
  induction values using List.reverseRecOn with
  | nil => exact absurd long (Nat.not_le.2 (Nat.two_pow_pos 53))
  | append_singleton front digit ih =>
    by_cases before : Nat.pow 2 53 ≤ digitsValue radix front
    · obtain ⟨head, tail, rfl, isHead⟩ := ih before
      exact ⟨head, tail ++ [digit], List.append_assoc .., isHead⟩
    · refine ⟨front ++ [digit], [], (List.append_nil _).symm, ?_, long⟩
      rw [List.dropLast_concat]
      exact Nat.not_le.1 before

/-- The head is rounded, and each digit behind it counts as a zero. -/
theorem foldl_appendDigit_of_head {head tail : List Nat} (isHead : IsHead (Nat.pow 2 bits) head)
    (digits : ∀ d ∈ tail, d < Nat.pow 2 bits) :
    (head ++ tail).foldl (appendDigit (Nat.pow 2 bits)) 0 =
      roundToFit (digitsValue (Nat.pow 2 bits) head) 1 *
        Nat.pow (Nat.pow 2 bits) tail.length := by
  obtain ⟨short, long⟩ := isHead
  have rounded : head.foldl (appendDigit (Nat.pow 2 bits)) 0 =
      roundToFit (digitsValue (Nat.pow 2 bits) head) 1 := by
    cases head using List.reverseRecOn with
    | nil => exact absurd long (Nat.not_le.2 (Nat.two_pow_pos 53))
    | append_singleton front digit =>
      rw [List.dropLast_concat] at short
      rw [List.foldl_append, foldl_appendDigit_of_lt short, List.foldl_cons, List.foldl_nil,
        appendDigit_eq (fits_of_lt short), ← digitsValue_concat]
  have large : Nat.pow 2 53 ≤ roundToFit (digitsValue (Nat.pow 2 bits) head) 1 :=
    le_roundToFit (by rwa [Nat.div_one])
  rw [List.foldl_append, rounded, foldl_appendDigit_of_fits (fits_roundToFit _ _) large digits]

/-- The same as one rounding, of the number in which zeros stand behind the head. -/
theorem foldl_appendDigit_eq_roundToFit {head tail : List Nat}
    (isHead : IsHead (Nat.pow 2 bits) head) (digits : ∀ d ∈ tail, d < Nat.pow 2 bits) :
    (head ++ tail).foldl (appendDigit (Nat.pow 2 bits)) 0 =
      roundToFit (digitsValue (Nat.pow 2 bits) head * Nat.pow (Nat.pow 2 bits) tail.length) 1 := by
  rw [foldl_appendDigit_of_head isHead digits, pow_pow, roundToFit_mul_pow]

/-- The head lies halfway above an even neighbour, and a digit behind it is not zero. -/
def LosesTie (radix : Nat) (values : List Nat) : Prop :=
  ∃ head tail, values = head ++ tail ∧ IsHead radix head ∧
    HalfwayAboveEven (digitsValue radix head) ∧ ∃ d ∈ tail, d ≠ 0

/-- Rounding at every digit is rounding once, unless a tie is lost. -/
theorem foldl_appendDigit_eq_iff {values : List Nat}
    (digits : ∀ d ∈ values, d < Nat.pow 2 bits) :
    values.foldl (appendDigit (Nat.pow 2 bits)) 0 =
        roundToFit (digitsValue (Nat.pow 2 bits) values) 1 ↔
      ¬ LosesTie (Nat.pow 2 bits) values := by
  have positive : 0 < Nat.pow 2 bits := Nat.two_pow_pos bits
  constructor
  · rintro same ⟨head, tail, rfl, isHead, halfway, more⟩
    have behind : ∀ d ∈ tail, d < Nat.pow 2 bits :=
      fun d member => digits d (List.mem_append_right _ member)
    have below := digitsValue_lt behind
    have rest : digitsValue (Nat.pow 2 bits) tail ≠ 0 := by
      obtain ⟨d, member, nonzero⟩ := more
      exact fun zero => nonzero ((digitsValue_eq_zero_iff positive tail).1 zero d member)
    rw [foldl_appendDigit_of_head isHead behind, digitsValue_append, pow_pow,
      roundToFit_append_of_halfway isHead.long (pow_pow _ _ ▸ below) halfway rest] at same
    have equal := Nat.eq_of_mul_eq_mul_right (Nat.two_pow_pos _) same
    have unit : 0 < Nat.pow 2 (lastPlace (digitsValue (Nat.pow 2 bits) head)) := Nat.two_pow_pos _
    omega
  · intro kept
    by_cases long : Nat.pow 2 53 ≤ digitsValue (Nat.pow 2 bits) values
    · obtain ⟨head, tail, rfl, isHead⟩ := exists_head long
      have behind : ∀ d ∈ tail, d < Nat.pow 2 bits :=
        fun d member => digits d (List.mem_append_right _ member)
      have below := digitsValue_lt behind
      have decided : ¬ (HalfwayAboveEven (digitsValue (Nat.pow 2 bits) head) ∧
          digitsValue (Nat.pow 2 bits) tail ≠ 0) := by
        rintro ⟨halfway, rest⟩
        rw [Ne, digitsValue_eq_zero_iff positive] at rest
        simp only [not_forall] at rest
        obtain ⟨d, member, nonzero⟩ := rest
        exact kept ⟨head, tail, rfl, isHead, halfway, d, member, nonzero⟩
      rw [foldl_appendDigit_of_head isHead behind, digitsValue_append, pow_pow,
        roundToFit_append isHead.long (pow_pow _ _ ▸ below) decided]
    · have short := Nat.not_le.1 long
      rw [foldl_appendDigit_of_lt short, roundToFit_of_fits (fits_of_lt short)]

/-! ## Digits of a text -/

theorem lt_of_radixDigit? {radix digit : Nat} {c : Char} (h : radixDigit? radix c = some digit) :
    digit < radix := by
  unfold radixDigit? at h
  simpa using (Option.filter_eq_some_iff.1 h).2

theorem lt_of_mem_mapM {radix : Nat} {digits : List Char} {values : List Nat}
    (read : digits.mapM (radixDigit? radix) = some values) : ∀ d ∈ values, d < radix := by
  induction digits generalizing values with
  | nil =>
    cases read
    simp
  | cons c digits ih =>
    simp only [List.mapM_cons, Option.bind_eq_bind, Option.bind_eq_some_iff] at read
    obtain ⟨digit, first, rest, others, same⟩ := read
    cases same
    exact List.forall_mem_cons.2 ⟨lt_of_radixDigit? first, ih others⟩

theorem ofRadix_of_mapM {radix : Nat} {digits : List Char} {values : List Nat}
    (nonempty : digits ≠ []) (read : digits.mapM (radixDigit? radix) = some values) :
    ofRadix radix digits = .ofNat (values.foldl (appendDigit radix) 0) := by
  unfold ofRadix
  rw [if_neg (by simpa using nonempty), read]

/-- What is rounded is no more than the value. -/
theorem exists_foldl_appendDigit_eq {values : List Nat}
    (digits : ∀ d ∈ values, d < Nat.pow 2 bits) :
    ∃ n ≤ digitsValue (Nat.pow 2 bits) values,
      values.foldl (appendDigit (Nat.pow 2 bits)) 0 = roundToFit n 1 := by
  by_cases long : Nat.pow 2 53 ≤ digitsValue (Nat.pow 2 bits) values
  · obtain ⟨head, tail, rfl, isHead⟩ := exists_head long
    have behind : ∀ d ∈ tail, d < Nat.pow 2 bits :=
      fun d member => digits d (List.mem_append_right _ member)
    refine ⟨_, ?_, foldl_appendDigit_eq_roundToFit isHead behind⟩
    rw [digitsValue_append]
    exact Nat.le_add_right _ _
  · have short := Nat.not_le.1 long
    refine ⟨_, Nat.le_refl _, ?_⟩
    rw [foldl_appendDigit_of_lt short, roundToFit_of_fits (fits_of_lt short)]

/-- **The digits of a base give the number nearest to their value**, unless a tie is lost: what
follows the head counts as zeros. -/
theorem ofRadix_eq_nearest_iff {radix : Nat} (base : radix = 16 ∨ radix = 8 ∨ radix = 2)
    {digits : List Char} {values : List Nat} (nonempty : digits ≠ [])
    (read : digits.mapM (radixDigit? radix) = some values)
    (below : digitsValue radix values < Nat.pow 2 1023) :
    (∀ head tail, values = head ++ tail → IsHead radix head →
      ofRadix radix digits = .ofNat (digitsValue radix head * Nat.pow radix tail.length)) ∧
    (ofRadix radix digits = .ofNat (digitsValue radix values) ↔ ¬ LosesTie radix values) := by
  obtain ⟨bits, rfl⟩ : ∃ bits, radix = Nat.pow 2 bits := by
    rcases base with rfl | rfl | rfl
    exacts [⟨4, rfl⟩, ⟨3, rfl⟩, ⟨1, rfl⟩]
  have small := lt_of_mem_mapM read
  rw [ofRadix_of_mapM nonempty read]
  constructor
  · rintro head tail rfl isHead
    have behind : ∀ d ∈ tail, d < Nat.pow 2 bits :=
      fun d member => small d (List.mem_append_right _ member)
    rw [foldl_appendDigit_eq_roundToFit isHead behind, Binary64.ofNat_roundToFit]
  · obtain ⟨n, kept, folded⟩ := exists_foldl_appendDigit_eq small
    rw [← foldl_appendDigit_eq_iff small, folded, Binary64.ofNat_roundToFit]
    exact Binary64.ofNat_eq_ofNat_iff (by decide) (Nat.lt_of_le_of_lt kept below) below

/-- The digits of `2 ^ 53 + 1`, which lies halfway above an even neighbour, and a one. -/
def tieDigits : List Char :=
  "200000000000011".toList

/-- The values of the digits before the one at the end. -/
def tieHead : List Nat :=
  [2, 0, 0, 0, 0, 0, 0, 0, 0, 0, 0, 0, 0, 1]

theorem mapM_tieDigits : tieDigits.mapM (radixDigit? 16) = some (tieHead ++ [1]) := by
  decide +kernel

theorem isHead_tieHead : IsHead 16 tieHead :=
  ⟨by decide, by decide⟩

theorem ofRadix_eq_nearest_iff_tieDigits :
    LosesTie 16 (tieHead ++ [1]) ∧
      ofRadix 16 tieDigits = .ofNat (digitsValue 16 tieHead * Nat.pow 16 1) ∧
      (ofRadix 16 tieDigits = .ofNat (digitsValue 16 (tieHead ++ [1])) ↔
        ¬ LosesTie 16 (tieHead ++ [1])) := by
  have result := ofRadix_eq_nearest_iff (.inl rfl) (by decide) mapM_tieDigits (by decide +kernel)
  refine ⟨⟨tieHead, [1], rfl, isHead_tieHead, by decide, 1, by simp⟩, ?_, result.2⟩
  exact result.1 tieHead [1] rfl isHead_tieHead

/-- Rounding at every digit is not rounding once. -/
theorem ofRadix_ne_nearest_tieDigits :
    tieDigits.mapM (radixDigit? 16) = some (tieHead ++ [1]) ∧
      digitsValue 16 (tieHead ++ [1]) < Nat.pow 2 1023 ∧
      ofRadix 16 tieDigits ≠ .ofNat (digitsValue 16 (tieHead ++ [1])) :=
  ⟨mapM_tieDigits, by decide +kernel, by decide +kernel⟩

end ScriptTree.Build
