/-!
# Rounding to 53 significant binary digits

`roundQuotient` rounds a quotient of natural numbers to the nearest integer, and `roundToFit` to
the nearest number that 53 significant binary digits can hold. A quotient that lies halfway goes
to the even neighbour.
-/

namespace ScriptTree.Number
set_option autoImplicit false

/-- The integer nearest to `n / d`; of two equally near ones, the even one. -/
def roundQuotient (n d : Nat) : Nat :=
  if 2 * (n % d) < d then n / d
  else if d < 2 * (n % d) then n / d + 1
  else n / d + n / d % 2

theorem roundQuotient_le (n d : Nat) : roundQuotient n d ≤ n / d + 1 := by
  unfold roundQuotient
  split
  · omega
  · split <;> omega

/-- A number that 53 significant binary digits can hold. -/
def Fits (n : Nat) : Prop :=
  ∃ m q, m < Nat.pow 2 53 ∧ n = m * Nat.pow 2 q

/-- The binary place of the last of the 53 digits kept of a number whose integral part is `n`. -/
def lastPlace (n : Nat) : Nat :=
  n.log2 - 52

/-- The number nearest to `n / d` among the integers with 53 significant binary digits. -/
def roundToFit (n d : Nat) : Nat :=
  roundQuotient n (d * Nat.pow 2 (lastPlace (n / d))) * Nat.pow 2 (lastPlace (n / d))

theorem div_lastPlace_lt (n : Nat) : n / Nat.pow 2 (lastPlace n) < Nat.pow 2 53 := by
  rw [Nat.pow_eq, Nat.pow_eq, Nat.div_lt_iff_lt_mul (Nat.two_pow_pos _), ← Nat.pow_add]
  refine Nat.lt_of_lt_of_le Nat.lt_log2_self (Nat.pow_le_pow_right (by decide) ?_)
  unfold lastPlace
  omega

theorem fits_roundToFit (n d : Nat) : Fits (roundToFit n d) := by
  have bound : roundQuotient n (d * Nat.pow 2 (lastPlace (n / d))) ≤ Nat.pow 2 53 := by
    refine Nat.le_trans (roundQuotient_le _ _) ?_
    rw [← Nat.div_div_eq_div_mul]
    exact div_lastPlace_lt (n / d)
  unfold roundToFit
  rcases Nat.lt_or_eq_of_le bound with below | top
  · exact ⟨_, _, below, rfl⟩
  · refine ⟨1, 53 + lastPlace (n / d), by decide, ?_⟩
    rw [top, Nat.one_mul]
    exact (Nat.pow_add 2 53 (lastPlace (n / d))).symm

end ScriptTree.Number
