import ScriptTree.Number.Binary64

/-!
# Operations that stay finite

Rounding does not lead over a power of two. So a quotient of numbers is finite if the divisor is
two or more, and a natural number is finite if it is far below the limit of the format.
-/

namespace ScriptTree.Number
set_option autoImplicit false

theorem le_roundQuotient (n d : Nat) : n / d ≤ roundQuotient n d := by
  unfold roundQuotient
  split
  · exact Nat.le_refl _
  · split <;> omega

theorem lastPlace_le {q k : Nat} (below : q < Nat.pow 2 k) : lastPlace q ≤ k := by
  unfold lastPlace
  by_cases zero : q = 0
  · simp [zero]
  · have := (Nat.log2_lt zero).2 below
    omega

/-- What is below a power of two is not rounded to more than that power. -/
theorem roundToFit_le {n d k : Nat} (below : n / d < Nat.pow 2 k) :
    roundToFit n d ≤ Nat.pow 2 k := by
  have place : lastPlace (n / d) ≤ k := lastPlace_le below
  have split : Nat.pow 2 (k - lastPlace (n / d)) * Nat.pow 2 (lastPlace (n / d)) = Nat.pow 2 k := by
    rw [Nat.pow_eq, Nat.pow_eq, Nat.pow_eq, ← Nat.pow_add, Nat.sub_add_cancel place]
  unfold roundToFit
  generalize lastPlace (n / d) = p at place split
  have unit : 0 < Nat.pow 2 p := Nat.two_pow_pos p
  have quotient : n / (d * Nat.pow 2 p) < Nat.pow 2 (k - p) := by
    rw [← Nat.div_div_eq_div_mul, Nat.div_lt_iff_lt_mul unit, split]
    exact below
  calc roundQuotient n (d * Nat.pow 2 p) * Nat.pow 2 p
      ≤ (n / (d * Nat.pow 2 p) + 1) * Nat.pow 2 p :=
        Nat.mul_le_mul_right _ (roundQuotient_le _ _)
    _ ≤ Nat.pow 2 (k - p) * Nat.pow 2 p := Nat.mul_le_mul_right _ quotient
    _ = Nat.pow 2 k := split

/-- What is not below a power of two is not rounded to less than that power. -/
theorem le_roundToFit {n d k : Nat} (above : Nat.pow 2 k ≤ n / d) :
    Nat.pow 2 k ≤ roundToFit n d := by
  have quotient : n / d / Nat.pow 2 (lastPlace (n / d)) * Nat.pow 2 (lastPlace (n / d)) ≤
      roundToFit n d := by
    unfold roundToFit
    rw [Nat.div_div_eq_div_mul]
    exact Nat.mul_le_mul_right _ (le_roundQuotient _ _)
  refine Nat.le_trans ?_ quotient
  have some : n / d ≠ 0 := fun none => by
    rw [none] at above
    exact absurd (Nat.two_pow_pos k) (Nat.not_lt.2 above)
  have leading : Nat.pow 2 (n / d).log2 ≤ n / d := Nat.log2_self_le some
  by_cases place : lastPlace (n / d) ≤ k
  · calc Nat.pow 2 k
        = Nat.pow 2 (k - lastPlace (n / d)) * Nat.pow 2 (lastPlace (n / d)) := by
          rw [Nat.pow_eq, Nat.pow_eq, Nat.pow_eq, ← Nat.pow_add, Nat.sub_add_cancel place]
      _ ≤ n / d / Nat.pow 2 (lastPlace (n / d)) * Nat.pow 2 (lastPlace (n / d)) := by
          refine Nat.mul_le_mul_right _ ((Nat.le_div_iff_mul_le (Nat.two_pow_pos _)).2 ?_)
          rw [Nat.pow_eq, ← Nat.pow_add, Nat.sub_add_cancel place]
          exact above
  · have below : k ≤ lastPlace (n / d) := by omega
    have digits : lastPlace (n / d) ≤ (n / d).log2 := by
      unfold lastPlace
      omega
    calc Nat.pow 2 k
        ≤ 1 * Nat.pow 2 (lastPlace (n / d)) := by
          rw [Nat.one_mul]
          exact Nat.pow_le_pow_right Nat.two_pos below
      _ ≤ n / d / Nat.pow 2 (lastPlace (n / d)) * Nat.pow 2 (lastPlace (n / d)) := by
          refine Nat.mul_le_mul_right _ ((Nat.le_div_iff_mul_le (Nat.two_pow_pos _)).2 ?_)
          rw [Nat.one_mul]
          exact Nat.le_trans (Nat.pow_le_pow_right Nat.two_pos digits) leading

namespace Binary64

/-- A number that is neither infinite nor no number at all. -/
def isFinite : Binary64 → Bool
  | .finite _ _ => true
  | _ => false

/-- A finite number of no more than so many binary places, counted from the smallest unit. -/
def Within (places : Nat) (x : Binary64) : Prop :=
  ∃ negative m, x = .finite negative m ∧ m.units ≤ Nat.pow 2 places

theorem Within.isFinite {places : Nat} {x : Binary64} (h : x.Within places) :
    x.isFinite = true := by
  obtain ⟨negative, m, rfl, -⟩ := h
  rfl

theorem within_ofRatio {negative : Bool} {n d places : Nat} (room : places < 1024 + unitPlace)
    (below : n * Nat.pow 2 unitPlace / d < Nat.pow 2 places) :
    (ofRatio negative n d).Within places := by
  have rounded := roundToFit_le below
  have limit : Nat.pow 2 places < unitLimit := by
    unfold unitLimit
    generalize 1024 + unitPlace = top at room
    exact Nat.pow_lt_pow_right (by decide) room
  have bounded : roundToFit (n * Nat.pow 2 unitPlace) d < unitLimit :=
    Nat.lt_of_le_of_lt rounded limit
  unfold ofRatio
  rw [dif_pos bounded]
  exact ⟨negative, _, rfl, rounded⟩

/-- A natural number far below the limit is finite. -/
theorem within_ofNat {n bits : Nat} (negative : Bool) (room : bits < 1024)
    (below : n < Nat.pow 2 bits) : (ofRatio negative n 1).Within (bits + unitPlace) := by
  apply within_ofRatio
  · exact Nat.add_lt_add_right room unitPlace
  · generalize unitPlace = place
    rw [Nat.div_one, Nat.pow_eq, Nat.pow_eq, Nat.pow_add]
    exact Nat.mul_lt_mul_of_pos_right below (Nat.two_pow_pos place)

theorem isFinite_ofRatio {negative : Bool} {n d : Nat}
    (finite : (ofRatio negative n d).isInfinite = false) :
    (ofRatio negative n d).isFinite = true := by
  unfold ofRatio at finite ⊢
  split
  · rfl
  · rename_i beyond
    rw [dif_neg beyond] at finite
    cases finite

/-- A power of ten, from ten on, is two or more. -/
theorem units_powerOfTen {k : Nat} (some : 0 < k) {negative : Bool} {m : Magnitude}
    (finite : powerOfTen k = .finite negative m) : Nat.pow 2 (1 + unitPlace) ≤ m.units := by
  unfold powerOfTen ofNat ofRatio at finite
  split at finite
  · cases finite
    apply le_roundToFit
    have two : 2 ≤ Nat.pow 10 k := Nat.le_trans (by decide : 2 ≤ Nat.pow 10 1)
      (Nat.pow_le_pow_right (by decide) some)
    generalize unitPlace = place
    rw [Nat.div_one, Nat.pow_eq, Nat.pow_add]
    exact Nat.mul_le_mul_right _ two
  · cases finite

/-- Division by two or more does not lead out of the places. -/
theorem within_div_powerOfTen {places k : Nat} (some : 0 < k)
    (room : places < 1024 + unitPlace) {x : Binary64} (h : x.Within places) :
    (x.div (powerOfTen k)).Within places := by
  obtain ⟨s, a, rfl, bound⟩ := h
  cases divisor : powerOfTen k with
  | nan =>
    unfold powerOfTen ofNat ofRatio at divisor
    split at divisor <;> cases divisor
  | infinity t => exact ⟨s != t, _, rfl, Nat.zero_le _⟩
  | finite t b =>
    have two := units_powerOfTen some divisor
    have positiveUnits : 0 < b.units := by
      generalize 1 + unitPlace = place at two
      exact Nat.lt_of_lt_of_le (Nat.two_pow_pos place) two
    rw [div, if_neg (Nat.ne_of_gt positiveUnits)]
    apply within_ofRatio room
    generalize unitPlace = place at two ⊢
    rw [Nat.div_lt_iff_lt_mul positiveUnits]
    calc a.units * Nat.pow 2 place
        ≤ Nat.pow 2 places * Nat.pow 2 place := Nat.mul_le_mul_right _ bound
      _ < Nat.pow 2 places * Nat.pow 2 (1 + place) :=
        Nat.mul_lt_mul_of_pos_left (Nat.pow_lt_pow_right (by decide) (by omega))
          (Nat.two_pow_pos places)
      _ ≤ Nat.pow 2 places * b.units := Nat.mul_le_mul_left _ two

/-- The powers of ten that numbers are scaled by are finite. -/
theorem isFinite_powerOfTen {k : Nat} (small : k ≤ 308) : (powerOfTen k).isFinite = true := by
  rcases Nat.lt_or_eq_of_le small with less | rfl
  · have below (top : Nat) (up : k ≤ top) (last : Nat.pow 10 top < Nat.pow 2 1023) :
        Nat.pow 10 k < Nat.pow 2 1023 :=
      Nat.lt_of_le_of_lt (Nat.pow_le_pow_right (by decide) up) last
    have bits := below 307 (Nat.le_of_lt_succ less) (by decide +kernel)
    exact (within_ofNat false (by decide) bits).isFinite
  -- the last one lies above the power of two before the limit, so it is computed
  · decide +kernel

theorem isFinite_mul {x y : Binary64} (left : x.isFinite = true) (right : y.isFinite = true)
    (finite : (x.mul y).isInfinite = false) : (x.mul y).isFinite = true := by
  cases x with
  | finite s a =>
    cases y with
    | finite t b => exact isFinite_ofRatio finite
    | _ => cases right
  | _ => cases left

theorem isFinite_negate (x : Binary64) : x.negate.isFinite = x.isFinite := by
  cases x <;> rfl

theorem isFinite_withSign (negative : Bool) (x : Binary64) :
    (x.withSign negative).isFinite = x.isFinite := by
  cases negative with
  | false => rfl
  | true => exact isFinite_negate x

end Binary64

end ScriptTree.Number
