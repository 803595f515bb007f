import ScriptTree.Proofs.Number.Finite

/-!
# Rounding a number that is followed by more digits

A number that fits is its own rounding. Binary digits behind a number of more than 53 digits change
nothing about its rounding but in one case: the number lies halfway between its neighbours, the
lower one is even, and the digits behind it are not all zero (`roundToFit_append`).
-/

namespace ScriptTree.Number
set_option autoImplicit false

/-! ## Numbers that fit -/

theorem fits_of_lt {n : Nat} (small : n < Nat.pow 2 53) : Fits n :=
  ⟨n, 0, small, (Nat.mul_one n).symm⟩

theorem Fits.mul_pow {n : Nat} (fits : Fits n) (k : Nat) : Fits (n * Nat.pow 2 k) := by
  obtain ⟨m, q, small, rfl⟩ := fits
  refine ⟨m, q + k, small, ?_⟩
  rw [Nat.pow_eq, Nat.pow_eq, Nat.pow_eq, Nat.pow_add, Nat.mul_assoc]

/-- The digits of a number that fits are all kept. -/
theorem Fits.pow_lastPlace_dvd {n : Nat} (fits : Fits n) : Nat.pow 2 (lastPlace n) ∣ n := by
  obtain ⟨m, q, small, rfl⟩ := fits
  by_cases zero : m * Nat.pow 2 q = 0
  · rw [zero]
    exact Nat.dvd_zero _
  have below : m * Nat.pow 2 q < Nat.pow 2 (53 + q) := by
    rw [Nat.pow_eq, Nat.pow_eq, Nat.pow_add]
    exact Nat.mul_lt_mul_of_pos_right small (Nat.two_pow_pos q)
  have log : (m * Nat.pow 2 q).log2 < 53 + q := (Nat.log2_lt zero).2 below
  have place : lastPlace (m * Nat.pow 2 q) ≤ q := by
    unfold lastPlace
    omega
  exact Nat.dvd_mul_left_of_dvd (Nat.pow_dvd_pow 2 place) m

theorem roundToFit_of_fits {n : Nat} (fits : Fits n) : roundToFit n 1 = n := by
  have whole := fits.pow_lastPlace_dvd
  have unit : 0 < Nat.pow 2 (lastPlace n) := Nat.two_pow_pos _
  have exactly : n % Nat.pow 2 (lastPlace n) = 0 := Nat.mod_eq_zero_of_dvd whole
  unfold roundToFit
  rw [Nat.div_one, Nat.one_mul, roundQuotient, if_pos (by omega)]
  exact Nat.div_mul_cancel whole

/-! ## Digits behind a number -/

/-- A number halfway between two neighbours that fit, of which the lower one is even. -/
def HalfwayAboveEven (n : Nat) : Prop :=
  2 * (n % Nat.pow 2 (lastPlace n)) = Nat.pow 2 (lastPlace n) ∧
    n / Nat.pow 2 (lastPlace n) % 2 = 0

instance (n : Nat) : Decidable (HalfwayAboveEven n) :=
  inferInstanceAs (Decidable (_ ∧ _))

theorem Fits.not_halfwayAboveEven {n : Nat} (fits : Fits n) : ¬ HalfwayAboveEven n := by
  rintro ⟨tie, -⟩
  have unit : 0 < Nat.pow 2 (lastPlace n) := Nat.two_pow_pos _
  have exactly : n % Nat.pow 2 (lastPlace n) = 0 := Nat.mod_eq_zero_of_dvd fits.pow_lastPlace_dvd
  omega

/-- A quotient by an even number whose dividend goes on with less than one unit. -/
theorem roundQuotient_append {n half unit rest : Nat} (below : rest < unit) :
    roundQuotient (n * unit + rest) (2 * half * unit) =
      if n % (2 * half) = half ∧ rest ≠ 0 then n / (2 * half) + 1
      else roundQuotient n (2 * half) := by
  have positive : 0 < unit := Nat.zero_lt_of_lt below
  have front : (n * unit + rest) / unit = n := by
    rw [Nat.add_comm, Nat.add_mul_div_right _ _ positive, Nat.div_eq_of_lt below, Nat.zero_add]
  have last : (n * unit + rest) % unit = rest := by
    rw [Nat.mul_add_mod_self_right, Nat.mod_eq_of_lt below]
  have quotient : (n * unit + rest) / (2 * half * unit) = n / (2 * half) := by
    rw [Nat.mul_comm (2 * half), ← Nat.div_div_eq_div_mul, front]
  have remainder : (n * unit + rest) % (2 * half * unit) = rest + unit * (n % (2 * half)) := by
    rw [Nat.mul_comm (2 * half), Nat.mod_mul, front, last]
  have width : 2 * half * unit = 2 * (unit * half) := by
    rw [Nat.mul_assoc, Nat.mul_comm half]
  unfold roundQuotient
  rw [quotient, remainder, width]
  -- the part of `n` behind the point decides, unless it is one half
  rcases Nat.lt_trichotomy (n % (2 * half)) half with less | same | more
  · have room : unit * (n % (2 * half)) + unit ≤ unit * half := Nat.mul_le_mul_left unit less
    rw [if_pos (by omega), if_neg (by omega), if_pos (by omega)]
  · rw [same]
    by_cases zero : rest = 0
    · simp [zero]
    · rw [if_neg (by omega), if_pos (by omega), if_pos ⟨rfl, zero⟩]
  · have room : unit * half + unit ≤ unit * (n % (2 * half)) := Nat.mul_le_mul_left unit more
    rw [if_neg (by omega), if_pos (by omega), if_neg (by omega), if_neg (by omega),
      if_pos (by omega)]

theorem log2_append {n places rest : Nat} (some : n ≠ 0) (below : rest < Nat.pow 2 places) :
    (n * Nat.pow 2 places + rest).log2 = n.log2 + places := by
  have low : Nat.pow 2 n.log2 ≤ n := Nat.log2_self_le some
  have high : n + 1 ≤ Nat.pow 2 (n.log2 + 1) := Nat.lt_log2_self
  have least : Nat.pow 2 (n.log2 + places) ≤ n * Nat.pow 2 places + rest := by
    refine Nat.le_trans ?_ (Nat.le_add_right _ _)
    rw [Nat.pow_eq, Nat.pow_add]
    exact Nat.mul_le_mul_right _ low
  have most : n * Nat.pow 2 places + rest < Nat.pow 2 (n.log2 + places + 1) := by
    calc n * Nat.pow 2 places + rest
        < n * Nat.pow 2 places + Nat.pow 2 places := Nat.add_lt_add_left below _
      _ = (n + 1) * Nat.pow 2 places := (Nat.succ_mul n _).symm
      _ ≤ Nat.pow 2 (n.log2 + 1) * Nat.pow 2 places := Nat.mul_le_mul_right _ high
      _ = Nat.pow 2 (n.log2 + places + 1) := by
        rw [Nat.pow_eq, Nat.pow_eq, Nat.pow_eq, ← Nat.pow_add, Nat.add_right_comm]
  have positive : n * Nat.pow 2 places + rest ≠ 0 :=
    Nat.ne_of_gt (Nat.lt_of_lt_of_le (Nat.two_pow_pos _) least)
  exact (Nat.log2_eq_iff positive).2 ⟨least, most⟩

/-- A number of more than 53 digits, by the two neighbours that fit. -/
theorem roundToFit_append_eq {n places rest : Nat} (long : Nat.pow 2 53 ≤ n)
    (below : rest < Nat.pow 2 places) :
    roundToFit (n * Nat.pow 2 places + rest) 1 =
      (if 2 * (n % Nat.pow 2 (lastPlace n)) = Nat.pow 2 (lastPlace n) ∧ rest ≠ 0 then
        n / Nat.pow 2 (lastPlace n) + 1
      else roundQuotient n (Nat.pow 2 (lastPlace n))) *
        Nat.pow 2 (lastPlace n) * Nat.pow 2 places := by
  have some : n ≠ 0 := Nat.ne_of_gt (Nat.lt_of_lt_of_le (by decide) long)
  have log : 53 ≤ n.log2 := (Nat.le_log2 some).2 long
  obtain ⟨k, place⟩ : ∃ k, lastPlace n = k + 1 := ⟨n.log2 - 53, by unfold lastPlace; omega⟩
  have further : lastPlace (n * Nat.pow 2 places + rest) = lastPlace n + places := by
    unfold lastPlace
    rw [log2_append some below]
    omega
  have half : Nat.pow 2 (lastPlace n) = 2 * Nat.pow 2 k := by
    rw [place, Nat.pow_eq, Nat.pow_succ, Nat.mul_comm]
    rfl
  have width : Nat.pow 2 (lastPlace n + places) = 2 * Nat.pow 2 k * Nat.pow 2 places := by
    rw [← half]
    exact Nat.pow_add 2 (lastPlace n) places
  have tie : 2 * (n % (2 * Nat.pow 2 k)) = 2 * Nat.pow 2 k ↔
      n % (2 * Nat.pow 2 k) = Nat.pow 2 k := by
    omega
  unfold roundToFit
  rw [Nat.div_one, further, Nat.one_mul, width, half, roundQuotient_append below,
    ← Nat.mul_assoc]
  simp only [tie]

/-- Digits behind a number of more than 53 digits change nothing about its rounding, unless the
number lies halfway above an even neighbour. -/
theorem roundToFit_append {n places rest : Nat} (long : Nat.pow 2 53 ≤ n)
    (below : rest < Nat.pow 2 places) (kept : ¬ (HalfwayAboveEven n ∧ rest ≠ 0)) :
    roundToFit (n * Nat.pow 2 places + rest) 1 = roundToFit n 1 * Nat.pow 2 places := by
  rw [roundToFit_append_eq long below]
  unfold roundToFit
  rw [Nat.div_one, Nat.one_mul]
  split
  · rename_i tie
    have odd : n / Nat.pow 2 (lastPlace n) % 2 = 1 := by
      have : ¬ n / Nat.pow 2 (lastPlace n) % 2 = 0 := fun even => kept ⟨⟨tie.1, even⟩, tie.2⟩
      omega
    rw [roundQuotient, if_neg (by omega), if_neg (by omega), odd]
  · rfl

theorem roundToFit_mul_pow (n places : Nat) :
    roundToFit (n * Nat.pow 2 places) 1 = roundToFit n 1 * Nat.pow 2 places := by
  by_cases long : Nat.pow 2 53 ≤ n
  · have nothing : ¬ (HalfwayAboveEven n ∧ 0 ≠ 0) := fun lost => lost.2 rfl
    exact roundToFit_append long (Nat.two_pow_pos places) nothing
  · have fits := fits_of_lt (Nat.not_le.1 long)
    rw [roundToFit_of_fits fits, roundToFit_of_fits (fits.mul_pow places)]

/-- Halfway above an even neighbour, a number is rounded down, and up if more digits follow. -/
theorem roundToFit_append_of_halfway {n places rest : Nat} (long : Nat.pow 2 53 ≤ n)
    (below : rest < Nat.pow 2 places) (halfway : HalfwayAboveEven n) (more : rest ≠ 0) :
    roundToFit (n * Nat.pow 2 places + rest) 1 =
      (roundToFit n 1 + Nat.pow 2 (lastPlace n)) * Nat.pow 2 places := by
  obtain ⟨tie, even⟩ := halfway
  have down : roundQuotient n (Nat.pow 2 (lastPlace n)) = n / Nat.pow 2 (lastPlace n) := by
    rw [roundQuotient, if_neg (by omega), if_neg (by omega), even, Nat.add_zero]
  rw [roundToFit_append_eq long below, if_pos ⟨tie, more⟩]
  unfold roundToFit
  rw [Nat.div_one, Nat.one_mul, down, Nat.succ_mul]

/-! ## Natural numbers in the format -/

namespace Binary64

/-- The number nearest to a natural number is the one nearest to its rounding. -/
theorem ofNat_roundToFit (n : Nat) : ofNat (roundToFit n 1) = ofNat n := by
  have same : roundToFit (roundToFit n 1 * Nat.pow 2 unitPlace) 1 =
      roundToFit (n * Nat.pow 2 unitPlace) 1 := by
    rw [roundToFit_mul_pow, roundToFit_mul_pow, roundToFit_of_fits (fits_roundToFit n 1)]
  simp only [ofNat, ofRatio, same]

theorem ofNat_of_fits {n bits : Nat} (fits : Fits n) (room : bits ≤ 1024)
    (bounded : n < Nat.pow 2 bits) :
    ∃ m, ofNat n = .finite false m ∧ m.units = n * Nat.pow 2 unitPlace := by
  have exactly : roundToFit (n * Nat.pow 2 unitPlace) 1 = n * Nat.pow 2 unitPlace :=
    roundToFit_of_fits (fits.mul_pow unitPlace)
  have limit : roundToFit (n * Nat.pow 2 unitPlace) 1 < unitLimit := by
    rw [exactly]
    unfold unitLimit
    generalize unitPlace = place
    have places : bits + place ≤ 1024 + place := Nat.add_le_add_right room place
    generalize 1024 + place = top at places
    calc n * Nat.pow 2 place
        < Nat.pow 2 bits * Nat.pow 2 place :=
          Nat.mul_lt_mul_of_pos_right bounded (Nat.two_pow_pos place)
      _ = Nat.pow 2 (bits + place) := (Nat.pow_add 2 bits place).symm
      _ ≤ Nat.pow 2 top := Nat.pow_le_pow_right Nat.two_pos places
  unfold ofNat ofRatio
  rw [dif_pos limit]
  exact ⟨_, rfl, exactly⟩

/-- Below the limit of the format, numbers are told apart by their roundings. -/
theorem ofNat_eq_ofNat_iff {a b bits : Nat} (room : bits < 1024) (left : a < Nat.pow 2 bits)
    (right : b < Nat.pow 2 bits) : ofNat a = ofNat b ↔ roundToFit a 1 = roundToFit b 1 := by
  have bounded {n : Nat} (below : n < Nat.pow 2 bits) :
      roundToFit n 1 < Nat.pow 2 (bits + 1) := by
    have rounded : roundToFit n 1 ≤ Nat.pow 2 bits := roundToFit_le (by rwa [Nat.div_one])
    exact Nat.lt_of_le_of_lt rounded (Nat.pow_lt_pow_right (by decide) (Nat.lt_succ_self bits))
  rw [← ofNat_roundToFit a, ← ofNat_roundToFit b]
  constructor
  · intro same
    obtain ⟨m, first, unitsA⟩ := ofNat_of_fits (fits_roundToFit a 1) room (bounded left)
    obtain ⟨k, second, unitsB⟩ := ofNat_of_fits (fits_roundToFit b 1) room (bounded right)
    rw [first, second] at same
    obtain rfl : m = k := (Binary64.finite.inj same).2
    rw [unitsA] at unitsB
    generalize unitPlace = place at unitsB
    exact Nat.eq_of_mul_eq_mul_right (Nat.two_pow_pos place) unitsB
  · intro same
    rw [same]

end Binary64

end ScriptTree.Number
