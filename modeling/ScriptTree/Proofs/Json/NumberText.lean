import ScriptTree.Json.Numeral
import ScriptTree.Proofs.Text.Digits

/-!
# The text of a number is read as one number

`Numeral.scan` takes exactly the text of a numeral off the front of a longer text, if the rest
does not go on with a character of a number. The text of a finite number is the text of a numeral
with a point or an exponent, so that all that can go wrong with it is that its value is out of
range: `readNumber_realText`.
-/

namespace ScriptTree.Json
set_option autoImplicit false
open Number

/-- One or more digits. -/
def IsDigits (cs : List Char) : Prop :=
  cs ≠ [] ∧ ∀ c ∈ cs, c.isDigit = true

/-- A character that a number can go on with. -/
def isNumberChar (c : Char) : Bool :=
  c.isDigit || c == '.' || c == 'e' || c == 'E'

/-- A number does not go on into this text. -/
def EndsNumber (rest : List Char) : Prop :=
  Text.Ends isNumberChar rest

theorem endsNumber_nil : EndsNumber [] :=
  Text.ends_nil _

theorem endsNumber_cons {c : Char} {rest : List Char} :
    EndsNumber (c :: rest) ↔ isNumberChar c = false :=
  Text.ends_cons

theorem isDigits_decimalDigits (n : Nat) : IsDigits (Text.decimalDigits n) :=
  ⟨Text.decimalDigits_ne_nil n, fun _ => Text.isDigit_of_mem_decimalDigits⟩

theorem IsDigits.append {a b : List Char} (left : IsDigits a) (right : ∀ c ∈ b, c.isDigit = true) :
    IsDigits (a ++ b) := by
  refine ⟨by simp [left.1], fun c member => ?_⟩
  rcases List.mem_append.1 member with inLeft | inRight
  · exact left.2 c inLeft
  · exact right c inRight

theorem isDigit_of_mem_zeros {k : Nat} {c : Char} (h : c ∈ List.replicate k '0') :
    c.isDigit = true := by
  rw [(List.mem_replicate.1 h).2]
  rfl

/-! ## Numerals -/

namespace Numeral

/-- The sign of a number. -/
def signText (negative : Bool) : List Char :=
  if negative then ['-'] else []

/-- The point and the digits after it. -/
def fractionText : Option (List Char) → List Char
  | none => []
  | some digits => '.' :: digits

/-- The exponent with its sign. -/
def exponentText : Option (Bool × List Char) → List Char
  | none => []
  | some (negative, digits) => 'e' :: (if negative then '-' else '+') :: digits

/-- The text of a numeral; an exponent always has a sign. -/
def text (n : Numeral) : List Char :=
  signText n.negative ++ (n.whole ++ (fractionText n.fraction ++ exponentText n.exponent))

/-- A numeral as the grammar of numbers has it. -/
structure WellFormed (n : Numeral) : Prop where
  whole : IsDigits n.whole
  noLeadingZero : ∀ digits, n.whole = '0' :: digits → digits = []
  fraction : ∀ digits, n.fraction = some digits → IsDigits digits
  exponent : ∀ negative digits, n.exponent = some (negative, digits) → IsDigits digits

theorem takeDigits_run {digits rest : List Char} (h : IsDigits digits)
    (stop : Text.Ends Char.isDigit rest) : takeDigits (digits ++ rest) = .ok (digits, rest) := by
  unfold takeDigits
  rw [Text.takeWhile_run h.2 stop, Text.dropWhile_run h.2 stop]
  simp [h.1]

theorem takeWhole_run {digits rest : List Char} (h : IsDigits digits)
    (noLeadingZero : ∀ more, digits = '0' :: more → more = [])
    (stop : Text.Ends Char.isDigit rest) : takeWhole (digits ++ rest) = .ok (digits, rest) := by
  unfold takeWhole
  split
  · rename_i zero tail text
    cases digits with
    | nil => exact absurd rfl h.1
    | cons d more =>
      obtain ⟨rfl, rfl⟩ := List.cons.inj text
      have alone := noLeadingZero more rfl
      subst alone
      have none : ([] ++ rest).takeWhile Char.isDigit = [] := Text.takeWhile_run (by simp) stop
      simp [List.nil_append] at none
      simp [none]
  · exact takeDigits_run h stop

theorem takeFraction_text {fraction : Option (List Char)} {rest : List Char}
    (h : ∀ digits, fraction = some digits → IsDigits digits)
    (stop : Text.Ends (fun c => c.isDigit || c == '.') rest) :
    takeFraction (fractionText fraction ++ rest) = .ok (fraction, rest) := by
  cases fraction with
  | none =>
    cases rest with
    | nil => rfl
    | cons c rest =>
      have other := Text.ends_cons.1 stop
      simp only [Bool.or_eq_false_iff, beq_eq_false_iff_ne] at other
      simp only [fractionText, List.nil_append]
      unfold takeFraction
      split
      · rename_i text
        exact absurd (List.cons.inj text).1 other.2
      · rfl
  | some digits =>
    have digitsEnd : Text.Ends Char.isDigit rest := fun c first => by
      have := stop c first
      simp only [Bool.or_eq_false_iff] at this
      exact this.1
    simp only [fractionText, List.cons_append, takeFraction]
    rw [takeDigits_run (h digits rfl) digitsEnd]

theorem takeExponent_text {exponent : Option (Bool × List Char)} {rest : List Char}
    (h : ∀ negative digits, exponent = some (negative, digits) → IsDigits digits)
    (stop : EndsNumber rest) :
    takeExponent (exponentText exponent ++ rest) = .ok (exponent, rest) := by
  match exponent with
  | none =>
    cases rest with
    | nil => rfl
    | cons c rest =>
      have other := endsNumber_cons.1 stop
      simp only [isNumberChar, Bool.or_eq_false_iff, beq_eq_false_iff_ne] at other
      simp [exponentText, takeExponent, other.1.2, other.2]
  | some (negative, digits) =>
    have digitsEnd : Text.Ends Char.isDigit rest := fun c first => by
      have := stop c first
      simp only [isNumberChar, Bool.or_eq_false_iff] at this
      exact this.1.1.1
    cases negative with
    | true =>
      simp [exponentText, takeExponent, takeSign, takeDigits_run (h true digits rfl) digitsEnd]
    | false =>
      simp [exponentText, takeExponent, takeSign, takeDigits_run (h false digits rfl) digitsEnd]

/-- What follows the digits before the point is no digit. -/
theorem ends_afterWhole {n : Numeral} {rest : List Char} (stop : EndsNumber rest) :
    Text.Ends Char.isDigit (fractionText n.fraction ++ (exponentText n.exponent ++ rest)) := by
  cases n.fraction with
  | some digits => exact Text.ends_cons.2 rfl
  | none =>
    match n.exponent with
    | some (negative, digits) => exact Text.ends_cons.2 rfl
    | none =>
      intro c first
      have := stop c first
      simp only [isNumberChar, Bool.or_eq_false_iff] at this
      exact this.1.1.1

/-- What follows the digits after the point is no digit and no point. -/
theorem ends_afterFraction {n : Numeral} {rest : List Char} (stop : EndsNumber rest) :
    Text.Ends (fun c => c.isDigit || c == '.') (exponentText n.exponent ++ rest) := by
  match n.exponent with
  | some (negative, digits) => exact Text.ends_cons.2 rfl
  | none =>
    intro c first
    have := stop c first
    simp only [isNumberChar, Bool.or_eq_false_iff] at this
    simp [this.1.1.1, this.1.1.2]

theorem scanUnsigned_text {n : Numeral} {rest : List Char} (h : n.WellFormed)
    (stop : EndsNumber rest) :
    scanUnsigned n.negative
      (n.whole ++ (fractionText n.fraction ++ (exponentText n.exponent ++ rest))) =
        .ok (n, rest) := by
  unfold scanUnsigned
  rw [takeWhole_run h.whole h.noLeadingZero (ends_afterWhole stop)]
  simp only
  rw [takeFraction_text h.fraction (ends_afterFraction stop)]
  simp only
  rw [takeExponent_text h.exponent stop]

/-- **A numeral is read back** from the front of a text that does not go on with a number. -/
theorem scan_text {n : Numeral} {rest : List Char} (h : n.WellFormed) (stop : EndsNumber rest) :
    scan (n.text ++ rest) = .ok (n, rest) := by
  have unsigned := scanUnsigned_text h stop
  cases sign : n.negative with
  | true =>
    rw [sign] at unsigned
    simpa [text, signText, sign, scan] using unsigned
  | false =>
    rw [sign] at unsigned
    obtain ⟨d, ds, first⟩ := List.exists_cons_of_ne_nil h.whole.1
    have digit : d.isDigit = true := h.whole.2 d (by simp [first])
    have noMinus : d ≠ '-' := by
      rintro rfl
      exact absurd digit (by decide)
    simp only [text, signText, sign, Bool.false_eq_true, if_false, List.nil_append,
      List.append_assoc]
    unfold scan
    split
    · rename_i text
      rw [first] at text
      exact absurd (List.cons.inj text).1 noMinus
    · exact unsigned

/-- The rest of a text does not change what a numeral is worth. -/
theorem value_toOption (n : Numeral) (left left' : List Char) :
    (n.value left).toOption = (n.value left').toOption := by
  unfold value
  simp only
  split
  · rfl
  · split
    · split <;> rfl
    · split
      · split <;> rfl
      · split <;> rfl

/-- A numeral with a point or an exponent is a floating-point number or out of range. -/
theorem value_of_real {n : Numeral} (h : n.fraction.isSome ∨ n.exponent.isSome)
    (left : List Char) :
    (∃ x, n.value left = .ok (.real x)) ∨
      ∃ f, n.value left = .error f ∧ f.cause = .numberTooLarge := by
  have noWord : ¬ (n.fraction.isNone ∧ n.exponent.isNone ∧ (keepWhole n.whole).2 = 0) := by
    rintro ⟨noFraction, noExponent, -⟩
    rcases h with h | h
    · simp_all
    · simp_all
  unfold value
  simp only [if_neg noWord]
  split
  · split
    · exact .inl ⟨_, rfl⟩
    · exact .inr ⟨_, rfl, rfl⟩
  · split
    · split
      · exact .inl ⟨_, rfl⟩
      · exact .inr ⟨_, rfl, rfl⟩
    · split
      · exact .inl ⟨_, rfl⟩
      · exact .inr ⟨_, rfl, rfl⟩

end Numeral

/-! ## Written numbers -/

theorem pos_ends {m : Magnitude} (h : m.units ≠ 0) : 0 < m.ends.1 := by
  have gap : Nat.pow 2 (lastPlace m.units) ≤ m.units := by
    refine Nat.le_trans (Nat.pow_le_pow_right (by decide) ?_) (Nat.log2_self_le h)
    unfold lastPlace
    omega
  unfold Magnitude.ends
  simp only
  split
  · omega
  · omega

/-- Zero does not read back as a positive magnitude. -/
theorem covers_zero {m : Magnitude} (h : m.units ≠ 0) (exponent : Int) :
    m.covers ⟨0, exponent⟩ = false := by
  have low : 0 < m.ends.1 * Nat.pow 10 (-exponent).toNat :=
    Nat.mul_pos (pos_ends h) (Nat.pow_pos (by decide))
  unfold Magnitude.covers
  simp only [Nat.zero_mul]
  split
  · rw [decide_eq_false (Nat.not_le.2 low), Bool.false_and]
  · rw [decide_eq_false (Nat.not_lt_zero _), Bool.false_and]

theorem onGrid?_pos {m : Magnitude} (h : m.units ≠ 0) {exponent : Int} {d : Decimal}
    (found : m.onGrid? exponent = some d) : 0 < d.significand := by
  have coveredPos : ∀ n, m.covers ⟨n, exponent⟩ = true → 0 < n := by
    intro n covered
    refine Nat.pos_of_ne_zero fun zero => ?_
    rw [zero, covers_zero h] at covered
    cases covered
  unfold Magnitude.onGrid? at found
  dsimp only at found
  -- the size of the grid does not matter, and its power of two is not to be computed
  generalize m.units * Nat.pow 10 (-exponent).toNat = num at found
  generalize Nat.pow 2 unitPlace * Nat.pow 10 exponent.toNat = den at found
  split at found
  · rename_i lower upper
    have above := coveredPos _ lower
    obtain rfl := Option.some.inj found
    dsimp only [roundQuotient]
    split
    · exact above
    · split <;> omega
  · rename_i lower upper
    obtain rfl := Option.some.inj found
    exact coveredPos _ lower
  · obtain rfl := Option.some.inj found
    exact Nat.succ_pos _
  · cases found

/-- The shortest decimal is zero only as zero times one. -/
theorem shortest_exponent {m : Magnitude} (zero : m.shortest.significand = 0) :
    m.shortest.exponent = 0 := by
  unfold Magnitude.shortest at zero ⊢
  split
  · rfl
  · rename_i units
    rw [if_neg units] at zero
    cases found : (List.range 24).findSome? fun i : Nat => m.onGrid? (m.decimalPlace - i) with
    | none => rfl
    | some d =>
      rw [found] at zero
      obtain ⟨i, -, onGrid⟩ := List.exists_of_findSome?_eq_some found
      have := onGrid?_pos units onGrid
      simp at zero
      omega

/-- The digits of a number start with a zero only if the number is zero. -/
theorem decimalDigits_noLeadingZero {n : Nat} {more : List Char}
    (h : Text.decimalDigits n = '0' :: more) : n = 0 ∧ more = [] := by
  rcases Nat.eq_zero_or_pos n with rfl | positive
  · rw [Text.decimalDigits_zero] at h
    exact ⟨rfl, (List.cons.inj h).2.symm⟩
  · obtain ⟨d, ds, digits, first⟩ := Text.decimalDigits_cons positive
    rw [digits] at h
    exact absurd (List.cons.inj h).1 first

/-- A text is that of a numeral whose value is a floating-point number. -/
def IsRealText (cs : List Char) : Prop :=
  ∃ n : Numeral, n.WellFormed ∧ (n.fraction.isSome ∨ n.exponent.isSome) ∧ n.text = cs

theorem isRealText_point (negative : Bool) (whole fraction : List Char) (digits : IsDigits whole)
    (noLeadingZero : ∀ more, whole = '0' :: more → more = []) (places : IsDigits fraction) :
    IsRealText (Numeral.signText negative ++ (whole ++ '.' :: fraction)) := by
  refine ⟨⟨negative, whole, some fraction, none⟩, ⟨digits, noLeadingZero, ?_, ?_⟩, .inl rfl, ?_⟩
  · rintro more ⟨rfl⟩
    exact places
  · rintro negative more ⟨⟩
  · simp [Numeral.text, Numeral.fractionText, Numeral.exponentText]

theorem isRealText_exponent (negative down : Bool) (whole : List Char)
    (fraction : Option (List Char)) (exponent : List Char) (digits : IsDigits whole)
    (noLeadingZero : ∀ more, whole = '0' :: more → more = [])
    (places : ∀ more, fraction = some more → IsDigits more) (power : IsDigits exponent) :
    IsRealText (Numeral.signText negative ++ (whole ++ (Numeral.fractionText fraction ++
      'e' :: (if down then '-' else '+') :: exponent))) := by
  refine ⟨⟨negative, whole, fraction, some (down, exponent)⟩, ⟨digits, noLeadingZero, places, ?_⟩,
    .inr rfl, rfl⟩
  rintro sign more ⟨rfl, rfl⟩
  exact power

theorem isRealText_positional (negative : Bool) {d : Decimal}
    (zero : d.significand = 0 → d.exponent = 0) :
    IsRealText (Numeral.signText negative ++ d.positional realLayout.wholeEnd) := by
  have digits := isDigits_decimalDigits d.significand
  obtain ⟨first, tail, split⟩ := List.exists_cons_of_ne_nil digits.1
  unfold Decimal.positional
  dsimp only
  split
  · refine isRealText_point negative _ ['0'] (digits.append fun _ => isDigit_of_mem_zeros) ?_
      ⟨List.cons_ne_nil '0' [], by simp⟩
    intro more whole
    rw [split] at whole
    obtain ⟨rfl, rest⟩ := List.cons.inj whole
    obtain ⟨none, alone⟩ := decimalDigits_noLeadingZero split
    rw [zero none, alone] at rest
    exact rest.symm
  · split
    · rename_i below above
      have length : d.leading.toNat + 1 < (Text.decimalDigits d.significand).length := by
        unfold Decimal.leading at above ⊢
        omega
      refine isRealText_point negative _ _ ?_ ?_ ?_
      · exact ⟨by simp [digits.1], fun c member => digits.2 c (List.mem_of_mem_take member)⟩
      · intro more whole
        rw [split, List.take_succ_cons] at whole
        obtain ⟨rfl, rest⟩ := List.cons.inj whole
        rw [(decimalDigits_noLeadingZero split).2] at rest
        simpa using rest.symm
      · refine ⟨?_, fun c member => digits.2 c (List.mem_of_mem_drop member)⟩
        simpa [List.drop_eq_nil_iff] using length
    · refine isRealText_point negative ['0'] _ ⟨by simp, by simp⟩ ?_ ?_
      · intro more whole
        exact (List.cons.inj whole).2.symm
      · refine ⟨by simp [digits.1], fun c member => ?_⟩
        rcases List.mem_append.1 member with inZeros | inDigits
        · exact isDigit_of_mem_zeros inZeros
        · exact digits.2 c inDigits

theorem isRealText_scientific (negative : Bool) (d : Decimal) :
    IsRealText (Numeral.signText negative ++ d.scientific) := by
  have digits := isDigits_decimalDigits d.significand
  have power := isDigits_decimalDigits d.leading.natAbs
  unfold Decimal.scientific
  dsimp only
  split
  · rename_i first second more split
    rw [split] at digits
    have whole : IsDigits [first] := ⟨by simp, fun c member => digits.2 c (by simp_all)⟩
    have places : IsDigits (second :: more) :=
      ⟨by simp, fun c member => digits.2 c (List.mem_cons_of_mem _ member)⟩
    have text := isRealText_exponent negative (decide (d.leading < 0)) [first]
      (some (second :: more)) _ whole (fun more alone => (List.cons.inj alone).2.symm)
      (fun more some => Option.some.inj some ▸ places) power
    simpa [Numeral.fractionText] using text
  · have text := isRealText_exponent negative (decide (d.leading < 0)) _ none _ digits
      (fun more alone => (decimalDigits_noLeadingZero alone).2) (fun more none => nomatch none)
      power
    simpa [Numeral.fractionText] using text

/-- The text of a finite number is the text of a numeral with a point or an exponent. -/
theorem isRealText_realText (negative : Bool) (m : Magnitude) :
    IsRealText (realText (.finite negative m)) := by
  have sign : realText (.finite negative m) = Numeral.signText negative ++ m.write realLayout := rfl
  rw [sign]
  unfold Magnitude.write Decimal.write
  split
  · exact isRealText_positional negative shortest_exponent
  · exact isRealText_scientific negative m.shortest

/-! ## Written integers -/

namespace Numeral

/-- The numeral of an integer. -/
def ofInteger (k : Int) : Numeral :=
  ⟨decide (k < 0), Text.decimalDigits k.natAbs, none, none⟩

theorem wellFormed_ofInteger (k : Int) : (ofInteger k).WellFormed where
  whole := isDigits_decimalDigits _
  noLeadingZero := fun _ whole => (decimalDigits_noLeadingZero whole).2
  fraction := by rintro digits ⟨⟩
  exponent := by rintro negative digits ⟨⟩

theorem text_ofInteger (k : Int) : (ofInteger k).text = integerText k := by
  simp [ofInteger, text, signText, fractionText, exponentText, integerText]

/-- All digits of a word are kept. -/
theorem keepWhole_decimalDigits {n : Nat} (word : n < wordLimit) :
    keepWhole (Text.decimalDigits n) = (n, 0) := by
  induction n using Nat.strongRecOn with
  | ind n ih =>
    by_cases small : n < 10
    · have digits : Text.decimalDigits n = [n.digitChar] := Nat.toDigits_of_lt_base small
      have digit : Text.digitValue n.digitChar = n := by
        simp [Text.digitValue, Nat.toNat_digitChar_of_lt_ten small]
      simp [keepWhole, digits, digit, word]
    · have digits : Text.decimalDigits n =
          Text.decimalDigits (n / 10) ++ [(n % 10).digitChar] :=
        Nat.toDigits_of_base_le (by decide) (by omega)
      have digit : Text.digitValue (n % 10).digitChar = n % 10 := by
        simp [Text.digitValue, Nat.toNat_digitChar_of_lt_ten (Nat.mod_lt n (by decide))]
      have front : keepWhole (Text.decimalDigits (n / 10)) = (n / 10, 0) :=
        ih (n / 10) (by omega) (by omega)
      have whole : 10 * (n / 10) + n % 10 = n := Nat.div_add_mod n 10
      unfold keepWhole at front ⊢
      simp [digits, List.foldl_append, front, digit, whole, word]

/-- A natural number that fits a word is worth itself. -/
theorem value_ofInteger {n : Nat} (word : n < wordLimit) (left : List Char) :
    (ofInteger n).value left = .ok (.integer n) := by
  simp [value, keepWhole_decimalDigits word, wordValue, ofInteger]

end Numeral

/-! ## Reading a written number -/

/-- What the reader makes of a text that is a number. -/
def readNumber (cs : List Char) : Except Fault Json :=
  match Numeral.scan cs with
  | .error f => .error f
  | .ok (n, left) => n.value left

/-- The reader refuses a text because the number is out of range. -/
def OutOfRange (cs : List Char) : Prop :=
  ∃ f, readNumber cs = .error f ∧ f.cause = .numberTooLarge

theorem readNumber_text {n : Numeral} (h : n.WellFormed) : readNumber n.text = n.value [] := by
  have scanned := Numeral.scan_text h endsNumber_nil
  rw [List.append_nil] at scanned
  simp [readNumber, scanned]

/-- **A written number is read as a number**, or refused because it is out of range. -/
theorem readNumber_realText (negative : Bool) (m : Magnitude) :
    (∃ x, readNumber (realText (.finite negative m)) = .ok (.real x)) ∨
      OutOfRange (realText (.finite negative m)) := by
  obtain ⟨n, wellFormed, real, text⟩ := isRealText_realText negative m
  rw [OutOfRange, ← text, readNumber_text wellFormed]
  exact Numeral.value_of_real real []

end ScriptTree.Json
