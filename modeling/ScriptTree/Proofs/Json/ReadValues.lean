import ScriptTree.Proofs.Json.Nesting
import ScriptTree.Proofs.Number.Finite

/-!
# The values that texts have

No value that is read is deeper than its text (`depth_le_textDepth`), and every number in it is an
integer of 64 bits or a finite floating-point number (`plain_of_read`): the digits that a numeral
keeps fit a word, and scaling them by a power of ten stays finite or is refused.
-/

namespace ScriptTree.Json
set_option autoImplicit false
open Number

/-! ## Numbers -/

/-- A value without parts whose number, if it is one, fits the format. -/
def IsPlain : Json → Prop
  | .integer n => n.natAbs < Numeral.wordLimit
  | .real x => x.isFinite = true
  | .array _ | .object _ => False
  | _ => True

theorem IsPlain.isScalar {v : Json} (plain : v.IsPlain) : v.IsScalar := by
  cases v with
  | array elements => exact plain
  | object members => exact plain
  | _ => trivial

namespace Numeral

/-- The digits before the point are kept as long as they fit a word. -/
theorem keepWhole_lt (digits : List Char) : (keepWhole digits).1 < wordLimit := by
  unfold keepWhole
  apply List.foldlRecOn (motive := fun state : Nat × Nat => state.1 < wordLimit)
  · decide
  · intro state word c _
    obtain ⟨kept, dropped⟩ := state
    simp only
    split
    · exact word
    · rename_i fits
      omega

/-- So are the digits behind it. -/
theorem keepFraction_lt {kept : Nat} (word : kept < wordLimit) (digits : List Char)
    (count : Nat) : (keepFraction kept digits count).1 < wordLimit := by
  fun_induction keepFraction kept digits count with
  | case1 => exact word
  | case2 => exact word
  | case3 kept c rest count fits ih =>
    apply ih
    omega

/-- Division by powers of ten does not lead out of the places. -/
theorem within_shrink {places k : Nat} {x : Binary64} (some : 0 < k)
    (room : places < 1024 + unitPlace) (within : x.Within places) :
    (shrink x k).Within places := by
  fun_induction shrink x k with
  | case1 x k small => exact Binary64.within_div_powerOfTen some room within
  | case2 => exact within
  | case3 x k large nonzero ih =>
    apply ih
    · omega
    · exact Binary64.within_div_powerOfTen (by decide) room within

/-- The digits of a word times a power of ten are finite or too large. -/
theorem isFinite_scaled? {digits : Nat} {exponent : Int} {x : Binary64}
    (word : digits < wordLimit) (scaled : scaled? digits exponent = some x) :
    x.isFinite = true := by
  have start : (Binary64.ofNat digits).Within (64 + unitPlace) :=
    Binary64.within_ofNat false (by decide) word
  unfold scaled? at scaled
  simp only at scaled
  split at scaled
  · rename_i below
    obtain rfl := Option.some.inj scaled
    have room : 64 + unitPlace < 1024 + unitPlace := Nat.add_lt_add_right (by decide) unitPlace
    exact (within_shrink (by omega) room start).isFinite
  split at scaled
  · rename_i small
    split at scaled
    · simp at scaled
    · rename_i finite
      obtain rfl := Option.some.inj scaled
      apply Binary64.isFinite_mul start.isFinite
      · apply Binary64.isFinite_powerOfTen
        omega
      · exact Bool.eq_false_iff.2 finite
  split at scaled
  · obtain rfl := Option.some.inj scaled
    exact start.isFinite
  · simp at scaled

theorem isPlain_wordValue {n : Nat} (negative : Bool) (word : n < wordLimit) :
    (wordValue negative n).IsPlain := by
  unfold wordValue
  split
  · exact word
  · split
    · show (Binary64.ofNat n).negate.isFinite = true
      rw [Binary64.isFinite_negate]
      exact (Binary64.within_ofNat false (by decide) word).isFinite
    · show (-(n : Int)).natAbs < wordLimit
      rw [Int.natAbs_neg]
      exact word

/-- The value of a numeral fits the format. -/
theorem isPlain_value {n : Numeral} {left : List Char} {v : Json} (h : n.value left = .ok v) :
    v.IsPlain := by
  have whole := keepWhole_lt n.whole
  have kept := keepFraction_lt whole (n.fraction.getD []) 0
  have scaled {exponent : Int} {x : Binary64}
      (found : scaled? (keepFraction (keepWhole n.whole).1 (n.fraction.getD []) 0).1 exponent =
        some x) : (Json.real (x.withSign n.negative)).IsPlain := by
    show (x.withSign n.negative).isFinite = true
    rw [Binary64.isFinite_withSign]
    exact isFinite_scaled? kept found
  unfold value at h
  simp only at h
  split at h
  · cases h
    exact isPlain_wordValue n.negative whole
  split at h
  -- without an exponent
  · split at h
    · rename_i found
      cases h
      exact scaled found
    · cases h
  -- with one that fits, and with one that does not
  split at h
  · split at h
    · rename_i found
      cases h
      exact scaled found
    · cases h
  · split at h
    · cases h
      rfl
    · cases h

end Numeral

/-! ## Lexemes -/

namespace Lexeme

theorem isPlain_ofWord {start word rest : List Char} {value v : Json} (plain : value.IsPlain)
    (h : (ofWord start word rest value).value? = some v) : v.IsPlain := by
  unfold ofWord at h
  split at h
  · cases h
    exact plain
  · cases h

theorem isPlain_ofNumber {start : List Char} {v : Json} (h : (ofNumber start).value? = some v) :
    v.IsPlain := by
  unfold ofNumber at h
  split at h
  · rename_i n left scanned
    cases value : n.value left with
    | error f => simp [value?, value] at h
    | ok w =>
      simp only [value?, value, Option.some.injEq] at h
      subst h
      exact Numeral.isPlain_value value
  · cases h

theorem isPlain_ofString {start rest : List Char} {v : Json}
    (h : (ofString start rest).value? = some v) : v.IsPlain := by
  unfold ofString at h
  split at h
  · cases h
    trivial
  · split at h <;> cases h

theorem isPlain_ofChar {c : Char} {rest : List Char} {v : Json}
    (h : (ofChar c rest).value? = some v) : v.IsPlain := by
  unfold ofChar at h
  split at h
  case h_7 => exact isPlain_ofString h
  case h_8 | h_9 | h_10 => exact isPlain_ofWord (by exact trivial) h
  case h_11 =>
    split at h
    · exact isPlain_ofNumber h
    · cases h
  all_goals cases h

end Lexeme

/-- Every lexeme of a text starts with some character. -/
theorem eq_ofChar_of_mem_scan {cs : List Char} {l : Lexeme} (member : l ∈ scan cs) :
    ∃ c rest, l = .ofChar c rest := by
  have front {cs : List Char} {l : Lexeme} (first : Lexeme.first? cs = some l) :
      ∃ c rest, l = .ofChar c rest := by
    unfold Lexeme.first? at first
    split at first
    · cases first
    · cases first
      exact ⟨_, _, rfl⟩
  fun_induction scan cs with
  | case1 => cases member
  | case2 cs k first last =>
    rw [List.mem_singleton.1 member]
    exact front first
  | case3 cs k first rest stop ih =>
    rcases List.mem_cons.1 member with rfl | member
    · exact front first
    · exact ih member

theorem isPlain_of_mem_scan {cs : List Char} {l : Lexeme} {v : Json} (member : l ∈ scan cs)
    (value : l.value? = some v) : v.IsPlain := by
  obtain ⟨c, rest, rfl⟩ := eq_ofChar_of_mem_scan member
  exact Lexeme.isPlain_ofChar value

/-! ## Parts of a value -/

/-- A value stands in another one, with so many containers around it. -/
def At : Nat → Json → Json → Prop
  | 0, w, v => w = v
  | k + 1, w, v => ∃ u ∈ v.parts, At k w u

theorem At.part {k : Nat} {u w v : Json} (inside : At k w v) (part : u ∈ w.parts) :
    At (k + 1) u v := by
  induction k generalizing v with
  | zero =>
    cases inside
    exact ⟨u, part, rfl⟩
  | succ k ih =>
    obtain ⟨x, first, inside⟩ := inside
    exact ⟨x, first, ih inside⟩

theorem At.member {k : Nat} {w v : Json} {members : List (String × Json)} {key : String}
    (inside : At k (.object members) v) (found : members.lookup key = some w) :
    At (k + 1) w v := by
  obtain ⟨front, back, rfl, -⟩ := List.lookup_eq_some_iff.1 found
  exact inside.part (by simp [parts])

theorem depthMembers_eq (members : List (String × Json)) :
    depthMembers members = depthAll (members.map Prod.snd) := by
  induction members with
  | nil => rfl
  | cons member members ih =>
    obtain ⟨key, v⟩ := member
    rw [depthMembers, List.map_cons, depthAll, ih]

theorem depth_eq_zero {v : Json} (scalar : v.IsScalar) : v.depth = 0 := by
  match v, scalar with
  | .null, _ | .bool _, _ | .integer _, _ | .real _, _ | .string _, _ => rfl

/-- A container is one deeper than the deepest of its parts. -/
theorem add_depth_le_iff {v : Json} (container : ¬ v.IsScalar) {level bound : Nat} :
    level + v.depth ≤ bound ↔
      level + 1 ≤ bound ∧ ∀ w ∈ v.parts, level + 1 + w.depth ≤ bound := by
  have all (vs : List Json) : level + (depthAll vs + 1) ≤ bound ↔
      level + 1 ≤ bound ∧ ∀ w ∈ vs, level + 1 + w.depth ≤ bound := by
    induction vs with
    | nil => simp [depthAll]
    | cons v vs ih =>
      rw [depthAll, List.forall_mem_cons, and_left_comm, ← ih]
      omega
  cases v with
  | array elements => exact all elements
  | object members =>
    rw [depth, depthMembers_eq]
    exact all (members.map Prod.snd)
  | _ => exact absurd trivial container

theorem depth_lt_of_mem_parts {v w : Json} (part : w ∈ v.parts) : w.depth < v.depth := by
  have container : ¬ v.IsScalar := by
    intro scalar
    match v, scalar with
    | .null, _ | .bool _, _ | .integer _, _ | .real _, _ | .string _, _ => cases part
  have whole := (add_depth_le_iff container).1 (Nat.le_refl (0 + v.depth))
  have below := whole.2 w part
  omega

theorem At.depth_le {k : Nat} {w v : Json} (inside : At k w v) : k + w.depth ≤ v.depth := by
  induction k generalizing v with
  | zero =>
    cases inside
    omega
  | succ k ih =>
    obtain ⟨u, part, inside⟩ := inside
    have := ih inside
    have := depth_lt_of_mem_parts part
    omega

/-! ## Values that are read -/

/-- **No value is deeper than the text that it is read from.** -/
theorem depth_le_textDepth {cs : List Char} {v : Json} {trailing : Option Fault}
    (h : read cs = .ok (v, trailing)) : v.depth ≤ textDepth cs := by
  have passed : PassedOn (fun level v => level + v.depth ≤ textDepth cs) (textDepth cs) := by
    intro level room v container each
    exact (add_depth_le_iff container).2 ⟨room, each⟩
  have given : ∀ l ∈ scan cs, ∀ w, l.value? = some w →
      ∀ level ≤ textDepth cs, level + w.depth ≤ textDepth cs := by
    intro l member w value level room
    rw [depth_eq_zero (isPlain_of_mem_scan member value).isScalar]
    exact room
  have whole := read_holds passed given h
  rwa [Nat.zero_add] at whole

/-- Every number in the value fits the format. -/
def Plain (v : Json) : Prop :=
  ∀ k w, At k w v → w.IsScalar → w.IsPlain

theorem Plain.of_at {k : Nat} {w v : Json} (plain : v.Plain) (inside : At k w v) : w.Plain := by
  induction k generalizing v with
  | zero =>
    cases inside
    exact plain
  | succ k ih =>
    obtain ⟨u, part, inside⟩ := inside
    exact ih (fun j x deeper => plain (j + 1) x ⟨u, part, deeper⟩) inside

/-- **Every number that is read fits the format.** -/
theorem plain_of_read {cs : List Char} {v : Json} {trailing : Option Fault}
    (h : read cs = .ok (v, trailing)) : v.Plain := by
  have passed : PassedOn (fun _ v => v.Plain) (textDepth cs) := by
    intro level room v container each k w inside scalar
    cases k with
    | zero =>
      cases inside
      exact absurd scalar container
    | succ k =>
      obtain ⟨u, part, inside⟩ := inside
      exact each u part k w inside scalar
  refine read_holds passed ?_ h
  intro l member w value level room k u inside scalar
  have plain := isPlain_of_mem_scan member value
  cases k with
  | zero =>
    cases inside
    exact plain
  | succ k =>
    obtain ⟨x, part, -⟩ := inside
    have deeper := depth_lt_of_mem_parts part
    rw [depth_eq_zero plain.isScalar] at deeper
    cases deeper

end ScriptTree.Json
