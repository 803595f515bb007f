import ScriptTree.Proofs.Build.NumberForm
import ScriptTree.Proofs.Comment.Lines
import ScriptTree.Proofs.Text.Blank

/-!
# Blanks around the text of a number

The host takes the white space and the line ends of a program off the text of a number. These are
the blanks of `Text.isBlank` but for two characters (`isBlank_iff`): the byte order mark is white
space of a program and no blank, and the next-line character is a blank and neither white space nor
a line end of a program. So a text with a byte order mark is not a number, and a next-line character
before a number is left out; all other blanks count for both (`toNumber_hostBlanks_iff`).
-/

namespace ScriptTree.Build
set_option autoImplicit false
open Number
open Text (isBlank inRanges inRanges_iff)

/-! ## The blanks of the host -/

/-- The code points of Unicode's space separators. -/
def spaceSeparatorRanges : List (Nat × Nat) :=
  [(0x20, 0x21), (0xa0, 0xa1), (0x1680, 0x1681), (0x2000, 0x200b), (0x202f, 0x2030),
   (0x205f, 0x2060), (0x3000, 0x3001)]

/-- A mark at the start of a file that tells its encoding. -/
def byteOrderMark : Char := '\ufeff'

/-- A control character that ends a line on some systems. -/
def nextLine : Char := '\u0085'

/-- The white space of a program: tabulators, the form feed, the byte order mark, and the space
separators. -/
def isWhiteSpace (c : Char) : Bool :=
  c = '\t' || c = '\x0b' || c = '\x0c' || c = byteOrderMark || inRanges spaceSeparatorRanges c

/-- A character that the host takes off the ends of a text that is to be a number. -/
def isHostBlank (c : Char) : Bool :=
  isWhiteSpace c || Comment.isLineEnd c

/-- The blanks are those of the host, but for two characters. -/
theorem isBlank_iff (c : Char) :
    isBlank c = true ↔ isHostBlank c = true ∧ c ≠ byteOrderMark ∨ c = nextLine := by
  simp only [isBlank, isHostBlank, isWhiteSpace, Comment.isLineEnd, Bool.or_eq_true,
    decide_eq_true_eq, inRanges_iff, Text.blankRanges, spaceSeparatorRanges, List.mem_cons,
    List.not_mem_nil, or_false, exists_eq_or_imp, exists_eq_left, byteOrderMark, nextLine, Ne,
    ← Char.toNat_inj, Char.reduceToNat]
  omega

/-! ## The characters of a number -/

/-- The characters that a number can have: digits, letters, signs and the point. -/
def isNumberChar (c : Char) : Bool :=
  c.isDigit || ('a' ≤ c && c ≤ 'z') || ('A' ≤ c && c ≤ 'Z') || isSign c || c = '.'

theorem isNumberChar_of_isDecimalChar {c : Char} (decimal : isDecimalChar c = true) :
    isNumberChar c = true := by
  simp only [isDecimalChar, Bool.or_eq_true, decide_eq_true_eq] at decimal
  rcases decimal with ((((digit | rfl) | rfl) | rfl) | rfl) | rfl
  · simp [isNumberChar, digit]
  all_goals decide

theorem Base.isNumberChar_of_isDigit {b : Base} {c : Char} (digit : b.isDigit c = true) :
    isNumberChar c = true := by
  cases b <;>
  · simp [Base.isDigit, isNumberChar, Char.isDigit_iff_toNat, Char.le_def,
      UInt32.le_iff_toNat_le] at digit ⊢
    omega

theorem NumberForm.isNumberChar {cs : List Char} (form : NumberForm cs) :
    ∀ c ∈ cs, isNumberChar c = true := by
  have ofSign {sign : List Char} (form : SignForm sign) : ∀ c ∈ sign, Build.isNumberChar c = true :=
    fun c member => isNumberChar_of_isDecimalChar (form.isDecimalChar c member)
  cases form with
  | based b member run =>
    refine List.forall_mem_cons.2 ⟨by decide, List.forall_mem_cons.2 ⟨?_, ?_⟩⟩
    · cases b <;>
      · simp only [Base.letters, List.mem_cons, List.not_mem_nil, or_false] at member
        rcases member with rfl | rfl <;> decide
    · exact fun c digit => Base.isNumberChar_of_isDigit (run.2 c digit)
  | infinity sign =>
    have word : "Infinity".toList.all Build.isNumberChar = true := by decide
    exact List.forall_mem_append.2 ⟨ofSign sign, List.all_eq_true.1 word⟩
  | decimal sign number =>
    refine List.forall_mem_append.2 ⟨ofSign sign, fun c member => ?_⟩
    exact isNumberChar_of_isDecimalChar (number.isDecimalChar c member)

/-- A text with a character that is no blank and that no number has is not a number. -/
theorem toNumber_of_foreign {raw : String} {c : Char} (member : c ∈ raw.toList)
    (solid : isBlank c = false) (foreign : isNumberChar c = false) : toNumber raw = .nan := by
  have kept : c ∈ Text.trim raw.toList := Text.mem_trim member solid
  refine (ofTrimmed_eq_nan_iff _).2 ⟨List.ne_nil_of_mem kept, fun form => ?_⟩
  rw [form.isNumberChar c kept] at foreign
  cases foreign

/-! ## Blanks before and behind a number -/

theorem toNumber_padded {before after : String} (t : String)
    (first : ∀ c ∈ before.toList, isBlank c = true) (last : ∀ c ∈ after.toList, isBlank c = true) :
    toNumber (before ++ t ++ after) = toNumber t := by
  unfold toNumber
  rw [String.toList_append, String.toList_append, Text.trim_padded first last]

/-- Around a text, blanks of the host are left out unless one of them is a byte order mark. -/
theorem toNumber_hostPadded {before after : String} (t : String)
    (host : ∀ c ∈ before.toList ++ after.toList, isHostBlank c = true) :
    toNumber (before ++ t ++ after) =
      if byteOrderMark ∈ before.toList ++ after.toList then .nan else toNumber t := by
  split
  · rename_i marked
    refine toNumber_of_foreign ?_ (by decide : isBlank byteOrderMark = false) (by decide)
    rw [String.toList_append, String.toList_append]
    rcases List.mem_append.1 marked with inFront | behind
    · exact List.mem_append_left _ (List.mem_append_left _ inFront)
    · exact List.mem_append_right _ behind
  · rename_i unmarked
    have blank : ∀ c ∈ before.toList ++ after.toList, isBlank c = true := by
      intro c member
      refine (isBlank_iff c).2 (.inl ⟨host c member, ?_⟩)
      rintro rfl
      exact unmarked member
    rw [List.forall_mem_append] at blank
    exact toNumber_padded t blank.1 blank.2

/-- Of the characters that are no blanks of the host and that no number has, only the next-line
character is left out before a text. -/
theorem toNumber_behind {c : Char} (t : String) (other : isHostBlank c = false)
    (foreign : isNumberChar c = false) :
    toNumber (String.singleton c ++ t) = if c = nextLine then toNumber t else .nan := by
  split
  · rename_i same
    have blank : ∀ d ∈ (String.singleton c).toList, isBlank d = true := by
      rw [String.toList_singleton, List.forall_mem_singleton]
      exact (isBlank_iff c).2 (.inr same)
    have padded : toNumber (String.singleton c ++ t ++ "") = toNumber t :=
      toNumber_padded t blank (by simp)
    rwa [String.append_empty] at padded
  · rename_i differ
    refine toNumber_of_foreign (c := c) (by simp) ?_ foreign
    rw [← Bool.not_eq_true, isBlank_iff, other]
    simp [differ]

/-- **Which characters around a number are left out.** Blanks of the host leave a number as it is,
just if there is no byte order mark among them. Any other character that no number has makes the
text behind it no number, just if it is not the next-line character. -/
theorem toNumber_hostBlanks_iff (before t after : String) (c : Char) :
    ((∀ d ∈ before.toList ++ after.toList, isHostBlank d = true) →
      (toNumber (before ++ t ++ after) = toNumber t ↔
        toNumber t = .nan ∨ byteOrderMark ∉ before.toList ++ after.toList)) ∧
    (isHostBlank c = false → isNumberChar c = false →
      (toNumber (String.singleton c ++ t) = .nan ↔ toNumber t = .nan ∨ c ≠ nextLine)) := by
  constructor
  · intro host
    rw [toNumber_hostPadded t host]
    by_cases marked : byteOrderMark ∈ before.toList ++ after.toList
    · rw [if_pos marked, eq_comm]
      exact ⟨.inl, fun same => same.resolve_right fun unmarked => unmarked marked⟩
    · rw [if_neg marked]
      exact iff_of_true rfl (.inr marked)
  · intro other foreign
    rw [toNumber_behind t other foreign]
    by_cases same : c = nextLine
    · rw [if_pos same]
      exact ⟨.inl, fun nan => nan.resolve_right fun differ => differ same⟩
    · rw [if_neg same]
      exact iff_of_true rfl (.inr same)

theorem toNumber_one_ne_nan : toNumber "1" ≠ .nan := by
  have digit : DecimalForm ['1'] := ⟨['1'], [], .whole ⟨by simp, by simp⟩, .none, rfl⟩
  have number : NumberForm (Text.trim "1".toList) := .decimal .none digit
  exact fun nan => ((ofTrimmed_eq_nan_iff _).1 nan).2 number

/-- A separator and an ideographic space around a number are left out, a byte order mark is not. An
exclamation mark makes a number no number, the next-line character does not. -/
theorem toNumber_hostBlanks_iff_one :
    (∀ d ∈ "\u2029".toList ++ "\u3000".toList, isHostBlank d = true) ∧
      toNumber ("\u2029" ++ "1" ++ "\u3000") = toNumber "1" ∧
      (∀ d ∈ "\u2029".toList ++ " \ufeff".toList, isHostBlank d = true) ∧
      toNumber ("\u2029" ++ "1" ++ " \ufeff") ≠ toNumber "1" ∧
      isHostBlank '!' = false ∧ isNumberChar '!' = false ∧
      toNumber (String.singleton '!' ++ "1") = .nan ∧
      isHostBlank '\u0085' = false ∧ isNumberChar '\u0085' = false ∧
      toNumber (String.singleton '\u0085' ++ "1") ≠ .nan := by
  have spaces : ∀ d ∈ "\u2029".toList ++ "\u3000".toList, isHostBlank d = true :=
    List.all_eq_true.1 (by decide)
  have marked : ∀ d ∈ "\u2029".toList ++ " \ufeff".toList, isHostBlank d = true :=
    List.all_eq_true.1 (by decide)
  refine ⟨spaces, ?_, marked, ?_, by decide, by decide, ?_, by decide, by decide, ?_⟩
  · exact ((toNumber_hostBlanks_iff "\u2029" "1" "\u3000" '!').1 spaces).2 (.inr (by decide))
  · rw [Ne, (toNumber_hostBlanks_iff "\u2029" "1" " \ufeff" '!').1 marked]
    exact not_or.2 ⟨toNumber_one_ne_nan, fun unmarked => unmarked (by decide)⟩
  · exact ((toNumber_hostBlanks_iff "" "1" "" '!').2 (by decide) (by decide)).2 (.inr (by decide))
  · rw [Ne, (toNumber_hostBlanks_iff "" "1" "" '\u0085').2 (by decide) (by decide)]
    exact not_or.2 ⟨toNumber_one_ne_nan, fun differ => differ (by decide)⟩

/-- A blank of the host is not left out, and a character that is none of them is. -/
theorem toNumber_ne_of_hostBlank :
    isHostBlank '\ufeff' = true ∧ toNumber ("\ufeff" ++ "1" ++ "") ≠ toNumber "1" ∧
      isHostBlank '\u0085' = false ∧ isNumberChar '\u0085' = false ∧ toNumber "1" ≠ .nan ∧
      toNumber (String.singleton '\u0085' ++ "1") ≠ .nan := by
  have marked : toNumber ("\ufeff" ++ "1" ++ "") = .nan := rfl
  have behind : toNumber (String.singleton '\u0085' ++ "1") = toNumber "1" := rfl
  refine ⟨by decide, ?_, by decide, by decide, toNumber_one_ne_nan, ?_⟩
  · rw [marked]
    exact toNumber_one_ne_nan.symm
  · rw [behind]
    exact toNumber_one_ne_nan

end ScriptTree.Build
