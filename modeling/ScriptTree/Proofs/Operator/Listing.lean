import ScriptTree.Proofs.Operator.ReadBack
import ScriptTree.Proofs.Text.Blank
import ScriptTree.Proofs.Text.Digits

/-!
# The listing of an operator table

The columns of a listing get out of line where a token is longer than its column, and a token may
have spaces and look like other columns. But the columns behind the token have a fixed width, so a
line is read from its end (`readRow?_rowLine`), where the type stands as the last word. For the same
reason the blanks at the end of the whole text are a newline and no more (`listing_toList`). So a
listing can be read back and belongs to one table, unless a token breaks its line or ends in a space
that might as well be padding: `listing_lossless`.
-/

namespace ScriptTree
set_option autoImplicit false
open Text (isBlank trimEnd decimalDigits decimalValue)

/-! ## Lines and their columns -/

/-- The columns before the type: the token, the precedence behind a space, and the side between
spaces. -/
def frontColumns (token precedence side : List Char) : List Char :=
  padRight 6 token ++ (' ' :: padLeft 4 precedence) ++ (' ' :: ' ' :: padRight 5 side ++ [' ', ' '])

/-- The line of a row without its newline. -/
def rowLine (token : String) (info : OperatorRow) : List Char :=
  frontColumns token.toList (decimalDigits info.precedence.toNat)
    (Named.word info.associativity).toList ++ (Named.word info.resultType).toList

/-- The line of titles without its newline. -/
def titleLine : List Char :=
  "token  prec  assoc  type".toList

theorem listingRow_eq (token : String) (info : OperatorRow) :
    listingRow token info = rowLine token info ++ ['\n'] := by
  simp [listingRow, listingLine, rowLine, frontColumns]

/-- The row that a line shows, read from its end: the type is the last word, the two columns before
it have a fixed width, and the token is what is left without the spaces that fill its column. -/
def readRow? (line : List Char) : Option (String × OperatorRow) := do
  let front := line.rdropWhile (· != ' ')
  let side := (front.rtake 9).filter (· != ' ')
  let precedence := ((front.rdrop 9).rtake 5).filter (· != ' ')
  let token := ((front.rdrop 9).rdrop 5).rdropWhile (· == ' ')
  let associativity ← Named.ofWord? (String.ofList side)
  let resultType ← Named.ofWord? (String.ofList (line.drop front.length))
  return (String.ofList token, ⟨.ofNat (decimalValue precedence), associativity, resultType⟩)

/-- A token that its line shows: it has no newline, and no space at its end. -/
def IsShown (token : String) : Prop :=
  '\n' ∉ token.toList ∧ token.toList.getLast? ≠ some ' '

instance (token : String) : Decidable (IsShown token) :=
  inferInstanceAs (Decidable (_ ∧ _))

/-! ## Words and digits in a column -/

theorem isAlpha_of_mem_type (type : ValueType) :
    ∀ c ∈ (Named.word type).toList, c.isAlpha = true := by
  cases type <;> exact List.all_eq_true.1 (by decide)

theorem isAlpha_of_mem_side (side : Associativity) :
    ∀ c ∈ (Named.word side).toList, c.isAlpha = true := by
  cases side <;> exact List.all_eq_true.1 (by decide)

theorem length_padRight_side (side : Associativity) :
    (padRight 5 (Named.word side).toList).length = 5 := by
  cases side <;> decide

theorem length_padLeft_precedence (precedence : UInt8) :
    (padLeft 4 (decimalDigits precedence.toNat)).length = 4 := by
  have short : (decimalDigits precedence.toNat).length ≤ 3 := by
    rw [decimalDigits, Nat.length_toDigits_le_iff (by decide) (by decide)]
    exact Nat.lt_trans precedence.toNat_lt (by decide)
  rw [padLeft, List.length_append, List.length_replicate]
  omega

/-- Without its spaces, a padded column is what it was filled with. -/
theorem filter_column {cs : List Char} (solid : ' ' ∉ cs) (before behind : Nat) :
    (List.replicate before ' ' ++ cs ++ List.replicate behind ' ').filter (· != ' ') = cs := by
  have kept : ∀ c ∈ cs, (c != ' ') = true := by
    intro c member
    refine bne_iff_ne.2 ?_
    rintro rfl
    exact solid member
  rw [List.filter_append, List.filter_append, List.filter_eq_self.2 kept]
  simp

theorem filter_precedence (precedence : Nat) :
    (' ' :: padLeft 4 (decimalDigits precedence)).filter (· != ' ') = decimalDigits precedence := by
  have solid : ' ' ∉ decimalDigits precedence :=
    fun member => absurd (Text.isDigit_of_mem_decimalDigits member) (by decide)
  simpa [padLeft] using filter_column solid (4 - (decimalDigits precedence).length) 0

theorem filter_side (side : Associativity) :
    (' ' :: ' ' :: padRight 5 (Named.word side).toList ++ [' ', ' ']).filter (· != ' ') =
      (Named.word side).toList := by
  have solid : ' ' ∉ (Named.word side).toList :=
    fun member => absurd (isAlpha_of_mem_side _ _ member) (by decide)
  simpa [padRight] using filter_column solid 2 2

/-- A token without a space at its end is what its column shows. -/
theorem rdropWhile_padRight {token : List Char} (shown : token.getLast? ≠ some ' ')
    (width : Nat) : (padRight width token).rdropWhile (· == ' ') = token := by
  have spaces : ∀ c ∈ List.replicate (width - token.length) ' ', (c == ' ') = true :=
    fun c member => beq_iff_eq.2 (List.eq_of_mem_replicate member)
  rw [padRight, Text.rdropWhile_append_of_pos _ spaces, List.rdropWhile_eq_self_iff]
  intro filled space
  rw [List.getLast?_eq_some_getLast filled, beq_iff_eq.1 space] at shown
  exact shown rfl

/-! ## A line is read back -/

theorem rdrop_column {α : Type} (a b : List α) {n : Nat} (width : b.length = n) :
    (a ++ b).rdrop n = a := by
  rw [← width, List.rdrop_append_length]

theorem rtake_column {α : Type} (a b : List α) {n : Nat} (width : b.length = n) :
    (a ++ b).rtake n = b := by
  simp [List.rtake, ← width]

theorem rdropWhile_rowLine (token : String) (info : OperatorRow) :
    (rowLine token info).rdropWhile (· != ' ') =
      frontColumns token.toList (decimalDigits info.precedence.toNat)
        (Named.word info.associativity).toList := by
  have word : ∀ c ∈ (Named.word info.resultType).toList, (c != ' ') = true := by
    intro c member
    have letter := isAlpha_of_mem_type info.resultType c member
    refine bne_iff_ne.2 ?_
    rintro rfl
    exact absurd letter (by decide)
  rw [rowLine, Text.rdropWhile_append_of_pos _ word, List.rdropWhile_eq_self_iff]
  intro filled
  simp [frontColumns]

theorem readRow?_rowLine {token : String} (shown : IsShown token) (info : OperatorRow) :
    readRow? (rowLine token info) = some (token, info) := by
  have width := length_padLeft_precedence info.precedence
  have sideWidth := length_padRight_side info.associativity
  have columns := rdropWhile_rowLine token info
  unfold readRow?
  simp only [columns]
  rw [frontColumns, rtake_column _ _ (by simp [sideWidth]),
    rdrop_column _ _ (by simp [sideWidth]), rtake_column _ _ (by simp [width]),
    rdrop_column _ _ (by simp [width]), filter_side, filter_precedence,
    rdropWhile_padRight shown.2, ← frontColumns, rowLine, List.drop_left]
  simp [LawfulNamed.ofWord?_word]

/-! ## The lines of a listing -/

theorem notMem_rowLine {token : String} (single : '\n' ∉ token.toList) (info : OperatorRow) :
    '\n' ∉ rowLine token info := by
  have digits : '\n' ∉ decimalDigits info.precedence.toNat :=
    fun member => absurd (Text.isDigit_of_mem_decimalDigits member) (by decide)
  have side : '\n' ∉ (Named.word info.associativity).toList :=
    fun member => absurd (isAlpha_of_mem_side _ _ member) (by decide)
  have type : '\n' ∉ (Named.word info.resultType).toList :=
    fun member => absurd (isAlpha_of_mem_type _ _ member) (by decide)
  simp [rowLine, frontColumns, padRight, padLeft, single, digits, side, type]

/-- A line that does not end in a blank. -/
def EndsSolid (line : List Char) : Prop :=
  ∃ filled : line ≠ [], isBlank (line.getLast filled) = false

theorem endsSolid_rowLine (token : String) (info : OperatorRow) :
    EndsSolid (rowLine token info) := by
  have type : EndsSolid (Named.word info.resultType).toList := by
    cases info.resultType <;> exact ⟨by decide, by decide⟩
  obtain ⟨filled, solid⟩ := type
  refine ⟨List.append_ne_nil_of_right_ne_nil _ filled, ?_⟩
  simp only [rowLine]
  rw [List.getLast_append_of_ne_nil _ filled, solid]

theorem endsSolid_titleLine : EndsSolid titleLine :=
  ⟨by decide, by decide⟩

/-- Of lines that do not end in a blank, only the last newline is taken off. -/
theorem trimEnd_lines {lines : List (List Char)} (some : lines ≠ [])
    (solid : ∀ line ∈ lines, EndsSolid line) :
    trimEnd (lines.flatMap (· ++ ['\n'])) = ['\n'].intercalate lines := by
  rw [Text.trimEnd_eq_rdropWhile]
  induction lines with
  | nil => exact absurd rfl some
  | cons line rest ih =>
    obtain ⟨⟨filled, kept⟩, others⟩ := List.forall_mem_cons.1 solid
    cases rest with
    | nil =>
      have whole : line.rdropWhile isBlank = line :=
        List.rdropWhile_eq_self_iff.2 fun _ => by rw [kept]; decide
      rw [List.flatMap_singleton, List.intercalate_singleton,
        List.rdropWhile_concat_pos isBlank line '\n' (by decide), whole]
    | cons next rest =>
      have left : ((next :: rest).flatMap (· ++ ['\n'])).rdropWhile isBlank ≠ [] := by
        obtain ⟨filledNext, solidNext⟩ := others next List.mem_cons_self
        have member : next.getLast filledNext ∈ (next :: rest).flatMap (· ++ ['\n']) := by
          rw [List.flatMap_cons]
          exact List.mem_append_left _ (List.mem_append_left _ (List.getLast_mem filledNext))
        exact List.ne_nil_of_mem (Text.mem_rdropWhile member solidNext)
      rw [List.flatMap_cons, List.intercalate_cons_cons, ← ih (by simp) others]
      exact Text.rdropWhile_append _ left

namespace OperatorTable

/-- The lines of a listing: the titles, and a line for each row. -/
def lines (t : OperatorTable) : List (List Char) :=
  titleLine :: t.entries.map fun row => rowLine row.1 row.2

/-- A table whose tokens are shown by their lines. -/
def Shown (t : OperatorTable) : Prop :=
  ∀ token ∈ t.keys, IsShown token

theorem listing_toList (t : OperatorTable) : t.listing.toList = ['\n'].intercalate t.lines := by
  have titles : listingLine "token".toList "prec".toList "assoc".toList "type".toList =
      titleLine ++ ['\n'] := by decide
  have solid : ∀ line ∈ t.lines, EndsSolid line := by
    refine List.forall_mem_cons.2 ⟨endsSolid_titleLine, ?_⟩
    rw [List.forall_mem_map]
    exact fun row _ => endsSolid_rowLine row.1 row.2
  rw [← trimEnd_lines (by simp [lines]) solid, listing, String.toList_ofList, titles, lines,
    List.flatMap_cons, List.flatMap_map]
  simp only [listingRow_eq]

theorem splitOn_listing {t : OperatorTable} (shown : t.Shown) :
    t.listing.toList.splitOn '\n' = t.lines := by
  rw [listing_toList]
  refine List.splitOn_intercalate '\n' (List.forall_mem_cons.2 ⟨by decide, ?_⟩) (by simp [lines])
  rw [List.forall_mem_map]
  intro row member
  exact notMem_rowLine (shown row.1 (List.mem_map_of_mem member)).1 row.2

theorem map_readRow?_lines {t : OperatorTable} (shown : t.Shown) :
    t.lines.tail.map readRow? = t.entries.map some := by
  rw [lines, List.tail_cons, List.map_map]
  refine List.map_congr_left fun row member => ?_
  exact readRow?_rowLine (shown row.1 (List.mem_map_of_mem member)) row.2

/-- **A listing loses nothing**, if no token has a newline or ends in a space. It is a line of
titles and a line for each row, in the order of the tokens, from which the row is read back; and no
other such table has the same listing. -/
theorem listing_lossless {a : OperatorTable} (shown : a.Shown) :
    (∃ rows, a.listing.toList.splitOn '\n' = titleLine :: rows ∧ rows.length = a.size ∧
      (rows.map (· ++ ['\n']) = a.entries.map fun row => listingRow row.1 row.2) ∧
      rows.map readRow? = a.entries.map some) ∧
    ∀ b : OperatorTable, b.Shown → a.listing = b.listing → a = b := by
  refine ⟨⟨a.lines.tail, splitOn_listing shown, ?_, ?_, map_readRow?_lines shown⟩, ?_⟩
  · simp [lines, Dictionary.size]
  · simp [lines, listingRow_eq]
  · intro b shownB same
    have sameLines : a.lines = b.lines := by
      rw [← splitOn_listing shown, ← splitOn_listing shownB, same]
    have sameRows : a.entries.map some = b.entries.map some := by
      rw [← map_readRow?_lines shown, ← map_readRow?_lines shownB, sameLines]
    exact Dictionary.ext_entries (List.map_injective_iff.2 (fun _ _ => Option.some.inj) sameRows)

/-- Rows whose tokens are empty, not ASCII, longer than their column, or like another line. -/
def oddRows : List (String × OperatorRow) :=
  [("", ⟨0, .left, .needsInference⟩), (" ÷\t", ⟨10, .right, .string⟩), ("a", ⟨7, .left, .bool⟩),
    ("a         7  left   bool", ⟨255, .right, .list⟩)]

theorem shown_ofEntries {rows : List (String × OperatorRow)} (each : ∀ row ∈ rows, IsShown row.1) :
    Shown (.ofEntries rows) := by
  intro token member
  obtain ⟨row, found, rfl⟩ := List.mem_map.1 ((Dictionary.mem_keys_ofEntries rows token).1 member)
  exact each row found

theorem isShown_oddRows : ∀ row ∈ oddRows, IsShown row.1 := by
  have all : (oddRows.all fun row => decide (IsShown row.1)) = true := by decide
  intro row member
  exact of_decide_eq_true (List.all_eq_true.1 all row member)

theorem listing_lossless_oddRows :
    let a : OperatorTable := .ofEntries oddRows
    let b : OperatorTable := .ofEntries oddRows.reverse
    a.Shown ∧ b.Shown ∧ a.listing = b.listing ∧
      (∃ rows, a.listing.toList.splitOn '\n' = titleLine :: rows ∧ rows.length = 4 ∧
        rows.map readRow? = oddRows.map some) ∧ a = b := by
  intro a b
  have shownA : a.Shown := shown_ofEntries isShown_oddRows
  have shownB : b.Shown := by
    apply shown_ofEntries
    intro row member
    exact isShown_oddRows row (List.mem_reverse.1 member)
  have same : a.listing = b.listing := by decide +kernel
  obtain ⟨⟨rows, split, size, -, read⟩, unique⟩ := listing_lossless shownA
  exact ⟨shownA, shownB, same, ⟨rows, split, size, read⟩, unique b shownB same⟩

end OperatorTable

end ScriptTree
