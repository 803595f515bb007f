import Mathlib.Algebra.Group.Nat.Defs
import ScriptTree.Proofs.Comment.Placeholder

/-!
# Texts with gaps for comments

`Segments` are the texts around the gaps that comments stand in. A gap is filled with a placeholder
first and with the text of a comment later. Each placeholder that fills a gap is found in its place
(`marks_sublist_occurrences`). If nothing else is found, `restore` fills the same gaps with the
comments, and otherwise it fails (`restore_code`).
-/

namespace ScriptTree.Placeholder
set_option autoImplicit false
open Text

/-- The text before the first gap, and the texts that follow the gaps. -/
structure Segments where
  first : List Char
  rest : List (List Char)

namespace Segments

/-- The segments with a text before them. -/
def prepend (cs : List Char) (s : Segments) : Segments :=
  ⟨cs ++ s.first, s.rest⟩

/-- The segments with a gap before them. -/
def gap (s : Segments) : Segments :=
  ⟨[], s.first :: s.rest⟩

/-- The text with the gaps filled. -/
def fill (s : Segments) (texts : List (List Char)) : List Char :=
  s.first ++ (s.rest.zip texts).flatMap fun (segment, text) => text ++ segment

@[simp] theorem fill_prepend (cs : List Char) (s : Segments) (texts : List (List Char)) :
    (s.prepend cs).fill texts = cs ++ s.fill texts := by
  simp [prepend, fill]

@[simp] theorem fill_gap (s : Segments) (text : List Char) (texts : List (List Char)) :
    s.gap.fill (text :: texts) = text ++ s.fill texts := by
  simp [gap, fill]

theorem fill_cons (first segment : List Char) (rest : List (List Char)) (text : List Char)
    (texts : List (List Char)) :
    (Segments.mk first (segment :: rest)).fill (text :: texts) =
      first ++ (text ++ (Segments.mk segment rest).fill texts) := by
  simp [fill]

end Segments

/-- The texts of placeholders with numbers from `next` on. -/
def placeholders (next count : Nat) : List (List Char) :=
  (List.range' next count).map fun index => (spelled index).text

theorem placeholders_succ (next count : Nat) :
    placeholders next (count + 1) = (spelled next).text :: placeholders (next + 1) count := by
  simp [placeholders, List.range'_succ]

theorem placeholders_add (next a b : Nat) :
    placeholders next (a + b) = placeholders next a ++ placeholders (next + a) b := by
  rw [placeholders, ← List.range'_append_1, List.map_append]
  rfl

namespace Segments

/-- The text with placeholders in its gaps. -/
def code (next : Nat) (s : Segments) : List Char :=
  s.fill (placeholders next s.rest.length)

theorem code_cons (next : Nat) (first segment : List Char) (rest : List (List Char)) :
    code next ⟨first, segment :: rest⟩ =
      first ++ ((spelled next).text ++ code (next + 1) ⟨segment, rest⟩) := by
  rw [code, List.length_cons, placeholders_succ, fill_cons]
  rfl

/-- The places of the placeholders in the gaps. -/
def marks (start next : Nat) (first : List Char) : List (List Char) → List Occurrence
  | [] => []
  | segment :: rest =>
    (spelled next).at (start + first.length) ::
      marks (start + first.length + (spelled next).text.length) (next + 1) segment rest

theorem length_marks (start next : Nat) (first : List Char) (rest : List (List Char)) :
    (marks start next first rest).length = rest.length := by
  induction rest generalizing start next first with
  | nil => rfl
  | cons segment rest ih => simp [marks, ih]

/-- The mark with an index is the place of the placeholder with the number that belongs to it. -/
theorem getElem?_marks (start next : Nat) (first : List Char) {rest : List (List Char)} {i : Nat}
    (inside : i < rest.length) :
    ∃ before after, code next ⟨first, rest⟩ = before ++ ((spelled (next + i)).text ++ after) ∧
      (marks start next first rest)[i]? =
        some ((spelled (next + i)).at (start + before.length)) := by
  induction rest generalizing start next first i with
  | nil => simp at inside
  | cons segment rest ih =>
    cases i with
    | zero => exact ⟨first, code (next + 1) ⟨segment, rest⟩, code_cons next first segment rest, rfl⟩
    | succ i =>
      obtain ⟨before, after, text, mark⟩ :=
        ih (start + first.length + (spelled next).text.length) (next + 1) segment
          (Nat.lt_of_succ_lt_succ inside)
      have number : next + 1 + i = next + (i + 1) := by omega
      rw [number] at text mark
      refine ⟨first ++ (spelled next).text ++ before, after, ?_, ?_⟩
      · rw [code_cons, text]
        simp only [List.append_assoc]
      · rw [marks, List.getElem?_cons_succ, mark]
        simp [Nat.add_assoc]

/-- **The placeholders in the gaps are found in their places**, whatever the text around them is. -/
theorem marks_sublist_occurrences (start next : Nat) (first : List Char)
    (rest : List (List Char)) :
    List.Sublist (marks start next first rest) (occurrences start (code next ⟨first, rest⟩)) := by
  induction rest generalizing start next first with
  | nil => exact List.nil_sublist _
  | cons segment rest ih =>
    rw [code_cons, occurrences_append, marks]
    exact ((ih _ _ _).cons_cons _).trans (List.sublist_append_right _ _)

/-! ## Texts without further placeholders -/

theorem length_cut (start : Nat) (cs : List Char) :
    (cut cs).tail.length = (occurrences start cs).length := by
  have digits := congrArg List.length (cut_digits start cs)
  simpa using digits

theorem length_le_cut (next : Nat) (first : List Char) (rest : List (List Char)) :
    rest.length ≤ (cut (code next ⟨first, rest⟩)).tail.length := by
  rw [length_cut 0, ← length_marks 0 next first rest]
  exact (marks_sublist_occurrences 0 next first rest).length_le

/-- A text without placeholders is cut nowhere. -/
theorem cut_whole {cs : List Char} (whole : (cut cs).tail = []) : cut cs = ⟨cs, []⟩ := by
  induction cs using scan_induction with
  | nil => exact cut_nil
  | found s rest ih => simp [cut_text, Pieces.mark] at whole
  | skip c rest missing ih =>
    rw [cut_skip missing] at whole ⊢
    rw [ih whole]
    rfl

/-- A text with nothing but the placeholders in its gaps is cut into its segments. -/
theorem cut_code {next : Nat} {first : List Char} {rest : List (List Char)}
    (exact : (cut (code next ⟨first, rest⟩)).tail.length = rest.length) :
    cut (code next ⟨first, rest⟩) =
      ⟨first, ((List.range' next rest.length).map decimalDigits).zip rest⟩ := by
  induction rest generalizing next first with
  | nil =>
    have alone : code next ⟨first, []⟩ = first := by simp [code, fill]
    rw [alone] at exact ⊢
    rw [cut_whole (List.eq_nil_of_length_eq_zero exact)]
    rfl
  | cons segment rest ih =>
    rw [code_cons, cut_append] at exact ⊢
    have more := length_le_cut (next + 1) segment rest
    simp only [List.length_append, List.length_cons] at exact
    have whole : (cut first).tail = [] := List.eq_nil_of_length_eq_zero (by omega)
    rw [cut_whole whole, ih (by omega)]
    simp [List.range'_succ, spelled]

end Segments

theorem index?_decimalDigits (n : Nat) :
    index? (decimalDigits n) = if n < 2 ^ 64 then some n else none := by
  have digits : (decimalDigits n).all Char.isDigit = true :=
    List.all_eq_true.2 fun _ member => isDigit_of_mem_decimalDigits member
  simp [index?, digits]

theorem Pieces.fill_eq (p : Pieces) (comments : List Comment) :
    p.fill comments =
      (Segments.mk p.head (p.tail.map Prod.snd)).fill (comments.map Comment.text) := by
  simp [Pieces.fill, Segments.fill, List.zip_map, List.flatMap_map]

/-- The numbers of the placeholders in the gaps are read back if they are words of 64 bits. -/
theorem map_index?_range (count : Nat) :
    ((List.range count).map fun i => index? (decimalDigits i)) = (List.range count).map some ↔
      count ≤ 2 ^ 64 := by
  rw [List.map_inj_left]
  simp only [List.mem_range, index?_decimalDigits]
  constructor
  · intro each
    by_contra large
    have top := each (2 ^ 64) (by omega)
    rw [if_neg (Nat.lt_irrefl _)] at top
    cases top
  · intro bound i below
    rw [if_pos (by omega)]

/-- **Comments are put in the gaps if nothing else looks like a placeholder**, and are refused
otherwise. Numbers of comments are words of 64 bits. -/
theorem restore_code (s : Segments) {comments : List Comment}
    (each : comments.length = s.rest.length) :
    restore (s.code 0) comments =
      if (occurrences 0 (s.code 0)).length = comments.length ∧ comments.length ≤ 2 ^ 64 then
        .ok (s.fill (comments.map Comment.text))
      else .error ⟨(occurrences 0 (s.code 0)).length, comments.length⟩ := by
  obtain ⟨first, rest⟩ := s
  unfold restore
  rw [← Segments.length_cut]
  by_cases exact : (cut (Segments.code 0 ⟨first, rest⟩)).tail.length = comments.length
  · have pieces := Segments.cut_code (exact.trans each)
    rw [← each] at pieces
    have numbers : (cut (Segments.code 0 ⟨first, rest⟩)).tail.map (fun piece => index? piece.1) =
        (List.range comments.length).map fun i => index? (decimalDigits i) := by
      rw [pieces]
      have digits : (((List.range' 0 comments.length).map decimalDigits).zip rest).map Prod.fst =
          (List.range' 0 comments.length).map decimalDigits := List.map_fst_zip (by simp [each])
      have indices := congrArg (List.map index?) digits
      simpa [Function.comp_def, List.range_eq_range'] using indices
    have filled : (cut (Segments.code 0 ⟨first, rest⟩)).fill comments =
        (Segments.mk first rest).fill (comments.map Comment.text) := by
      rw [Pieces.fill_eq, pieces, List.map_snd_zip (by simp [each])]
    simp only [numbers, map_index?_range, exact, true_and, filled]
  · have differ : (cut (Segments.code 0 ⟨first, rest⟩)).tail.map (fun piece => index? piece.1) ≠
        (List.range comments.length).map some := by
      intro same
      exact exact (by simpa using congrArg List.length same)
    simp only [differ, exact, false_and, if_false]

end ScriptTree.Placeholder
