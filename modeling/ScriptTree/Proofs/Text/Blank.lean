import ScriptTree.Text.Blank
import Mathlib.Data.List.DropRight
import Mathlib.Data.List.TakeWhile

/-!
# The ends of a text

A text loses the blanks at its end up to the last other character. What is left without the blanks
at the two ends does not depend on blanks around the text (`trim_padded`), and it has all characters
of the text that are no blanks (`mem_trim`).
-/

namespace ScriptTree.Text
set_option autoImplicit false

/-! ## The end of a list -/

section

variable {α : Type} {p : α → Bool}

theorem rdropWhile_append_of_pos (l : List α) {run : List α} (all : ∀ a ∈ run, p a = true) :
    (l ++ run).rdropWhile p = l.rdropWhile p := by
  have reversed : ∀ a ∈ run.reverse, p a = true :=
    fun a member => all a (List.mem_reverse.1 member)
  rw [List.rdropWhile, List.reverse_append, List.dropWhile_append_of_pos reversed, List.rdropWhile]

/-- What is dropped at the end of the second list is dropped at the end of both, if something of the
second list is left. -/
theorem rdropWhile_append (k : List α) {l : List α} (left : l.rdropWhile p ≠ []) :
    (k ++ l).rdropWhile p = k ++ l.rdropWhile p := by
  have more : (l.reverse.dropWhile p).isEmpty = false := by
    simpa [List.rdropWhile] using left
  rw [List.rdropWhile, List.reverse_append, List.dropWhile_append, more, List.rdropWhile]
  simp

theorem mem_dropWhile {l : List α} {a : α} (member : a ∈ l) (kept : p a = false) :
    a ∈ l.dropWhile p := by
  rw [← List.takeWhile_append_dropWhile (p := p) (l := l)] at member
  rcases List.mem_append.1 member with dropped | left
  · rw [List.mem_takeWhile_imp dropped] at kept
    cases kept
  · exact left

theorem mem_rdropWhile {l : List α} {a : α} (member : a ∈ l) (kept : p a = false) :
    a ∈ l.rdropWhile p :=
  List.mem_reverse.2 (mem_dropWhile (List.mem_reverse.2 member) kept)

end

/-! ## The blanks at the ends of a text -/

theorem trimEnd_eq_rdropWhile (cs : List Char) : trimEnd cs = cs.rdropWhile isBlank :=
  rfl

theorem trim_padded {before after : List Char} (first : ∀ c ∈ before, isBlank c = true)
    (last : ∀ c ∈ after, isBlank c = true) (cs : List Char) :
    trim (before ++ cs ++ after) = trim cs := by
  unfold trim trimStart
  rw [List.append_assoc, List.dropWhile_append_of_pos first, List.dropWhile_append]
  split
  · -- nothing but blanks, so that the blanks behind are at the start as well
    rename_i blank
    rw [List.isEmpty_iff.1 blank, List.dropWhile_eq_nil_iff.2 last]
  · exact rdropWhile_append_of_pos _ last

theorem mem_trim {cs : List Char} {c : Char} (member : c ∈ cs) (solid : isBlank c = false) :
    c ∈ trim cs :=
  mem_rdropWhile (mem_dropWhile member solid) solid

end ScriptTree.Text
