import ScriptTree.Json.Lexeme
import ScriptTree.Json.Writer
import ScriptTree.Proofs.Json.NumberText
import ScriptTree.Proofs.Json.StringRoundTrip

/-!
# Lexemes of a written text

What `scan` finds at the front of a text that was written: blanks are passed over, and a mark, a
string and a number are one lexeme each, with the rest of the text behind it.
-/

namespace ScriptTree.Json
set_option autoImplicit false

/-! ## The first lexeme -/

theorem scan_eq {cs rest : List Char} {l : Lexeme} (first : Lexeme.first? cs = some l)
    (stop : l.stop = some rest) : scan cs = l :: scan rest := by
  rw [scan]
  split
  · simp_all
  · rename_i found
    obtain rfl := Option.some.inj (first.symm.trans found)
    split
    · simp_all
    · rename_i left
      obtain rfl := Option.some.inj (stop.symm.trans left)
      rfl

theorem scan_none {cs : List Char} (first : Lexeme.first? cs = none) : scan cs = [] := by
  rw [scan]
  split
  · rfl
  · simp_all

theorem scan_last {cs : List Char} {l : Lexeme} (first : Lexeme.first? cs = some l)
    (stop : l.stop = none) : scan cs = [l] := by
  rw [scan]
  split
  · simp_all
  · rename_i found
    obtain rfl := Option.some.inj (first.symm.trans found)
    split
    · rfl
    · simp_all

theorem scan_congr {cs cs' : List Char} (first : Lexeme.first? cs = Lexeme.first? cs') :
    scan cs = scan cs' := by
  cases found : Lexeme.first? cs' with
  | none => rw [scan_none found, scan_none (first.trans found)]
  | some l =>
    cases stop : l.stop with
    | none => rw [scan_last found stop, scan_last (first.trans found) stop]
    | some rest => rw [scan_eq found stop, scan_eq (first.trans found) stop]

theorem first?_space {c : Char} (space : isSpace c = true) (cs : List Char) :
    Lexeme.first? (c :: cs) = Lexeme.first? cs := by
  simp [Lexeme.first?, space]

theorem first?_char {c : Char} (noSpace : isSpace c = false) (cs : List Char) :
    Lexeme.first? (c :: cs) = some (Lexeme.ofChar c cs) := by
  simp [Lexeme.first?, noSpace]

/-! ## Blanks and marks -/

theorem scan_space {c : Char} (space : isSpace c = true) (cs : List Char) :
    scan (c :: cs) = scan cs :=
  scan_congr (first?_space space cs)

theorem scan_newline (level : Nat) (cs : List Char) : scan (newline level ++ cs) = scan cs := by
  have spaces : ∀ k, scan (List.replicate k ' ' ++ cs) = scan cs := by
    intro k
    induction k with
    | zero => rfl
    | succ k ih => rw [List.replicate_succ, List.cons_append, scan_space rfl, ih]
  unfold newline
  rw [List.cons_append, scan_space rfl, spaces]

theorem scan_mark {c : Char} {m : Mark} {rest : List Char} (noSpace : isSpace c = false)
    (lexeme : Lexeme.ofChar c rest = ⟨.mark m, c :: rest, some rest⟩) :
    scan (c :: rest) = ⟨.mark m, c :: rest, some rest⟩ :: scan rest := by
  have first := first?_char noSpace rest
  rw [lexeme] at first
  exact scan_eq first rfl

/-! ## Strings and numbers -/

theorem scan_string (text : String) (rest : List Char) :
    scan (stringText text ++ rest) =
      ⟨.string (.ok text) none, stringText text ++ rest, some rest⟩ :: scan rest := by
  obtain ⟨inner, quoted, read⟩ := readString_stringText text rest
  have lexeme : Lexeme.ofChar '"' inner = ⟨.string (.ok text) none, '"' :: inner, some rest⟩ := by
    simp [Lexeme.ofChar, Lexeme.ofString, read]
  have first := first?_char (c := '"') rfl inner
  rw [lexeme] at first
  rw [quoted]
  exact scan_eq first rfl

theorem ofChar_number {c : Char} (h : c = '-' ∨ c.isDigit = true) (rest : List Char) :
    Lexeme.ofChar c rest = Lexeme.ofNumber (c :: rest) := by
  unfold Lexeme.ofChar
  split
  case h_11 => rw [if_pos h]
  all_goals exact absurd h (by decide)

theorem isSpace_number {c : Char} (h : c = '-' ∨ c.isDigit = true) : isSpace c = false := by
  cases space : isSpace c with
  | false => rfl
  | true =>
    simp only [isSpace, Bool.or_eq_true, decide_eq_true_eq] at space
    rcases space with ((rfl | rfl) | rfl) | rfl
    all_goals exact absurd h (by decide)

/-- The text of a numeral starts with a sign or a digit. -/
theorem text_cons {n : Numeral} (h : n.WellFormed) :
    ∃ c cs, n.text = c :: cs ∧ (c = '-' ∨ c.isDigit = true) := by
  obtain ⟨d, ds, whole⟩ := List.exists_cons_of_ne_nil h.whole.1
  have digit : d.isDigit = true := h.whole.2 d (by simp [whole])
  cases sign : n.negative with
  | true => exact ⟨'-', _, by simp [Numeral.text, Numeral.signText, sign]; rfl, .inl rfl⟩
  | false => exact ⟨d, _, by simp [Numeral.text, Numeral.signText, sign, whole]; rfl, .inr digit⟩

theorem endsNumber_newline (level : Nat) (rest : List Char) : EndsNumber (newline level ++ rest) :=
  endsNumber_cons.2 rfl

theorem endsNumber_comma (rest : List Char) : EndsNumber (',' :: rest) :=
  endsNumber_cons.2 rfl

theorem scan_numeral {n : Numeral} (h : n.WellFormed) {rest : List Char}
    (stop : EndsNumber rest) :
    scan (n.text ++ rest) = ⟨.scalar (n.value rest) none, n.text ++ rest, some rest⟩ ::
      scan rest := by
  obtain ⟨c, cs, text, start⟩ := text_cons h
  have lexeme : Lexeme.ofChar c (cs ++ rest) =
      ⟨.scalar (n.value rest) none, n.text ++ rest, some rest⟩ := by
    rw [ofChar_number start, ← List.cons_append, ← text, Lexeme.ofNumber, Numeral.scan_text h stop]
  have first := first?_char (isSpace_number start) (cs ++ rest)
  rw [lexeme, ← List.cons_append, ← text] at first
  exact scan_eq first rfl

end ScriptTree.Json
