import ScriptTree.Comment.Placeholder
import ScriptTree.Proofs.Text.Digits

/-!
# Placeholders in a text

A `Spelling` is a text that counts as a placeholder. It has a `v` in its first place only, so a
spelling that starts before another one also ends before it: the placeholders of a text do not
overlap, and the text around a spelling cannot hide it (`cut_append`, `occurrences_append`).
-/

namespace ScriptTree.Placeholder
set_option autoImplicit false
open Text

/-! ## Spellings -/

/-- A quote of either kind. -/
def isQuote (c : Char) : Bool :=
  c = '"' ∨ c = '\x27'

/-- A text that counts as a placeholder, by its parts. -/
structure Spelling where
  /-- The blanks before the string. -/
  before : List Char
  opening : Char
  digits : List Char
  closing : Char
  /-- The blanks after the string. -/
  after : List Char
  blank_before : ∀ c ∈ before, isBlank c = true
  quote_opening : isQuote opening = true
  digits_ne_nil : digits ≠ []
  decimal_digits : ∀ c ∈ digits, isDecimalDigit c = true
  quote_closing : isQuote closing = true
  blank_after : ∀ c ∈ after, isBlank c = true

/-- The text of a spelling. -/
def Spelling.text (s : Spelling) : List Char :=
  "void".toList ++ (s.before ++ s.opening :: ("__estemplate_comment_".toList ++
    (s.digits ++ ("__".toList ++ s.closing :: (s.after ++ [';'])))))

/-- The spelling that is printed for the comment with a number. -/
def spelled (index : Nat) : Spelling where
  before := [' ']
  opening := '"'
  digits := decimalDigits index
  closing := '"'
  after := []
  blank_before := List.forall_mem_singleton.2 (by decide)
  quote_opening := by decide
  digits_ne_nil := decimalDigits_ne_nil index
  decimal_digits := fun _ h => isDecimalDigit_of_isDigit (isDigit_of_mem_decimalDigits h)
  quote_closing := by decide
  blank_after := List.forall_mem_nil _

theorem spelled_text (index : Nat) :
    (spelled index).text = "void \"".toList ++ content index ++ "\";".toList := by
  unfold Spelling.text content
  simp [spelled]

/-! ## Finding a spelling -/

theorem after?_append (expected rest : List Char) :
    after? expected (expected ++ rest) = some rest := by
  induction expected with
  | nil => simp [after?]
  | cons e expected ih => simp [after?, ih]

theorem eq_append_of_after? {expected cs rest : List Char} (h : after? expected cs = some rest) :
    cs = expected ++ rest := by
  fun_induction after? expected cs with
  | case1 => simp_all
  | case2 => cases h
  | case3 expected e cs ih => simp [ih h]
  | case4 => cases h

theorem afterQuote?_cons {q : Char} (quote : isQuote q = true) (rest : List Char) :
    afterQuote? (q :: rest) = some rest :=
  if_pos (of_decide_eq_true quote)

theorem eq_cons_of_afterQuote? {cs rest : List Char} (h : afterQuote? cs = some rest) :
    ∃ q, isQuote q = true ∧ cs = q :: rest := by
  cases cs with
  | nil => cases h
  | cons c cs =>
    simp only [afterQuote?, Option.ite_none_right_eq_some, Option.some.injEq] at h
    exact ⟨c, decide_eq_true h.1, by rw [h.2]⟩

theorem afterDigits?_append {digits rest : List Char} (some_digits : digits ≠ [])
    (decimal : ∀ c ∈ digits, isDecimalDigit c = true) (stop : Ends isDecimalDigit rest) :
    afterDigits? (digits ++ rest) = some (digits, rest) := by
  unfold afterDigits?
  rw [takeWhile_run decimal stop, dropWhile_run decimal stop]
  simp [some_digits]

theorem eq_append_of_afterDigits? {cs digits rest : List Char}
    (h : afterDigits? cs = some (digits, rest)) :
    digits ≠ [] ∧ (∀ c ∈ digits, isDecimalDigit c = true) ∧ cs = digits ++ rest := by
  unfold afterDigits? at h
  split at h
  · cases h
  · rename_i nonempty
    cases h
    refine ⟨by simpa using nonempty, ?_, List.takeWhile_append_dropWhile.symm⟩
    intro c member
    exact List.mem_takeWhile_imp member

theorem ends_blank_quote {q : Char} (quote : isQuote q = true) (rest : List Char) :
    Ends isBlank (q :: rest) := by
  rw [ends_cons]
  simp only [isQuote, decide_eq_true_eq] at quote
  rcases quote with rfl | rfl <;> decide

theorem ends_decimal_underscore (rest : List Char) : Ends isDecimalDigit ("__".toList ++ rest) :=
  ends_cons.2 (by decide)

theorem ends_blank_semicolon (rest : List Char) : Ends isBlank (';' :: rest) :=
  ends_cons.2 (by decide)

/-- A spelling that comes first is found, with its digits. -/
theorem first?_text (s : Spelling) (rest : List Char) :
    first? (s.text ++ rest) = some (s.digits, rest) := by
  simp only [first?, Spelling.text, List.append_assoc, List.cons_append, List.nil_append,
    Option.bind_eq_bind]
  rw [after?_append, Option.bind_some,
    dropWhile_run s.blank_before (ends_blank_quote s.quote_opening _),
    afterQuote?_cons s.quote_opening, Option.bind_some, after?_append, Option.bind_some,
    afterDigits?_append s.digits_ne_nil s.decimal_digits (ends_decimal_underscore _),
    Option.bind_some]
  dsimp only
  rw [after?_append, Option.bind_some, afterQuote?_cons s.quote_closing, Option.bind_some,
    dropWhile_run s.blank_after (ends_blank_semicolon _)]
  rfl

/-- What is found first in a text is a spelling. -/
theorem spelling_of_first? {cs digits rest : List Char} (h : first? cs = some (digits, rest)) :
    ∃ s : Spelling, s.digits = digits ∧ cs = s.text ++ rest := by
  simp only [first?, Option.bind_eq_bind, Option.bind_eq_some_iff] at h
  obtain ⟨a, word, b, quote, c, start, ⟨d, e⟩, number, f, underscores, g, quote', i, semicolon,
    last⟩ := h
  cases last
  obtain ⟨opening, quote_opening, opened⟩ := eq_cons_of_afterQuote? quote
  obtain ⟨closing, quote_closing, rfl⟩ := eq_cons_of_afterQuote? quote'
  obtain ⟨digits_ne_nil, decimal_digits, rfl⟩ := eq_append_of_afterDigits? number
  refine ⟨⟨a.takeWhile isBlank, opening, d, closing, g.takeWhile isBlank,
    fun c h => List.mem_takeWhile_imp h, quote_opening, digits_ne_nil, decimal_digits,
    quote_closing, fun c h => List.mem_takeWhile_imp h⟩, rfl, ?_⟩
  have before : a = a.takeWhile isBlank ++ opening :: b := by
    rw [← opened, List.takeWhile_append_dropWhile]
  have after : g = g.takeWhile isBlank ++ ';' :: rest := by
    rw [show ';' :: rest = g.dropWhile isBlank from (eq_append_of_after? semicolon).symm,
      List.takeWhile_append_dropWhile]
  calc
    cs = "void".toList ++ (a.takeWhile isBlank ++ opening :: b) := by
      rw [← before]
      exact eq_append_of_after? word
    _ = "void".toList ++ (a.takeWhile isBlank ++ opening :: ("__estemplate_comment_".toList ++
          (d ++ ("__".toList ++ closing :: (g.takeWhile isBlank ++ ';' :: rest))))) := by
      rw [← after, ← eq_append_of_after? underscores, ← eq_append_of_after? start]
    _ = _ := by simp [Spelling.text]

/-! ## Spellings do not overlap -/

theorem ne_of_isQuote {q : Char} (quote : isQuote q = true) : 'v' ≠ q := by
  rintro rfl
  exact absurd quote (by decide)

theorem notMem_of_isBlank {cs : List Char} (blank : ∀ c ∈ cs, isBlank c = true) : 'v' ∉ cs :=
  fun member => absurd (blank 'v' member) (by decide)

theorem notMem_of_isDecimalDigit {cs : List Char} (decimal : ∀ c ∈ cs, isDecimalDigit c = true) :
    'v' ∉ cs :=
  fun member => absurd (decimal 'v' member) (by decide)

/-- A spelling has a `v` in its first place and nowhere else. -/
theorem Spelling.text_cons (s : Spelling) : ∃ tail, s.text = 'v' :: tail ∧ 'v' ∉ tail := by
  refine ⟨s.text.tail, rfl, ?_⟩
  simp [Spelling.text, ne_of_isQuote s.quote_opening, ne_of_isQuote s.quote_closing,
    notMem_of_isBlank s.blank_before, notMem_of_isBlank s.blank_after,
    notMem_of_isDecimalDigit s.decimal_digits]

/-- A spelling that starts before another one ends before it. -/
theorem Spelling.ends_before {s other : Spelling} {c : Char} {cs after rest : List Char}
    (same : c :: cs ++ (other.text ++ after) = s.text ++ rest) :
    ∃ left, c :: cs = s.text ++ left := by
  rcases List.append_eq_append_iff.1 same with ⟨shared, text, behind⟩ | ⟨left, text, _⟩
  · obtain ⟨tail, here, once⟩ := s.text_cons
    obtain ⟨tail', there, _⟩ := other.text_cons
    cases shared with
    | nil => exact ⟨[], by simpa using text.symm⟩
    | cons first more =>
      -- The spelling goes on behind `c :: cs`, so the first letter of the other one is inside it.
      have letter : first = 'v' := by
        rw [there] at behind
        exact (List.cons.inj behind).1.symm
      have inside : tail = cs ++ 'v' :: more := by
        rw [here, letter] at text
        exact (List.cons.inj text).2
      exact absurd (by simp [inside]) once
  · exact ⟨left, text⟩

/-- A text before a spelling does not start with a placeholder that it has not by itself. -/
theorem first?_append_none {c : Char} {cs : List Char} (missing : first? (c :: cs) = none)
    (s : Spelling) (after : List Char) : first? (c :: (cs ++ (s.text ++ after))) = none := by
  rw [Option.eq_none_iff_forall_ne_some]
  rintro ⟨digits, rest⟩ found
  obtain ⟨other, _, same⟩ := spelling_of_first? found
  obtain ⟨left, start⟩ := Spelling.ends_before same
  rw [start, first?_text] at missing
  cases missing

/-- **Induction along a text**, from one placeholder to the next. -/
theorem scan_induction {P : List Char → Prop} (nil : P [])
    (found : ∀ (s : Spelling) (rest : List Char), P rest → P (s.text ++ rest))
    (skip : ∀ (c : Char) (rest : List Char), first? (c :: rest) = none → P rest → P (c :: rest))
    (cs : List Char) : P cs :=
  match h : first? cs with
  | some (digits, rest) => by
    obtain ⟨s, _, text⟩ := spelling_of_first? h
    rw [text]
    exact found s rest (scan_induction nil found skip rest)
  | none =>
    match cs with
    | [] => nil
    | c :: rest => skip c rest h (scan_induction nil found skip rest)
termination_by cs.length
decreasing_by
  · exact first?_shorter h
  · simp

/-! ## Cutting -/

theorem cut_nil : cut [] = ⟨[], []⟩ := by
  rw [cut]
  rfl

theorem cut_text (s : Spelling) (rest : List Char) :
    cut (s.text ++ rest) = (cut rest).mark s.digits := by
  rw [cut]
  split
  · rename_i found
    cases (first?_text s rest).symm.trans found
    rfl
  · rename_i missing
    simp [first?_text] at missing

theorem cut_skip {c : Char} {rest : List Char} (missing : first? (c :: rest) = none) :
    cut (c :: rest) = (cut rest).cons c := by
  rw [cut]
  split
  · rename_i found
    simp [missing] at found
  · rfl

/-- **A spelling is cut out wherever it stands**, and the texts on its two sides are cut as if they
stood alone. -/
theorem cut_append (before : List Char) (s : Spelling) (after : List Char) :
    cut (before ++ (s.text ++ after)) =
      ⟨(cut before).head,
        (cut before).tail ++ (s.digits, (cut after).head) :: (cut after).tail⟩ := by
  induction before using scan_induction with
  | nil => simp [cut_text, cut_nil, Pieces.mark]
  | found other rest ih => simp [cut_text, ih, Pieces.mark]
  | skip c rest missing ih =>
    rw [List.cons_append, cut_skip (first?_append_none missing s after), ih, cut_skip missing]
    rfl

/-! ## Occurrences -/

/-- A placeholder in a text: where it starts, how long it is, and its digits. -/
structure Occurrence where
  start : Nat
  length : Nat
  digits : List Char
deriving DecidableEq

/-- The placeholders of a text that starts at a place, from the left; none of them shares a
character with another. -/
def occurrences (start : Nat) (cs : List Char) : List Occurrence :=
  match _found : first? cs with
  | some (digits, rest) =>
    ⟨start, cs.length - rest.length, digits⟩ :: occurrences (start + (cs.length - rest.length)) rest
  | none =>
    match cs with
    | [] => []
    | _ :: rest => occurrences (start + 1) rest
termination_by cs.length
decreasing_by
  · exact first?_shorter _found
  · simp

/-- A spelling at a place. -/
def Spelling.at (s : Spelling) (start : Nat) : Occurrence :=
  ⟨start, s.text.length, s.digits⟩

theorem occurrences_nil (start : Nat) : occurrences start [] = [] := by
  rw [occurrences]
  rfl

theorem occurrences_text (start : Nat) (s : Spelling) (rest : List Char) :
    occurrences start (s.text ++ rest) =
      s.at start :: occurrences (start + s.text.length) rest := by
  rw [occurrences]
  split
  · rename_i found
    cases (first?_text s rest).symm.trans found
    simp [Spelling.at]
  · rename_i missing
    simp [first?_text] at missing

theorem occurrences_skip (start : Nat) {c : Char} {rest : List Char}
    (missing : first? (c :: rest) = none) :
    occurrences start (c :: rest) = occurrences (start + 1) rest := by
  rw [occurrences]
  split
  · rename_i found
    simp [missing] at found
  · rfl

/-- **A spelling is found wherever it stands**, and the texts on its two sides have the occurrences
that they have alone. -/
theorem occurrences_append (start : Nat) (before : List Char) (s : Spelling) (after : List Char) :
    occurrences start (before ++ (s.text ++ after)) =
      occurrences start before ++ s.at (start + before.length) ::
        occurrences (start + before.length + s.text.length) after := by
  induction before using scan_induction generalizing start with
  | nil => simp [occurrences_text, occurrences_nil]
  | found other rest ih => simp [occurrences_text, ih, Nat.add_assoc]
  | skip c rest missing ih =>
    rw [List.cons_append, occurrences_skip start (first?_append_none missing s after), ih,
      occurrences_skip start missing]
    simp [Nat.add_assoc, Nat.add_comm 1]

/-- A text is cut at its occurrences. -/
theorem cut_digits (start : Nat) (cs : List Char) :
    (cut cs).tail.map Prod.fst = (occurrences start cs).map Occurrence.digits := by
  induction cs using scan_induction generalizing start with
  | nil => simp [cut_nil, occurrences_nil]
  | found s rest ih =>
    simp [cut_text, occurrences_text, Pieces.mark, Spelling.at, ih (start + s.text.length)]
  | skip c rest missing ih =>
    rw [cut_skip missing, occurrences_skip start missing, ← ih]
    rfl

theorem le_of_mem_occurrences {start : Nat} {cs : List Char} {o : Occurrence}
    (member : o ∈ occurrences start cs) : start ≤ o.start := by
  induction cs using scan_induction generalizing start with
  | nil => simp [occurrences_nil] at member
  | found s rest ih =>
    rw [occurrences_text, List.mem_cons] at member
    rcases member with rfl | member
    · exact Nat.le_refl _
    · have := ih member
      omega
  | skip c rest missing ih =>
    rw [occurrences_skip start missing] at member
    have := ih member
    omega

/-- The placeholders of a text do not overlap, and come in the order of their places. -/
theorem pairwise_occurrences (start : Nat) (cs : List Char) :
    (occurrences start cs).Pairwise fun a b => a.start + a.length ≤ b.start := by
  induction cs using scan_induction generalizing start with
  | nil => simp [occurrences_nil]
  | found s rest ih =>
    rw [occurrences_text]
    exact .cons (fun o member => le_of_mem_occurrences member) (ih _)
  | skip c rest missing ih =>
    rw [occurrences_skip start missing]
    exact ih _

end ScriptTree.Placeholder
