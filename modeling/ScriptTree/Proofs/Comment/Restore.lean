import ScriptTree.Proofs.Comment.Segments

/-!
# Comments in the places of their placeholders

What `restore` makes of any text. The placeholders of a text are all the spellings that stand in it,
since no two of them overlap (`mem_occurrences_iff`). If there is one for each comment and they are
numbered in order, each of them is replaced by its comment and all other characters are kept;
otherwise the text is refused (`restore_eq_splice`).
-/

namespace ScriptTree.Placeholder
set_option autoImplicit false
open Text

/-! ## All placeholders of a text -/

/-- **The placeholders of a text are all the spellings in it**, each in its place. -/
theorem mem_occurrences_iff {start : Nat} {cs : List Char} {o : Occurrence} :
    o ∈ occurrences start cs ↔
      ∃ before s after, cs = before ++ (Spelling.text s ++ after) ∧
        o = s.at (start + before.length) := by
  constructor
  · intro member
    induction cs using scan_induction generalizing start with
    | nil => simp [occurrences_nil] at member
    | found s rest ih =>
      rw [occurrences_text, List.mem_cons] at member
      rcases member with rfl | member
      · exact ⟨[], s, rest, rfl, rfl⟩
      · obtain ⟨before, other, after, rfl, rfl⟩ := ih member
        exact ⟨s.text ++ before, other, after, by simp, by simp [Nat.add_assoc]⟩
    | skip c rest missing ih =>
      rw [occurrences_skip start missing] at member
      obtain ⟨before, s, after, rfl, rfl⟩ := ih member
      exact ⟨c :: before, s, after, rfl, by simp [Nat.add_assoc, Nat.add_comm 1]⟩
  · rintro ⟨before, s, after, rfl, rfl⟩
    rw [occurrences_append]
    exact List.mem_append_right _ List.mem_cons_self

theorem digits_ne_nil_of_mem_occurrences {start : Nat} {cs : List Char} {o : Occurrence}
    (member : o ∈ occurrences start cs) : o.digits ≠ [] := by
  obtain ⟨_, s, _, _, rfl⟩ := mem_occurrences_iff.1 member
  exact s.digits_ne_nil

/-- A text without spellings has no placeholders. -/
theorem occurrences_eq_nil {cs : List Char} (free : ∀ s : Spelling, ¬ s.text <:+: cs)
    (start : Nat) : occurrences start cs = [] := by
  rw [List.eq_nil_iff_forall_not_mem]
  intro o member
  obtain ⟨before, s, after, text, _⟩ := mem_occurrences_iff.1 member
  exact free s ⟨before, after, by rw [text, List.append_assoc]⟩

/-! ## The numbers of the placeholders -/

/-- Digits `0` to `9` that stand for a number of 64 bits. There may be zeros before it. -/
def Spells (digits : List Char) (index : Nat) : Prop :=
  index < 2 ^ 64 ∧ ∃ zeros, digits = List.replicate zeros '0' ++ decimalDigits index

theorem index?_eq_some_iff {digits : List Char} (nonempty : digits ≠ []) {index : Nat} :
    index? digits = some index ↔ Spells digits index := by
  constructor
  · intro read
    simp only [index?, Option.ite_none_right_eq_some, Option.some.injEq] at read
    obtain ⟨⟨digit, bound⟩, rfl⟩ := read
    exact ⟨bound, exists_zeros_append nonempty (List.all_eq_true.1 digit)⟩
  · rintro ⟨bound, zeros, rfl⟩
    have value : decimalValue (List.replicate zeros '0' ++ decimalDigits index) = index := by
      rw [decimalValue_zeros_append, decimalValue_decimalDigits]
    have digit : (List.replicate zeros '0' ++ decimalDigits index).all Char.isDigit = true := by
      rw [List.all_append, List.all_replicate, Bool.and_eq_true]
      refine ⟨by simp, List.all_eq_true.2 fun c member => isDigit_of_mem_decimalDigits member⟩
    rw [index?, value, if_pos ⟨digit, bound⟩]

/-- The placeholders of comments: there is one for each, and they are numbered in order. -/
def InOrder (found : List Occurrence) (count : Nat) : Prop :=
  found.length = count ∧ ∀ i o, found[i]? = some o → Spells o.digits i

theorem map_index?_occurrences (start : Nat) (code : List Char) (count : Nat) :
    (occurrences start code).map (fun o => index? o.digits) = (List.range count).map some ↔
      InOrder (occurrences start code) count := by
  have number {i : Nat} {o : Occurrence} (here : (occurrences start code)[i]? = some o) :
      index? o.digits = some i ↔ Spells o.digits i :=
    index?_eq_some_iff (digits_ne_nil_of_mem_occurrences (List.mem_of_getElem? here))
  constructor
  · intro same
    have length : (occurrences start code).length = count := by
      simpa using congrArg List.length same
    refine ⟨length, fun i o here => (number here).1 ?_⟩
    have inside : i < count := length ▸ (List.getElem?_eq_some_iff.1 here).1
    have entry := congrArg (fun l => l[i]?) same
    simpa [here, inside] using entry
  · rintro ⟨length, each⟩
    apply List.ext_getElem?
    intro i
    cases here : (occurrences start code)[i]? with
    | none =>
      have outside : count ≤ i := length ▸ List.getElem?_eq_none_iff.1 here
      simp [here, outside]
    | some o =>
      have inside : i < count := length ▸ (List.getElem?_eq_some_iff.1 here).1
      simp [here, inside, (number here).2 (each i o here)]

instance (start : Nat) (code : List Char) (count : Nat) :
    Decidable (InOrder (occurrences start code) count) :=
  decidable_of_iff _ (map_index?_occurrences start code count)

/-! ## Replacing -/

/-- The text from a place on, with texts in the places of placeholders. -/
def splice (code : List Char) (place : Nat) : List (Occurrence × List Char) → List Char
  | [] => code.drop place
  | (o, text) :: rest =>
    (code.drop place).take (o.start - place) ++ (text ++ splice code (o.start + o.length) rest)

/-- The pieces of a text are filled as the text is spliced. The part of it before the pieces does not
matter from a place in it on. -/
theorem splice_occurrences (before cs : List Char) {place : Nat} (inside : place ≤ before.length)
    {texts : List (List Char)} (each : texts.length = (occurrences before.length cs).length) :
    splice (before ++ cs) place ((occurrences before.length cs).zip texts) =
      before.drop place ++ (Segments.mk (cut cs).head ((cut cs).tail.map Prod.snd)).fill texts := by
  induction cs using scan_induction generalizing before place texts with
  | nil => simp [occurrences_nil, splice, cut_nil, Segments.fill]
  | found s rest ih =>
    rw [occurrences_text] at each ⊢
    cases texts with
    | nil => simp at each
    | cons text texts =>
      have further : (before ++ s.text).length = before.length + s.text.length :=
        List.length_append
      have others : texts.length = (occurrences (before ++ s.text).length rest).length := by
        simpa [further] using each
      have behind := ih (before ++ s.text) (Nat.le_refl _) others
      rw [further, List.append_assoc] at behind
      have start : (before.drop place ++ (s.text ++ rest)).take (before.length - place) =
          before.drop place := by
        rw [← List.length_drop, List.take_left]
      rw [List.zip_cons_cons, splice, cut_text]
      simp only [Spelling.at, behind, List.drop_append_of_le_length inside, start]
      simp [Pieces.mark, Segments.fill]
  | skip c rest missing ih =>
    rw [occurrences_skip _ missing] at each ⊢
    have further : (before ++ [c]).length = before.length + 1 := List.length_append
    have within : place ≤ (before ++ [c]).length := by omega
    have behind := ih (before ++ [c]) within (by rw [further, each])
    rw [further, List.append_assoc, List.drop_append_of_le_length inside] at behind
    rw [cut_skip missing]
    simpa [Pieces.cons, Segments.fill] using behind

/-! ## Restoring -/

/-- The numbers that are checked are those of the placeholders. -/
theorem map_index?_cut (code : List Char) (count : Nat) :
    (cut code).tail.map (fun piece => index? piece.1) = (List.range count).map some ↔
      InOrder (occurrences 0 code) count := by
  have digits := congrArg (List.map index?) (cut_digits 0 code)
  simp only [List.map_map, Function.comp_def] at digits
  rw [digits, map_index?_occurrences]

theorem restore_of_inOrder {code : List Char} {comments : List Comment}
    (order : InOrder (occurrences 0 code) comments.length) :
    restore code comments =
      .ok (splice code 0 ((occurrences 0 code).zip (comments.map Comment.text))) := by
  have each : (comments.map Comment.text).length = (occurrences 0 code).length := by
    rw [List.length_map, order.1]
  have filled := splice_occurrences [] code (Nat.zero_le 0) each
  rw [restore, if_pos ((map_index?_cut code comments.length).2 order), Pieces.fill_eq]
  exact congrArg _ filled.symm

theorem restore_of_not_inOrder {code : List Char} {comments : List Comment}
    (disorder : ¬ InOrder (occurrences 0 code) comments.length) :
    restore code comments = .error ⟨(occurrences 0 code).length, comments.length⟩ := by
  rw [restore, if_neg (mt (map_index?_cut code comments.length).1 disorder),
    Segments.length_cut 0 code]

/-- The statement that is printed in the place of a comment. -/
def statement (index : Nat) : List Char :=
  "void \"".toList ++ content index ++ "\";".toList

theorem map_statement (count : Nat) : (List.range count).map statement = placeholders 0 count := by
  rw [placeholders, List.range_eq_range']
  exact List.map_congr_left fun index _ => (spelled_text index).symm

/-- Texts without spellings around placeholders add no placeholder. -/
theorem length_occurrences_of_free {start next : Nat} {first : List Char}
    {rest : List (List Char)} (free : ∀ t ∈ first :: rest, ∀ s : Spelling, ¬ s.text <:+: t) :
    (occurrences start (Segments.code next ⟨first, rest⟩)).length = rest.length := by
  induction rest generalizing start next first with
  | nil =>
    have alone : Segments.code next ⟨first, []⟩ = first := by simp [Segments.code, Segments.fill]
    rw [alone, occurrences_eq_nil (free first List.mem_cons_self)]
    rfl
  | cons segment rest ih =>
    rw [List.forall_mem_cons] at free
    rw [Segments.code_cons, occurrences_append, occurrences_eq_nil free.1, List.nil_append,
      List.length_cons, ih free.2, List.length_cons]

/-- Comments are put in the places of their statements, whatever stands around them. -/
theorem restore_statements {s : Segments} {comments : List Comment}
    (free : ∀ t ∈ s.first :: s.rest, ∀ p : Spelling, ¬ p.text <:+: t)
    (each : comments.length = s.rest.length) (bound : comments.length ≤ 2 ^ 64) :
    restore (s.fill ((List.range comments.length).map statement)) comments =
      .ok (s.fill (comments.map Comment.text)) := by
  have code : s.fill ((List.range comments.length).map statement) = s.code 0 := by
    rw [map_statement, each]
    rfl
  have found : (occurrences 0 (s.code 0)).length = comments.length :=
    (length_occurrences_of_free free).trans each.symm
  rw [code, restore_code s each, if_pos ⟨found, bound⟩]

/-- **Comments are put in the places of their placeholders, and nothing else changes.** The
placeholders of a text are all the spellings in it; no two of them share a character. If they are
those of the comments, one for each and numbered in order, each of them is replaced by the text of
its comment and all other characters are kept. Otherwise the text is refused. So the statements of
comments can stand among any texts that have no spellings; their numbers are words of 64 bits. -/
theorem restore_eq_splice (code : List Char) (comments : List Comment) :
    let found := occurrences 0 code
    (∀ o, o ∈ found ↔ ∃ before s after, code = before ++ (Spelling.text s ++ after) ∧
        o = s.at before.length) ∧
      found.Pairwise (fun a b => a.start + a.length ≤ b.start) ∧
      (InOrder found comments.length →
        restore code comments = .ok (splice code 0 (found.zip (comments.map Comment.text)))) ∧
      (¬ InOrder found comments.length →
        restore code comments = .error ⟨found.length, comments.length⟩) ∧
      ∀ s : Segments, (∀ t ∈ s.first :: s.rest, ∀ p : Spelling, ¬ p.text <:+: t) →
        comments.length = s.rest.length → comments.length ≤ 2 ^ 64 →
        restore (s.fill ((List.range comments.length).map statement)) comments =
          .ok (s.fill (comments.map Comment.text)) := by
  refine ⟨fun o => ?_, pairwise_occurrences 0 code, restore_of_inOrder, restore_of_not_inOrder,
    fun s free each bound => restore_statements free each bound⟩
  simpa using @mem_occurrences_iff 0 code o

/-- A text with a placeholder that has other blanks, quotes and digits than the printed one, behind
the beginning of another and before one that lacks an underscore. -/
def variedCode : List Char :=
  "voidvoid\t\x27__estemplate_comment_00__\" ;\nvoid \"__estemplate_comment_1_\";".toList

/-- Lines around two comments. -/
def plainLines : Segments :=
  ⟨"x;\n".toList, ["\ny;\n".toList, "\n".toList]⟩

theorem free_plainLines :
    ∀ t ∈ plainLines.first :: plainLines.rest, ∀ p : Spelling, ¬ p.text <:+: t := by
  intro t member p inside
  obtain ⟨tail, text, _⟩ := p.text_cons
  have letter : 'v' ∈ t := inside.subset (by simp [text])
  have none : ((plainLines.first :: plainLines.rest).all fun t => !t.contains 'v') = true := by
    decide
  simpa [letter] using List.all_eq_true.1 none t member

theorem restore_eq_splice_variedCode :
    let comments : List Comment := [⟨"Line", "a"⟩, ⟨"Block", "b"⟩]
    restore variedCode [⟨"Line", "a"⟩] =
        .ok "void//a\nvoid \"__estemplate_comment_1_\";".toList ∧
      restore variedCode comments = .error ⟨1, 2⟩ ∧
      restore (plainLines.fill [statement 0, statement 1]) comments =
        .ok "x;\n//a\ny;\n/*b*/\n".toList := by
  intro comments
  obtain ⟨-, -, restored, -, -⟩ := restore_eq_splice variedCode [⟨"Line", "a"⟩]
  obtain ⟨-, -, -, refused, statements⟩ := restore_eq_splice variedCode comments
  refine ⟨?_, ?_, ?_⟩
  · rw [restored (by decide +kernel)]
    exact congrArg _ (by decide +kernel)
  · rw [refused (by decide +kernel)]
    exact congrArg _ (by decide +kernel)
  · exact (statements plainLines free_plainLines rfl (by decide)).trans
      (congrArg _ (by decide +kernel))

end ScriptTree.Placeholder
