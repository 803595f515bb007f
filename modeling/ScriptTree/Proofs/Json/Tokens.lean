import ScriptTree.Proofs.Json.ReadBack

/-!
# The texts of a JSON value

A value has many texts, which differ in their blanks and in the escapes of their strings. They all
have the same tokens (`tokens`), with the members of an object in their order and a key as often as
it has a member. The compact and the indented form are texts of their value, if each number in it
is read as it was written: `isTextOf_compact` and `isTextOf_indented`.
-/

namespace ScriptTree.Json
set_option autoImplicit false

/-! ## Tokens -/

mutual

/-- The tokens of a value. -/
def tokens : Json → List Token
  | .array elements => .mark .openArray :: elementTokens elements
  | .object members => .mark .openObject :: memberTokens members
  | .string s => [.string (.ok s) none]
  | v => [.scalar (.ok v) none]

/-- The tokens of elements up to the closing bracket. -/
def elementTokens : List Json → List Token
  | [] => [.mark .closeArray]
  | [v] => tokens v ++ [.mark .closeArray]
  | v :: rest => tokens v ++ .mark .comma :: elementTokens rest

/-- The tokens of members up to the closing brace. -/
def memberTokens : List (String × Json) → List Token
  | [] => [.mark .closeObject]
  | [(key, v)] => .string (.ok key) none :: .mark .colon :: (tokens v ++ [.mark .closeObject])
  | (key, v) :: rest =>
    .string (.ok key) none :: .mark .colon :: (tokens v ++ .mark .comma :: memberTokens rest)

end

/-- The tokens of a text. -/
def textTokens (cs : List Char) : List Token :=
  (scan cs).map Lexeme.token

/-- A text has the tokens of a value and no others. -/
def IsTextOf (v : Json) (cs : List Char) : Prop :=
  textTokens cs = tokens v

/-! ## The compact form -/

/-- Every number in a value is read as it was written. -/
inductive Legible : Json → Prop where
  | scalar {v : Json} (isScalar : v.IsScalar) (reread : v.reread? = some v) : Legible v
  | array {elements : List Json} (each : ∀ v ∈ elements, Legible v) : Legible (.array elements)
  | object {members : List (String × Json)} (each : ∀ m ∈ members, Legible m.2) :
      Legible (.object members)

/-- A natural number of 64 bits is read as it was written. -/
theorem legible_natural {n : Nat} (word : n < Numeral.wordLimit) : Legible (.integer n) := by
  have text := Numeral.text_ofInteger n
  refine .scalar trivial ?_
  rw [reread?, ← text, readNumber_text (Numeral.wellFormed_ofInteger n),
    Numeral.value_ofInteger word]
  rfl

theorem textTokens_lexeme {cs rest : List Char} {l : Lexeme} (scanned : scan cs = l :: scan rest) :
    textTokens cs = l.token :: textTokens rest := by
  rw [textTokens, scanned, List.map_cons, textTokens]

theorem textTokens_mark {c : Char} {m : Mark} {rest : List Char} (noSpace : isSpace c = false)
    (lexeme : Lexeme.ofChar c rest = ⟨.mark m, c :: rest, some rest⟩) :
    textTokens (c :: rest) = .mark m :: textTokens rest :=
  textTokens_lexeme (scan_mark noSpace lexeme)

theorem textTokens_string (text : String) (rest : List Char) :
    textTokens (stringText text ++ rest) = .string (.ok text) none :: textTokens rest :=
  textTokens_lexeme (scan_string text rest)

theorem textTokens_numeral {n : Numeral} (h : n.WellFormed) {v : Json} {rest : List Char}
    (stop : EndsNumber rest) (value : (readNumber n.text).toOption = some v) :
    textTokens (n.text ++ rest) = .scalar (.ok v) none :: textTokens rest := by
  rw [readNumber_text h, n.value_toOption [] rest] at value
  cases read : n.value rest with
  | error f => simp [read, Except.toOption] at value
  | ok w =>
    obtain rfl : w = v := by simpa [read, Except.toOption] using value
    rw [textTokens_lexeme (scan_numeral h stop), read]

theorem textTokens_scalar {v : Json} (scalar : v.IsScalar) (reread : v.reread? = some v)
    {rest : List Char} (stop : EndsNumber rest) :
    textTokens (scalarText v ++ rest) = tokens v ++ textTokens rest := by
  match v, scalar with
  | .null, _ => exact textTokens_lexeme (scan_eq (first?_char rfl _) rfl)
  | .bool true, _ => exact textTokens_lexeme (scan_eq (first?_char rfl _) rfl)
  | .bool false, _ => exact textTokens_lexeme (scan_eq (first?_char rfl _) rfl)
  | .integer k, _ =>
    simp only [scalarText, reread?, ← Numeral.text_ofInteger] at reread ⊢
    exact textTokens_numeral (Numeral.wellFormed_ofInteger k) stop reread
  | .real (.finite negative m), _ =>
    obtain ⟨n, wellFormed, -, text⟩ := isRealText_realText negative m
    simp only [scalarText, reread?, ← text] at reread ⊢
    exact textTokens_numeral wellFormed stop reread
  | .string text, _ => exact textTokens_string text rest

theorem endsNumber_closeArray (rest : List Char) : EndsNumber (']' :: rest) :=
  endsNumber_cons.2 rfl

theorem endsNumber_closeObject (rest : List Char) : EndsNumber ('\x7d' :: rest) :=
  endsNumber_cons.2 rfl

theorem textTokens_key (key : String) (rest : List Char) :
    textTokens (stringText key ++ ':' :: rest) =
      .string (.ok key) none :: .mark .colon :: textTokens rest := by
  rw [textTokens_string, textTokens_mark rfl rfl]

mutual

/-- The compact form of a value at the front of a text. -/
theorem textTokens_compact (v : Json) (legible : Legible v) {rest : List Char}
    (stop : EndsNumber rest) : textTokens (compact v ++ rest) = tokens v ++ textTokens rest := by
  match v with
  | .null | .bool _ | .integer _ | .real _ | .string _ =>
    cases legible with
    | scalar isScalar reread => exact textTokens_scalar isScalar reread stop
  | .array elements =>
    cases legible with
    | scalar isScalar _ => exact isScalar.elim
    | array each =>
      simp only [compact, tokens, List.cons_append]
      rw [textTokens_mark rfl rfl, textTokens_compactElements elements each]
  | .object members =>
    cases legible with
    | scalar isScalar _ => exact isScalar.elim
    | object each =>
      simp only [compact, tokens, List.cons_append]
      rw [textTokens_mark rfl rfl, textTokens_compactMembers members each]

theorem textTokens_compactElements (elements : List Json) (each : ∀ v ∈ elements, Legible v)
    {rest : List Char} :
    textTokens (compactElements elements ++ rest) = elementTokens elements ++ textTokens rest := by
  match elements with
  | [] => exact textTokens_mark rfl rfl
  | [v] =>
    simp only [compactElements, elementTokens, List.append_assoc, List.cons_append, List.nil_append]
    rw [textTokens_compact v (each v (by simp)) (endsNumber_closeArray rest),
      textTokens_mark rfl rfl]
  | v :: w :: more =>
    simp only [compactElements, elementTokens, List.append_assoc, List.cons_append]
    rw [textTokens_compact v (each v (by simp)) (endsNumber_comma _), textTokens_mark rfl rfl,
      textTokens_compactElements (w :: more) fun u member => each u (List.mem_cons_of_mem _ member)]

theorem textTokens_compactMembers (members : List (String × Json))
    (each : ∀ m ∈ members, Legible m.2) {rest : List Char} :
    textTokens (compactMembers members ++ rest) = memberTokens members ++ textTokens rest := by
  match members with
  | [] => exact textTokens_mark rfl rfl
  | [(key, v)] =>
    simp only [compactMembers, memberTokens, List.append_assoc, List.cons_append, List.nil_append]
    rw [textTokens_key,
      textTokens_compact v (each (key, v) (by simp)) (endsNumber_closeObject rest),
      textTokens_mark rfl rfl]
  | (key, v) :: m :: more =>
    simp only [compactMembers, memberTokens, List.append_assoc, List.cons_append]
    rw [textTokens_key, textTokens_compact v (each (key, v) (by simp)) (endsNumber_comma _),
      textTokens_mark rfl rfl,
      textTokens_compactMembers (m :: more) fun u member => each u (List.mem_cons_of_mem _ member)]

end

/-- **The compact form of a value is a text of it.** -/
theorem isTextOf_compact {v : Json} (legible : Legible v) : IsTextOf v (compact v) := by
  have none : textTokens [] = [] := by rw [textTokens, scan_none rfl, List.map_nil]
  rw [IsTextOf, ← List.append_nil (compact v), textTokens_compact v legible endsNumber_nil, none,
    List.append_nil]

/-! ## The indented form -/

theorem textTokens_newline (level : Nat) (rest : List Char) :
    textTokens (newline level ++ rest) = textTokens rest := by
  rw [textTokens, scan_newline, textTokens]

theorem textTokens_spacedKey (key : String) (rest : List Char) :
    textTokens (stringText key ++ ':' :: ' ' :: rest) =
      .string (.ok key) none :: .mark .colon :: textTokens rest := by
  have space : textTokens (' ' :: rest) = textTokens rest := by
    rw [textTokens, scan_space rfl, textTokens]
  rw [textTokens_key, space]

mutual

/-- The indented form of a value at the front of a text. -/
theorem textTokens_indented (level : Nat) (v : Json) (legible : Legible v) {rest : List Char}
    (stop : EndsNumber rest) :
    textTokens (indented level v ++ rest) = tokens v ++ textTokens rest := by
  match v with
  | .null | .bool _ | .integer _ | .real _ | .string _ =>
    cases legible with
    | scalar isScalar reread => exact textTokens_scalar isScalar reread stop
  | .array [] | .object [] =>
    simp only [indented, tokens, elementTokens, memberTokens, List.cons_append, List.nil_append]
    rw [textTokens_mark rfl rfl, textTokens_mark rfl rfl]
  | .array (v :: more) =>
    cases legible with
    | scalar isScalar _ => exact isScalar.elim
    | array each =>
      simp only [indented, tokens, List.cons_append]
      rw [textTokens_mark rfl rfl,
        textTokens_indentedElements level (v :: more) (List.cons_ne_nil v more) each]
  | .object (m :: more) =>
    cases legible with
    | scalar isScalar _ => exact isScalar.elim
    | object each =>
      simp only [indented, tokens, List.cons_append]
      rw [textTokens_mark rfl rfl,
        textTokens_indentedMembers level (m :: more) (List.cons_ne_nil m more) each]

theorem textTokens_indentedElements (level : Nat) (elements : List Json)
    (nonempty : elements ≠ []) (each : ∀ v ∈ elements, Legible v) {rest : List Char} :
    textTokens (indentedElements level elements ++ rest) =
      elementTokens elements ++ textTokens rest := by
  match elements with
  | [] => exact absurd rfl nonempty
  | [v] =>
    simp only [indentedElements, elementTokens, List.append_assoc, List.cons_append,
      List.nil_append]
    rw [textTokens_newline,
      textTokens_indented (level + 1) v (each v (by simp)) (endsNumber_newline level _),
      textTokens_newline, textTokens_mark rfl rfl]
  | v :: w :: more =>
    simp only [indentedElements, elementTokens, List.append_assoc, List.cons_append]
    rw [textTokens_newline,
      textTokens_indented (level + 1) v (each v (by simp)) (endsNumber_comma _),
      textTokens_mark rfl rfl,
      textTokens_indentedElements level (w :: more) (List.cons_ne_nil w more)
        fun u member => each u (List.mem_cons_of_mem _ member)]

theorem textTokens_indentedMembers (level : Nat) (members : List (String × Json))
    (nonempty : members ≠ []) (each : ∀ m ∈ members, Legible m.2) {rest : List Char} :
    textTokens (indentedMembers level members ++ rest) =
      memberTokens members ++ textTokens rest := by
  match members with
  | [] => exact absurd rfl nonempty
  | [(key, v)] =>
    simp only [indentedMembers, memberTokens, List.append_assoc, List.cons_append,
      List.nil_append]
    rw [textTokens_newline, textTokens_spacedKey,
      textTokens_indented (level + 1) v (each (key, v) (by simp)) (endsNumber_newline level _),
      textTokens_newline, textTokens_mark rfl rfl]
  | (key, v) :: m :: more =>
    simp only [indentedMembers, memberTokens, List.append_assoc, List.cons_append]
    rw [textTokens_newline, textTokens_spacedKey,
      textTokens_indented (level + 1) v (each (key, v) (by simp)) (endsNumber_comma _),
      textTokens_mark rfl rfl,
      textTokens_indentedMembers level (m :: more) (List.cons_ne_nil m more)
        fun u member => each u (List.mem_cons_of_mem _ member)]

end

/-- A number ends where only blanks follow. -/
theorem endsNumber_of_scan {rest : List Char} (blank : scan rest = []) : EndsNumber rest := by
  cases rest with
  | nil => exact endsNumber_nil
  | cons c rest =>
    rw [endsNumber_cons]
    cases space : isSpace c with
    | true =>
      simp only [isSpace, Bool.or_eq_true, decide_eq_true_eq] at space
      rcases space with ((rfl | rfl) | rfl) | rfl <;> rfl
    | false =>
      have first := first?_char space rest
      cases stop : (Lexeme.ofChar c rest).stop with
      | none => simp [scan_last first stop] at blank
      | some left => simp [scan_eq first stop] at blank

/-- **The indented form of a value is a text of it**, also with blanks behind it. -/
theorem isTextOf_indented {v : Json} (legible : Legible v) {rest : List Char}
    (blank : scan rest = []) : IsTextOf v (indented 0 v ++ rest) := by
  have none : textTokens rest = [] := by rw [textTokens, blank, List.map_nil]
  rw [IsTextOf, textTokens_indented 0 v legible (endsNumber_of_scan blank), none, List.append_nil]

end ScriptTree.Json
