import ScriptTree.Proofs.Json.ReadBack

/-!
# How deep a text is nested

`textDepth` counts the containers that are open at once at the deepest place of a text, whatever
its lexemes are worth. A value is written with as many containers inside of each other as it has
(`textDepth_indented`). The reader keeps track of the same number: what holds of the values of the
lexemes and is passed on from parts to containers, by the number of containers around them, holds
of the value that is read (`read_holds`). So no value is deeper than its text, and the reader
accepts no text that is deeper than `depthLimit`.
-/

namespace ScriptTree.Json
set_option autoImplicit false

/-! ## Open containers -/

/-- How many containers are open behind a lexeme that has so many open before it. -/
def Lexeme.levelAfter (level : Nat) (l : Lexeme) : Nat :=
  match l.token with
  | .mark .openArray | .mark .openObject => level + 1
  | .mark .closeArray | .mark .closeObject => level - 1
  | _ => level

/-- The most containers that are open at once among lexemes that have so many open before them. -/
def nesting (level : Nat) : List Lexeme → Nat
  | [] => level
  | l :: rest => max level (nesting (l.levelAfter level) rest)

/-- The most containers that are open at once in a text. -/
def textDepth (cs : List Char) : Nat :=
  nesting 0 (scan cs)

theorem le_nesting (level : Nat) (ls : List Lexeme) : level ≤ nesting level ls := by
  cases ls with
  | nil => exact Nat.le_refl level
  | cons l rest => exact Nat.le_max_left _ _

/-! ## Written values -/

theorem nesting_mark {c : Char} {m : Mark} {rest : List Char} (level : Nat)
    (noSpace : isSpace c = false)
    (lexeme : Lexeme.ofChar c rest = ⟨.mark m, c :: rest, some rest⟩) :
    nesting level (scan (c :: rest)) =
      max level
        (nesting (Lexeme.levelAfter level ⟨.mark m, c :: rest, some rest⟩) (scan rest)) := by
  rw [scan_mark noSpace lexeme, nesting]

theorem nesting_comma (level : Nat) (rest : List Char) :
    nesting level (scan (',' :: rest)) = nesting level (scan rest) := by
  rw [nesting_mark level rfl rfl]
  exact Nat.max_eq_right (le_nesting level _)

theorem nesting_string (level : Nat) (text : String) (rest : List Char) :
    nesting level (scan (stringText text ++ rest)) = nesting level (scan rest) := by
  rw [scan_string, nesting]
  exact Nat.max_eq_right (le_nesting level _)

theorem nesting_key (level : Nat) (key : String) (rest : List Char) :
    nesting level (scan (stringText key ++ ':' :: ' ' :: rest)) = nesting level (scan rest) := by
  rw [nesting_string, nesting_mark level rfl rfl, scan_space rfl]
  exact Nat.max_eq_right (le_nesting level _)

/-- The text of a value without parts is one lexeme, and no mark. -/
theorem nesting_scalar {v : Json} (scalar : v.IsScalar) (level : Nat) {rest : List Char}
    (stop : EndsNumber rest) :
    nesting level (scan (scalarText v ++ rest)) = nesting level (scan rest) := by
  have single : ∀ {cs : List Char} {value : Except Fault Json} {skipped : Option Fault},
      scan cs = ⟨.scalar value skipped, cs, some rest⟩ :: scan rest →
        nesting level (scan cs) = nesting level (scan rest) := by
    intro cs value skipped scanned
    rw [scanned, nesting]
    exact Nat.max_eq_right (le_nesting level _)
  have null : nesting level (scan (['n', 'u', 'l', 'l'] ++ rest)) = nesting level (scan rest) :=
    single (scan_eq (first?_char rfl _) rfl)
  match v, scalar with
  | .null, _ => exact null
  | .bool true, _ => exact single (scan_eq (first?_char rfl _) rfl)
  | .bool false, _ => exact single (scan_eq (first?_char rfl _) rfl)
  | .integer k, _ =>
    simp only [scalarText, ← Numeral.text_ofInteger]
    exact single (scan_numeral (Numeral.wellFormed_ofInteger k) stop)
  | .real (.finite negative m), _ =>
    obtain ⟨n, wellFormed, -, text⟩ := isRealText_realText negative m
    simp only [scalarText, ← text]
    exact single (scan_numeral wellFormed stop)
  | .real .nan, _ => exact null
  | .real (.infinity _), _ => exact null
  | .string text, _ => exact nesting_string level text rest

mutual

/-- Through the text of a value as many more containers are open as are nested in it. -/
theorem nesting_indented (indent level : Nat) (v : Json) {rest : List Char}
    (stop : EndsNumber rest) :
    nesting level (scan (indented indent v ++ rest)) =
      max (level + v.depth) (nesting level (scan rest)) := by
  match v with
  | .null | .bool _ | .integer _ | .real _ | .string _ =>
    refine Eq.trans ?_ (Nat.max_eq_right (le_nesting level _)).symm
    simp only [indented]
    exact nesting_scalar (by exact trivial) level stop
  | .array [] =>
    simp only [indented, List.cons_append, List.nil_append, depth, depthAll]
    rw [nesting_mark level rfl rfl, nesting_mark _ rfl rfl]
    simp only [Lexeme.levelAfter, Nat.add_sub_cancel]
    omega
  | .array (e :: es) =>
    simp only [indented, List.cons_append, depth]
    rw [nesting_mark level rfl rfl]
    simp only [Lexeme.levelAfter]
    rw [nesting_elements indent level (e :: es) (List.cons_ne_nil e es)]
    omega
  | .object [] =>
    simp only [indented, List.cons_append, List.nil_append, depth, depthMembers]
    rw [nesting_mark level rfl rfl, nesting_mark _ rfl rfl]
    simp only [Lexeme.levelAfter, Nat.add_sub_cancel]
    omega
  | .object (m :: ms) =>
    simp only [indented, List.cons_append, depth]
    rw [nesting_mark level rfl rfl]
    simp only [Lexeme.levelAfter]
    rw [nesting_members indent level (m :: ms) (List.cons_ne_nil m ms)]
    omega

/-- The same for the elements of a list and its closing bracket. -/
theorem nesting_elements (indent level : Nat) (elements : List Json) (some : elements ≠ [])
    {rest : List Char} :
    nesting (level + 1) (scan (indentedElements indent elements ++ rest)) =
      max (level + 1 + depthAll elements) (nesting level (scan rest)) := by
  match elements with
  | [] => exact absurd rfl some
  | [v] =>
    simp only [indentedElements, List.append_assoc, List.cons_append, List.nil_append]
    rw [scan_newline, nesting_indented (indent + 1) (level + 1) v (endsNumber_newline indent _),
      scan_newline, nesting_mark _ rfl rfl]
    simp only [Lexeme.levelAfter, Nat.add_sub_cancel, depthAll]
    omega
  | v :: w :: more =>
    have deepest : depthAll (v :: w :: more) = max v.depth (depthAll (w :: more)) := rfl
    simp only [indentedElements, List.append_assoc, List.cons_append]
    rw [scan_newline, nesting_indented (indent + 1) (level + 1) v (endsNumber_comma _),
      nesting_comma, nesting_elements indent level (w :: more) (List.cons_ne_nil w more), deepest]
    omega

/-- The same for the members of an object and its closing brace. -/
theorem nesting_members (indent level : Nat) (members : List (String × Json))
    (some : members ≠ []) {rest : List Char} :
    nesting (level + 1) (scan (indentedMembers indent members ++ rest)) =
      max (level + 1 + depthMembers members) (nesting level (scan rest)) := by
  match members with
  | [] => exact absurd rfl some
  | [(key, v)] =>
    simp only [indentedMembers, List.append_assoc, List.cons_append, List.nil_append]
    rw [scan_newline, nesting_key,
      nesting_indented (indent + 1) (level + 1) v (endsNumber_newline indent _), scan_newline,
      nesting_mark _ rfl rfl]
    simp only [Lexeme.levelAfter, Nat.add_sub_cancel, depthMembers]
    omega
  | (key, v) :: m :: more =>
    have deepest : depthMembers ((key, v) :: m :: more) =
        max v.depth (depthMembers (m :: more)) := rfl
    simp only [indentedMembers, List.append_assoc, List.cons_append]
    rw [scan_newline, nesting_key,
      nesting_indented (indent + 1) (level + 1) v (endsNumber_comma _), nesting_comma,
      nesting_members indent level (m :: more) (List.cons_ne_nil m more), deepest]
    omega

end

/-- **A written text is as deep as its value.** -/
theorem textDepth_indented (v : Json) : textDepth (indented 0 v) = v.depth := by
  have none : scan [] = [] := scan_none rfl
  have whole := nesting_indented 0 0 v endsNumber_nil
  rw [List.append_nil, none] at whole
  simpa [textDepth, nesting] using whole

/-! ## What a step does -/

/-- The values that stand directly in a container. -/
def parts : Json → List Json
  | .array elements => elements
  | .object members => members.map Prod.snd
  | _ => []

/-- The values that were read of a container. -/
def Frame.parts : Frame → List Json
  | .element elements => elements
  | .member members _ => members.map Prod.snd

/-- The values that were read of each open container, from the inside out. -/
def State.parts : State → List (List Json)
  | .value outer => outer.map Frame.parts
  | .firstElement outer | .firstKey outer => [] :: outer.map Frame.parts
  | .nextElement elements outer | .afterElement elements outer =>
    elements :: outer.map Frame.parts
  | .nextKey members outer | .colon members _ outer | .afterMember members outer =>
    members.map Prod.snd :: outer.map Frame.parts
  | .done _ _ => []

/-- The value is complete. -/
def State.isDone : State → Bool
  | .done _ _ => true
  | _ => false

theorem State.eq_done_of_isDone {s : State} (complete : s.isDone = true) :
    ∃ v trailing, s = .done v trailing := by
  cases s with
  | done v trailing => exact ⟨v, trailing, rfl⟩
  | _ => cases complete

/-- The value of a lexeme. -/
def Lexeme.value? (l : Lexeme) : Option Json :=
  match l.token with
  | .scalar (.ok v) _ => some v
  | .string (.ok s) _ => some (.string s)
  | _ => none

/-- The four sorts of steps before the value is complete. -/
inductive Step (l : Lexeme) (s : State) : State → Prop where
  | read {v : Json} {outer : List Frame} (inside : s.parts = outer.map Frame.parts)
      (value : l.value? = some v) (level : ∀ k, l.levelAfter k = k) : Step l s (.resume v outer)
  | opened {next : State} (inside : next.parts = [] :: s.parts) (running : next.isDone = false)
      (room : s.parts.length < depthLimit) (level : ∀ k, l.levelAfter k = k + 1) : Step l s next
  | closed {v : Json} {outer : List Frame} {read : List Json}
      (inside : s.parts = read :: outer.map Frame.parts) (container : ¬ v.IsScalar)
      (same : ∀ w ∈ v.parts, w ∈ read) (level : ∀ k, l.levelAfter k = k - 1) :
      Step l s (.resume v outer)
  | stayed {next : State} (inside : next.parts = s.parts) (running : next.isDone = false)
      (level : ∀ k, l.levelAfter k = k) : Step l s next

section Step

variable {l : Lexeme} {s next : State}

theorem Lexeme.levelAfter_of_token {token : Token} (same : l.token = token) (level : Nat) :
    l.levelAfter level = Lexeme.levelAfter level ⟨token, [], none⟩ := by
  unfold Lexeme.levelAfter
  rw [same]

/-- A lexeme where a value is expected gives a value or opens a container. -/
theorem step_of_stepValue {outer : List Frame} (inside : s.parts = outer.map Frame.parts)
    (stepped : stepValue outer l = .ok next) : Step l s next := by
  have open_room (room : outer.length < depthLimit) : s.parts.length < depthLimit := by
    rw [inside, List.length_map]
    exact room
  unfold stepValue at stepped
  split at stepped
  · rename_i value skipped same
    obtain ⟨v, rfl, last⟩ := bind_eq_ok.1 stepped
    cases last
    exact .read inside (by simp [Lexeme.value?, same]) (Lexeme.levelAfter_of_token same)
  · rename_i value skipped same
    obtain ⟨text, rfl, last⟩ := bind_eq_ok.1 stepped
    cases last
    exact .read inside (by simp [Lexeme.value?, same]) (Lexeme.levelAfter_of_token same)
  · rename_i same
    split at stepped
    · rename_i room
      cases stepped
      exact .opened (congrArg _ inside.symm) rfl (open_room room)
        (Lexeme.levelAfter_of_token same)
    · cases stepped
  · rename_i same
    split at stepped
    · rename_i room
      cases stepped
      exact .opened (congrArg _ inside.symm) rfl (open_room room)
        (Lexeme.levelAfter_of_token same)
    · cases stepped
  · cases stepped

theorem step_of_stepKey {members : List (String × Json)} {outer : List Frame}
    (inside : s.parts = members.map Prod.snd :: outer.map Frame.parts)
    (stepped : stepKey members outer l = .ok next) : Step l s next := by
  unfold stepKey at stepped
  split at stepped
  · rename_i key skipped same
    obtain ⟨text, rfl, last⟩ := bind_eq_ok.1 stepped
    cases last
    exact .stayed inside.symm rfl (Lexeme.levelAfter_of_token same)
  · cases stepped

/-- **What a step does** before the value is complete. -/
theorem step_sort (running : s.isDone = false) (stepped : step s l = .ok next) : Step l s next := by
  unfold step at stepped
  split at stepped
  -- in the order of the states: a value, the first and a further element, the end of an element
  · exact step_of_stepValue rfl stepped
  · rename_i same
    cases stepped
    exact .closed rfl id (by simp [parts]) (Lexeme.levelAfter_of_token same)
  · exact step_of_stepValue rfl stepped
  · cases stepped
  · exact step_of_stepValue rfl stepped
  · rename_i same
    cases stepped
    exact .stayed rfl rfl (Lexeme.levelAfter_of_token same)
  · rename_i same
    cases stepped
    exact .closed rfl id (fun w => List.mem_reverse.1) (Lexeme.levelAfter_of_token same)
  · cases stepped
  -- the first and a further key, a colon, the end of a member
  · rename_i same
    cases stepped
    exact .closed rfl id (by simp [parts]) (Lexeme.levelAfter_of_token same)
  · exact step_of_stepKey rfl stepped
  · cases stepped
  · exact step_of_stepKey rfl stepped
  · rename_i same
    cases stepped
    exact .stayed rfl rfl (Lexeme.levelAfter_of_token same)
  · cases stepped
  · rename_i same
    cases stepped
    exact .stayed rfl rfl (Lexeme.levelAfter_of_token same)
  · rename_i same
    cases stepped
    exact .closed rfl id (fun w => id) (Lexeme.levelAfter_of_token same)
  · cases stepped
  · cases running
  · cases running

/-! ## What steps keep -/

/-- A property of values, by the number of containers around them. -/
abbrev Placed : Type := Nat → Json → Prop

/-- The property holds of the values that were read of the open containers. -/
def PartsHold (P : Placed) : List (List Json) → Prop
  | [] => True
  | read :: outer => (∀ v ∈ read, P (outer.length + 1) v) ∧ PartsHold P outer

/-- The property holds of the values that were read. -/
def State.Holds (P : Placed) (s : State) : Prop :=
  PartsHold P s.parts ∧ ∀ v trailing, s = .done v trailing → P 0 v

/-- The property is passed on from parts to a container with fewer than `limit` around it. -/
def PassedOn (P : Placed) (limit : Nat) : Prop :=
  ∀ level < limit, ∀ v : Json, ¬ v.IsScalar → (∀ w ∈ v.parts, P (level + 1) w) → P level v

variable {P : Placed} {limit : Nat}

theorem State.holds_of_running (running : s.isDone = false) (parts : PartsHold P s.parts) :
    s.Holds P := by
  refine ⟨parts, ?_⟩
  rintro v trailing rfl
  cases running

theorem length_parts_resume (v : Json) (outer : List Frame) :
    (State.resume v outer).parts.length = outer.length := by
  match outer with
  | [] => rfl
  | .element _ :: _ => simp [State.resume, State.parts]
  | .member _ _ :: _ => simp [State.resume, State.parts]

theorem holds_resume {v : Json} {outer : List Frame}
    (parts : PartsHold P (outer.map Frame.parts)) (value : P outer.length v) :
    (State.resume v outer).Holds P := by
  match outer with
  | [] =>
    refine ⟨trivial, ?_⟩
    rintro w trailing ⟨rfl, rfl⟩
    exact value
  | .element elements :: outer =>
    obtain ⟨read, frames⟩ := parts
    rw [List.length_cons, ← List.length_map (f := Frame.parts)] at value
    exact State.holds_of_running rfl ⟨List.forall_mem_cons.2 ⟨value, read⟩, frames⟩
  | .member members key :: outer =>
    obtain ⟨read, frames⟩ := parts
    rw [List.length_cons, ← List.length_map (f := Frame.parts)] at value
    refine State.holds_of_running rfl ⟨?_, frames⟩
    intro w member
    obtain ⟨m, inserted, rfl⟩ := List.mem_map.1 member
    rcases mem_insertEntry inserted with rfl | before
    · exact value
    · exact read m.2 (List.mem_map_of_mem before)

/-- A step counts the open containers. -/
theorem Step.level_eq (h : Step l s next) : next.parts.length = l.levelAfter s.parts.length := by
  cases h with
  | read inside value level => rw [length_parts_resume, level, inside, List.length_map]
  | opened inside running room level => rw [inside, level, List.length_cons]
  | closed inside container same level =>
    rw [length_parts_resume, level, inside, List.length_cons, List.length_map]
    rfl
  | stayed inside running level => rw [inside, level]

theorem Step.level_le (h : Step l s next) (below : s.parts.length ≤ depthLimit) :
    next.parts.length ≤ depthLimit := by
  rw [h.level_eq]
  cases h with
  | read inside value level => rwa [level]
  | opened inside running room level =>
    rw [level]
    exact room
  | closed inside container same level =>
    rw [level]
    omega
  | stayed inside running level => rwa [level]

/-- A step keeps a property that is passed on. -/
theorem Step.holds (h : Step l s next) (passed : PassedOn P limit)
    (room : s.parts.length ≤ limit) (given : ∀ v, l.value? = some v → P s.parts.length v)
    (before : s.Holds P) : next.Holds P := by
  obtain ⟨parts, -⟩ := before
  cases h with
  | read inside value level =>
    have value := given _ value
    rw [inside] at parts value
    rw [List.length_map] at value
    exact holds_resume parts value
  | opened inside running room level =>
    refine State.holds_of_running running ?_
    rw [inside]
    exact ⟨List.forall_mem_nil _, parts⟩
  | closed inside container same level =>
    rw [inside] at parts room
    obtain ⟨read, frames⟩ := parts
    rw [List.length_cons, List.length_map] at room
    rw [List.length_map] at read
    exact holds_resume frames (passed _ room _ container fun w part => read w (same w part))
  | stayed inside running level =>
    refine State.holds_of_running running ?_
    rwa [inside]

end Step

/-! ## What a run keeps -/

variable {ls : List Lexeme} {s final : State} {v : Json} {trailing : Option Fault}

/-- Once the value is complete it stays, and all that follows is too much. -/
theorem run_done (ran : ls.foldlM step (.done v trailing) = .ok final) :
    ∃ rest, final = .done v rest ∧ (rest = none → ls = [] ∧ trailing = none) := by
  induction ls generalizing trailing with
  | nil =>
    cases ran
    exact ⟨trailing, rfl, fun none => ⟨rfl, none⟩⟩
  | cons l ls ih =>
    obtain ⟨f, stepped⟩ : ∃ f, step (.done v trailing) l = .ok (.done v (some f)) := by
      cases trailing with
      | none => exact ⟨_, rfl⟩
      | some f => exact ⟨f, rfl⟩
    rw [List.foldlM_cons, stepped] at ran
    obtain ⟨rest, rfl, complete⟩ := ih ran
    refine ⟨rest, rfl, fun none => ?_⟩
    exact absurd (complete none).2 (Option.some_ne_none f)

/-- **A run keeps a property that is passed on**, if it holds of the values of the lexemes wherever
they stand. -/
theorem run_holds {P : Placed} {limit : Nat} (passed : PassedOn P limit)
    (given : ∀ l ∈ ls, ∀ w, l.value? = some w → ∀ level ≤ limit, P level w)
    (room : nesting s.parts.length ls ≤ limit) (before : s.Holds P)
    (ran : ls.foldlM step s = .ok (.done v trailing)) : P 0 v := by
  induction ls generalizing s with
  | nil =>
    cases ran
    exact before.2 v trailing rfl
  | cons l ls ih =>
    have here : s.parts.length ≤ limit := Nat.le_trans (le_nesting _ _) room
    cases running : s.isDone with
    | true =>
      obtain ⟨w, earlier, rfl⟩ := State.eq_done_of_isDone running
      obtain ⟨rest, same, -⟩ := run_done ran
      cases same
      exact before.2 v earlier rfl
    | false =>
      rw [List.foldlM_cons] at ran
      obtain ⟨next, stepped, ran⟩ := bind_eq_ok.1 ran
      have sort := step_sort running stepped
      refine ih (fun l member => given l (List.mem_cons_of_mem _ member)) ?_ ?_ ran
      · rw [sort.level_eq]
        exact Nat.le_trans (Nat.le_max_right _ _) room
      · exact sort.holds passed here
          (fun w value => given l List.mem_cons_self w value _ here) before

/-- A run that reads a value and nothing behind it never opens too many containers. -/
theorem run_nesting_le (below : s.parts.length ≤ depthLimit)
    (ran : ls.foldlM step s = .ok (.done v none)) :
    nesting s.parts.length ls ≤ depthLimit := by
  induction ls generalizing s with
  | nil => exact below
  | cons l ls ih =>
    cases running : s.isDone with
    | true =>
      obtain ⟨w, earlier, rfl⟩ := State.eq_done_of_isDone running
      obtain ⟨rest, same, complete⟩ := run_done ran
      cases same
      exact absurd (complete rfl).1 (List.cons_ne_nil l ls)
    | false =>
      rw [List.foldlM_cons] at ran
      obtain ⟨next, stepped, ran⟩ := bind_eq_ok.1 ran
      have sort := step_sort running stepped
      refine Nat.max_le.2 ⟨below, ?_⟩
      rw [← sort.level_eq]
      exact ih (sort.level_le below) ran

/-! ## Values that are read -/

theorem read_eq_ok {cs : List Char} :
    read cs = .ok (v, trailing) ↔ (scan cs).foldlM step (.value []) = .ok (.done v trailing) := by
  constructor
  · intro h
    obtain ⟨final, ran, ends⟩ := bind_eq_ok.1 h
    cases final with
    | done w rest =>
      cases ends
      exact ran
    | _ => cases ends
  · intro ran
    exact bind_eq_ok.2 ⟨_, ran, rfl⟩

/-- A property that is passed on holds of a value that is read, if it holds of the values of the
lexemes. -/
theorem read_holds {P : Placed} {cs : List Char} (passed : PassedOn P (textDepth cs))
    (given : ∀ l ∈ scan cs, ∀ w, l.value? = some w → ∀ level ≤ textDepth cs, P level w)
    (h : read cs = .ok (v, trailing)) : P 0 v := by
  have start : (State.value []).Holds P := State.holds_of_running rfl (by exact trivial)
  exact run_holds passed given (Nat.le_refl _) start (read_eq_ok.1 h)

/-- The reader accepts no text that is nested too deep. -/
theorem textDepth_le {cs : List Char} (h : read cs = .ok (v, none)) :
    textDepth cs ≤ depthLimit :=
  run_nesting_le (Nat.zero_le _) (read_eq_ok.1 h)

end ScriptTree.Json
