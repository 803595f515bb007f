import ScriptTree.Json.Reader
import ScriptTree.Proofs.Except
import ScriptTree.Proofs.Json.Lexemes

/-!
# A written JSON value is read back

`reread?` gives the value that the reader finds in the text of a value: the members of an object
are in order, a number is the one that is read from its text, and a number that is not finite is
null. The reader gets to that value if no number is refused and if containers are nested no deeper
than `depthLimit`; otherwise it stops with a fault: `read_indented`.
-/

namespace ScriptTree.Json
set_option autoImplicit false
open Number

/-! ## Nesting and reading back -/

mutual

/-- How many containers are nested in a value, the value itself included. -/
def depth : Json → Nat
  | .array elements => depthAll elements + 1
  | .object members => depthMembers members + 1
  | _ => 0

/-- The depth of the deepest element. -/
def depthAll : List Json → Nat
  | [] => 0
  | v :: rest => max v.depth (depthAll rest)

/-- The depth of the deepest member. -/
def depthMembers : List (String × Json) → Nat
  | [] => 0
  | (_, v) :: rest => max v.depth (depthMembers rest)

end

mutual

/-- The value that the text of a value is read as, unless a number in it is refused. -/
def reread? : Json → Option Json
  | .null => some .null
  | .bool b => some (.bool b)
  | .integer n => (readNumber (integerText n)).toOption
  | .real (.finite negative m) => (readNumber (realText (.finite negative m))).toOption
  | .real _ => some .null
  | .string s => some (.string s)
  | .array elements => (rereadAll? elements).map .array
  | .object members => (rereadMembers? [] members).map .object

/-- The elements that the texts of elements are read as. -/
def rereadAll? : List Json → Option (List Json)
  | [] => some []
  | v :: rest => (reread? v).bind fun w => (rereadAll? rest).map (w :: ·)

/-- The members that the texts of members are read as, put into the members before them. -/
def rereadMembers? (before : List (String × Json)) :
    List (String × Json) → Option (List (String × Json))
  | [] => some before
  | (key, v) :: rest => (reread? v).bind fun w => rereadMembers? (insertEntry key w before) rest

end

/-! ## Runs of the reader -/

/-- What the reader makes of a text from a state on, unless it stops with a fault. -/
def outcome? (s : State) (cs : List Char) : Option (Json × Option Fault) :=
  ((scan cs).foldlM step s >>= State.ending).toOption

theorem outcome?_lexeme {s : State} {cs rest : List Char} {l : Lexeme}
    (scanned : scan cs = l :: scan rest) :
    outcome? s cs = (step s l).toOption.bind fun next => outcome? next rest := by
  unfold outcome?
  rw [scanned, List.foldlM_cons, bind_assoc, toOption_bind]

theorem outcome?_congr {cs cs' : List Char} (scanned : scan cs = scan cs') (s : State) :
    outcome? s cs = outcome? s cs' := by
  unfold outcome?
  rw [scanned]

/-- A mark is one lexeme. -/
theorem outcome?_mark {c : Char} {m : Mark} {s next : State} {rest : List Char}
    (noSpace : isSpace c = false)
    (lexeme : Lexeme.ofChar c rest = ⟨.mark m, c :: rest, some rest⟩)
    (stepped : step s ⟨.mark m, c :: rest, some rest⟩ = .ok next) :
    outcome? s (c :: rest) = outcome? next rest := by
  rw [outcome?_lexeme (scan_mark noSpace lexeme), stepped]
  rfl

/-! ## Values without parts -/

/-- A value is expected, inside of containers. -/
def State.Expects (s : State) (outer : List Frame) : Prop :=
  ∀ l : Lexeme, l.token ≠ .mark .closeArray → step s l = stepValue outer l

theorem expects_value (outer : List Frame) : (State.value outer).Expects outer :=
  fun _ _ => rfl

theorem expects_firstElement (outer : List Frame) :
    (State.firstElement outer).Expects (.element [] :: outer) := by
  intro l noClose
  unfold step
  split <;> simp_all

theorem expects_nextElement (elements : List Json) (outer : List Frame) :
    (State.nextElement elements outer).Expects (.element elements :: outer) := by
  intro l noClose
  unfold step
  split <;> simp_all

theorem outcome?_token {s : State} {outer : List Frame} (expects : s.Expects outer)
    (v? : Option Json) {cs rest : List Char} {l : Lexeme} (scanned : scan cs = l :: scan rest)
    (noClose : l.token ≠ .mark .closeArray)
    (value : (stepValue outer l).toOption = v?.map fun v => .resume v outer) :
    outcome? s cs = v?.bind fun v => outcome? (.resume v outer) rest := by
  rw [outcome?_lexeme scanned, expects l noClose, value]
  cases v? <;> rfl

theorem outcome?_string {s : State} {outer : List Frame} (expects : s.Expects outer)
    (text : String) (rest : List Char) :
    outcome? s (stringText text ++ rest) = outcome? (.resume (.string text) outer) rest :=
  outcome?_token expects (some (.string text)) (scan_string text rest) (by simp) rfl

theorem outcome?_number {s : State} {outer : List Frame} (expects : s.Expects outer)
    {n : Numeral} (h : n.WellFormed) {rest : List Char} (stop : EndsNumber rest) :
    outcome? s (n.text ++ rest) =
      (readNumber n.text).toOption.bind fun v => outcome? (.resume v outer) rest := by
  rw [readNumber_text h, n.value_toOption [] rest]
  refine outcome?_token expects _ (scan_numeral h stop) (by simp) ?_
  simp only [stepValue]
  cases n.value rest <;> rfl

/-- A value that is no container. -/
def IsScalar : Json → Prop
  | .array _ | .object _ => False
  | _ => True

theorem outcome?_null {s : State} {outer : List Frame} (expects : s.Expects outer)
    (rest : List Char) :
    outcome? s (['n', 'u', 'l', 'l'] ++ rest) = outcome? (.resume .null outer) rest :=
  outcome?_token expects (some .null) (scan_eq (first?_char rfl _) rfl) nofun rfl

theorem outcome?_scalar {s : State} {outer : List Frame} (expects : s.Expects outer) {v : Json}
    (scalar : v.IsScalar) {rest : List Char} (stop : EndsNumber rest) :
    outcome? s (scalarText v ++ rest) =
      v.reread?.bind fun w => outcome? (.resume w outer) rest := by
  match v, scalar with
  | .null, _ => exact outcome?_null expects rest
  | .bool true, _ =>
    exact outcome?_token expects (some (.bool true)) (scan_eq (first?_char rfl _) rfl) nofun rfl
  | .bool false, _ =>
    exact outcome?_token expects (some (.bool false)) (scan_eq (first?_char rfl _) rfl) nofun rfl
  | .integer k, _ =>
    simp only [scalarText, reread?, ← Numeral.text_ofInteger]
    exact outcome?_number expects (Numeral.wellFormed_ofInteger k) stop
  | .real (.finite negative m), _ =>
    obtain ⟨n, wellFormed, -, text⟩ := isRealText_realText negative m
    simp only [scalarText, reread?, ← text]
    exact outcome?_number expects wellFormed stop
  | .real .nan, _ => exact outcome?_null expects rest
  | .real (.infinity _), _ => exact outcome?_null expects rest
  | .string text, _ => exact outcome?_string expects text rest

/-! ## Containers -/

/-- A key is expected after the members of an object that were read. -/
def State.ExpectsKey (s : State) (members : List (String × Json)) (outer : List Frame) : Prop :=
  ∀ l : Lexeme, l.token ≠ .mark .closeObject → step s l = stepKey members outer l

theorem expectsKey_firstKey (outer : List Frame) : (State.firstKey outer).ExpectsKey [] outer := by
  intro l noClose
  unfold step
  split <;> simp_all

theorem expectsKey_nextKey (members : List (String × Json)) (outer : List Frame) :
    (State.nextKey members outer).ExpectsKey members outer := by
  intro l noClose
  unfold step
  split <;> simp_all

theorem outcome?_key {s : State} {members : List (String × Json)} {outer : List Frame}
    (expects : s.ExpectsKey members outer) (key : String) (rest : List Char) :
    outcome? s (stringText key ++ ':' :: ' ' :: rest) =
      outcome? (.value (.member members key :: outer)) rest := by
  rw [outcome?_lexeme (scan_string key _), expects _ (by simp)]
  refine (outcome?_mark rfl rfl rfl).trans ?_
  exact outcome?_congr (scan_space rfl rest) _

theorem outcome?_openArray {s : State} {outer : List Frame} (expects : s.Expects outer)
    (rest : List Char) :
    outcome? s ('[' :: rest) =
      if outer.length < depthLimit then outcome? (.firstElement outer) rest else none := by
  rw [outcome?_lexeme (scan_mark rfl rfl), expects _ (by simp)]
  simp only [stepValue]
  split <;> rfl

theorem outcome?_openObject {s : State} {outer : List Frame} (expects : s.Expects outer)
    (rest : List Char) :
    outcome? s ('\x7b' :: rest) =
      if outer.length < depthLimit then outcome? (.firstKey outer) rest else none := by
  rw [outcome?_lexeme (scan_mark rfl rfl), expects _ (by simp)]
  simp only [stepValue]
  split <;> rfl

/-- A bound on the deeper one of two parts is a bound on both. -/
theorem if_max_le {α : Type} (outer a b limit : Nat) (x : Option α) :
    (if outer + max a b ≤ limit then x else none) =
      if outer + a ≤ limit then if outer + b ≤ limit then x else none else none := by
  by_cases left : outer + a ≤ limit
  · by_cases right : outer + b ≤ limit
    · rw [if_pos left, if_pos right, if_pos (by omega)]
    · rw [if_pos left, if_neg right, if_neg (by omega)]
  · rw [if_neg left, if_neg (by omega)]

/-- The end of a list, on a line of its own. -/
theorem outcome?_closeArray (level : Nat) (elements : List Json) (outer : List Frame)
    (rest : List Char) :
    outcome? (.afterElement elements outer) (newline level ++ ']' :: rest) =
      outcome? (.resume (.array elements.reverse) outer) rest := by
  rw [outcome?_congr (scan_newline _ _)]
  exact outcome?_mark rfl rfl rfl

/-- The end of an object, on a line of its own. -/
theorem outcome?_closeObject (level : Nat) (members : List (String × Json)) (outer : List Frame)
    (rest : List Char) :
    outcome? (.afterMember members outer) (newline level ++ '\x7d' :: rest) =
      outcome? (.resume (.object members) outer) rest := by
  rw [outcome?_congr (scan_newline _ _)]
  exact outcome?_mark rfl rfl rfl

mutual

/-- The reader takes the text of a value off the front of a text and goes on behind it, unless the
value is nested too deep or holds a number that is refused. -/
theorem outcome?_indented (level : Nat) (v : Json) {s : State} {outer : List Frame}
    {rest : List Char} (expects : s.Expects outer) (room : outer.length ≤ depthLimit)
    (stop : EndsNumber rest) :
    outcome? s (indented level v ++ rest) =
      if outer.length + v.depth ≤ depthLimit then
        v.reread?.bind fun w => outcome? (.resume w outer) rest
      else none := by
  match v with
  | .null | .bool _ | .integer _ | .real _ | .string _ =>
    refine Eq.trans ?_ (if_pos (by simpa [depth] using room)).symm
    simp only [indented]
    exact outcome?_scalar expects (by exact trivial) stop
  | .array [] =>
    simp only [indented, List.cons_append, List.nil_append, depth, depthAll, Nat.zero_add]
    rw [outcome?_openArray expects]
    by_cases deeper : outer.length < depthLimit
    · rw [if_pos deeper, if_pos (Nat.succ_le_of_lt deeper)]
      exact outcome?_mark rfl rfl rfl
    · rw [if_neg deeper, if_neg (by omega)]
  | .array (e :: es) =>
    simp only [indented, List.cons_append, depth, reread?, Option.bind_map]
    rw [outcome?_openArray expects]
    by_cases deeper : outer.length < depthLimit
    · rw [if_pos deeper,
        outcome?_elements level (e :: es) (List.cons_ne_nil e es) (expects_firstElement outer)
          deeper]
      simp only [Nat.add_assoc, Nat.add_comm 1]
      rfl
    · rw [if_neg deeper, if_neg (by omega)]
  | .object [] =>
    simp only [indented, List.cons_append, List.nil_append, depth, depthMembers, Nat.zero_add]
    rw [outcome?_openObject expects]
    by_cases deeper : outer.length < depthLimit
    · rw [if_pos deeper, if_pos (Nat.succ_le_of_lt deeper)]
      exact outcome?_mark rfl rfl rfl
    · rw [if_neg deeper, if_neg (by omega)]
  | .object (m :: ms) =>
    simp only [indented, List.cons_append, depth, reread?, Option.bind_map]
    rw [outcome?_openObject expects]
    by_cases deeper : outer.length < depthLimit
    · rw [if_pos deeper,
        outcome?_members level (m :: ms) (List.cons_ne_nil m ms) (expectsKey_firstKey outer) deeper]
      simp only [Nat.add_assoc, Nat.add_comm 1]
      rfl
    · rw [if_neg deeper, if_neg (by omega)]

/-- The same for the elements of a list and its closing bracket. -/
theorem outcome?_elements (level : Nat) (elements : List Json) (some : elements ≠ []) {s : State}
    {before : List Json} {outer : List Frame} {rest : List Char}
    (expects : s.Expects (.element before :: outer)) (room : outer.length < depthLimit) :
    outcome? s (indentedElements level elements ++ rest) =
      if outer.length + 1 + depthAll elements ≤ depthLimit then
        (rereadAll? elements).bind fun ws =>
          outcome? (.resume (.array (before.reverse ++ ws)) outer) rest
      else none := by
  match elements with
  | [] => exact absurd rfl some
  | [v] =>
    simp only [indentedElements, List.append_assoc, List.cons_append, List.nil_append]
    rw [outcome?_congr (scan_newline _ _),
      outcome?_indented (level + 1) v expects room (endsNumber_newline level _)]
    simp only [depthAll, Nat.max_zero, rereadAll?, State.resume, outcome?_closeArray]
    cases v.reread? <;> simp
  | v :: w :: more =>
    have tail : ∀ a, outcome? (.resume a (.element before :: outer))
        (',' :: (indentedElements level (w :: more) ++ rest)) =
          if outer.length + 1 + depthAll (w :: more) ≤ depthLimit then
            (rereadAll? (w :: more)).bind fun ws =>
              outcome? (.resume (.array ((a :: before).reverse ++ ws)) outer) rest
          else none := fun a =>
      (outcome?_mark rfl rfl rfl).trans
        (outcome?_elements level (w :: more) (List.cons_ne_nil w more)
          (expects_nextElement (a :: before) outer) room)
    simp only [indentedElements, List.append_assoc, List.cons_append]
    rw [outcome?_congr (scan_newline _ _),
      outcome?_indented (level + 1) v expects room (endsNumber_comma _), depthAll, if_max_le]
    have unfolded : rereadAll? (v :: w :: more) =
        v.reread?.bind fun a => (rereadAll? (w :: more)).map (a :: ·) := rfl
    simp only [tail, unfolded, List.length_cons]
    split
    · cases v.reread? with
      | none => simp
      | some a =>
        simp only [Option.bind_some, Option.bind_map, List.reverse_cons, List.append_assoc,
          List.singleton_append]
        rfl
    · rfl

/-- The same for the members of an object and its closing brace. -/
theorem outcome?_members (level : Nat) (members : List (String × Json)) (some : members ≠ [])
    {s : State} {before : List (String × Json)} {outer : List Frame} {rest : List Char}
    (expects : s.ExpectsKey before outer) (room : outer.length < depthLimit) :
    outcome? s (indentedMembers level members ++ rest) =
      if outer.length + 1 + depthMembers members ≤ depthLimit then
        (rereadMembers? before members).bind fun ms =>
          outcome? (.resume (.object ms) outer) rest
      else none := by
  match members with
  | [] => exact absurd rfl some
  | [(key, v)] =>
    simp only [indentedMembers, List.append_assoc, List.cons_append, List.nil_append]
    rw [outcome?_congr (scan_newline _ _), outcome?_key expects,
      outcome?_indented (level + 1) v (expects_value _) (by exact room)
        (endsNumber_newline level _)]
    simp only [depthMembers, Nat.max_zero, rereadMembers?, State.resume, outcome?_closeObject]
    cases v.reread? <;> simp
  | (key, v) :: m :: more =>
    have tail : ∀ a, outcome? (.resume a (.member before key :: outer))
        (',' :: (indentedMembers level (m :: more) ++ rest)) =
          if outer.length + 1 + depthMembers (m :: more) ≤ depthLimit then
            (rereadMembers? (insertEntry key a before) (m :: more)).bind fun ms =>
              outcome? (.resume (.object ms) outer) rest
          else none := fun a =>
      (outcome?_mark rfl rfl rfl).trans
        (outcome?_members level (m :: more) (List.cons_ne_nil m more)
          (expectsKey_nextKey (insertEntry key a before) outer) room)
    simp only [indentedMembers, List.append_assoc, List.cons_append]
    rw [outcome?_congr (scan_newline _ _), outcome?_key expects,
      outcome?_indented (level + 1) v (expects_value _) (by exact room) (endsNumber_comma _),
      depthMembers, if_max_le]
    simp only [tail, List.length_cons]
    split
    · rw [rereadMembers?]
      cases v.reread? with
      | none => simp
      | some a => simp
    · rfl

end

theorem outcome?_done (v : Json) : outcome? (.resume v []) [] = some (v, none) := by
  unfold outcome?
  rw [scan_none rfl]
  rfl

/-- **A written value is read back**, with nothing left over, unless it is nested too deep or
holds a number that is refused; then the reader stops with a fault. -/
theorem read_indented (v : Json) :
    (read (indented 0 v)).toOption =
      if v.depth ≤ depthLimit then v.reread?.map fun w => (w, none) else none := by
  have run := outcome?_indented 0 v (expects_value []) (Nat.zero_le _) endsNumber_nil
  simp only [List.append_nil, List.length_nil, Nat.zero_add, outcome?_done] at run
  refine Eq.trans run ?_
  cases v.reread? <;> rfl

end ScriptTree.Json
