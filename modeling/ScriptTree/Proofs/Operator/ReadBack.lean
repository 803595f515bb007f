import ScriptTree.Command.Run
import ScriptTree.Proofs.Dictionary
import ScriptTree.Proofs.Json.Tokens
import ScriptTree.Proofs.Node.Decode

/-!
# A written operator table is read back

The reader of tables goes through the tokens of a row and puts the row into the table, whatever the
operator is and in whatever order the row gives its fields. The rows of an object are put in one
after the other (`continues_rows`), so any text of the object is read as their table
(`readTable_of_isTextOf`), and a table is read back from its text: `ofText_toText_eq_ok`.
-/

namespace ScriptTree

instance : LawfulNamed Associativity := ⟨fun a => by cases a <;> decide⟩

end ScriptTree

namespace ScriptTree.Operator
set_option autoImplicit false
open Json (Lexeme Mark Token tokens memberTokens IsTextOf scan indented)

/-! ## Rows as JSON values -/

/-- The value that a field has in a row. -/
def RowField.json (info : OperatorRow) : RowField → Json
  | .precedence => .integer info.precedence.toNat
  | .associativity => wordJson info.associativity
  | .resultType => wordJson info.resultType

/-- A value is an object of the fields of a row, in any order. -/
def IsRowJson (info : OperatorRow) (v : Json) : Prop :=
  ∃ order : List RowField, order.Nodup ∧ (∀ f, f ∈ order) ∧
    v = .object (order.map fun f => (f.name, f.json info))

theorem isRowJson_toJson (info : OperatorRow) : IsRowJson info info.toJson :=
  ⟨[.precedence, .associativity, .resultType], by decide, fun f => by cases f <;> decide, rfl⟩

/-- The members of an object are the rows, one for one and in their order. -/
inductive IsRowMembers : List (String × OperatorRow) → List (String × Json) → Prop where
  | nil : IsRowMembers [] []
  | cons {token : String} {info : OperatorRow} {v : Json} {rows : List (String × OperatorRow)}
      {members : List (String × Json)} (row : IsRowJson info v) (more : IsRowMembers rows members) :
      IsRowMembers ((token, info) :: rows) ((token, v) :: members)

/-! ## Runs over tokens -/

/-- Reading goes on in a state at tokens as it does in another state at some of the tokens left. -/
def Continues (before after : State × List Token) : Prop :=
  ∀ ls : List Lexeme, ls.map Lexeme.token = before.2 →
    ∃ rest : List Lexeme, rest.map Lexeme.token = after.2 ∧
      ls.foldlM step before.1 = rest.foldlM step after.1

instance : Trans Continues Continues Continues where
  trans first second := by
    intro ls same
    obtain ⟨middle, sameMiddle, ranFirst⟩ := first ls same
    obtain ⟨rest, sameRest, ranSecond⟩ := second middle sameMiddle
    exact ⟨rest, sameRest, ranFirst.trans ranSecond⟩

theorem continues_token {t : Token} {s next : State} {ts : List Token}
    (stepped : ∀ start stop, step s ⟨t, start, stop⟩ = .ok next) :
    Continues (s, t :: ts) (next, ts) := by
  intro ls same
  obtain ⟨l, rest, rfl, rfl, sameRest⟩ := List.map_eq_cons_iff.1 same
  refine ⟨rest, sameRest, ?_⟩
  rw [List.foldlM_cons, stepped l.start l.stop]
  rfl

/-! ## The fields of a row -/

theorem RowField.ofName?_name (f : RowField) : RowField.ofName? f.name = some f := by
  cases f <;> decide

/-- The name of a field is expected, after some fields of a row. -/
def State.ExpectsField (s : State) (o : OpenRow) : Prop :=
  ∀ l : Lexeme, isMark l .closeObject = false → step s l = stepField o l

theorem expectsField_firstField (o : OpenRow) : (State.firstField o).ExpectsField o := by
  intro l noClose
  simp [step, noClose]

theorem expectsField_nextField (o : OpenRow) : (State.nextField o).ExpectsField o := by
  intro l noClose
  simp [step, noClose]

/-- What was read of a row after some of its fields. -/
def PartialRow.upTo (info : OperatorRow) (read : List RowField) : PartialRow :=
  ⟨if .precedence ∈ read then some info.precedence else none,
    if .associativity ∈ read then some info.associativity else none,
    if .resultType ∈ read then some info.resultType else none⟩

theorem PartialRow.has_upTo (info : OperatorRow) (read : List RowField) (f : RowField) :
    (PartialRow.upTo info read).has f = decide (f ∈ read) := by
  cases f <;> simp only [upTo, has] <;> split <;> simp_all

theorem PartialRow.complete_upTo (info : OperatorRow) {read : List RowField}
    (all : ∀ f, f ∈ read) : (PartialRow.upTo info read).complete = .ok info := by
  simp [upTo, complete, all]

theorem continues_name {s : State} {o : OpenRow} (expects : s.ExpectsField o) {f : RowField}
    (fresh : o.row.has f = false) (ts : List Token) :
    Continues (s, .string (.ok f.name) none :: .mark .colon :: ts) (.fieldValue o f, ts) := by
  calc Continues (s, .string (.ok f.name) none :: _)
        (.fieldColon o (some f), .mark .colon :: ts) := by
        apply continues_token
        intro start stop
        rw [expects _ rfl]
        simp only [stepField, ok_bind, RowField.ofName?_name, fresh]
        rfl
    Continues _ (.fieldValue o f, ts) := continues_token fun _ _ => rfl

/-- The value of a field is put into the row. -/
theorem continues_value (t : OperatorTable) (token : String) (info : OperatorRow)
    (read : List RowField) (f : RowField) (ts : List Token) :
    Continues (.fieldValue ⟨t, token, .upTo info read⟩ f, tokens (f.json info) ++ ts)
      (.afterField ⟨t, token, .upTo info (f :: read)⟩, ts) := by
  cases f with
  | precedence =>
    have byte : info.precedence.toNat < 256 := info.precedence.toNat_lt
    have put : PartialRow.upTo info (.precedence :: read) =
        { PartialRow.upTo info read with precedence := some info.precedence } := by
      simp [PartialRow.upTo]
    apply continues_token
    intro start stop
    simp only [step, stepFieldValue, RowField.json]
    rw [if_pos ⟨by omega, by omega⟩, put]
    simp [State.afterValue]
  | associativity =>
    have put : PartialRow.upTo info (.associativity :: read) =
        { PartialRow.upTo info read with associativity := some info.associativity } := by
      simp [PartialRow.upTo]
    apply continues_token
    intro start stop
    simp only [step, stepFieldValue, chooseWord, ok_bind, LawfulNamed.ofWord?_word, put]
    rfl
  | resultType =>
    have put : PartialRow.upTo info (.resultType :: read) =
        { PartialRow.upTo info read with resultType := some info.resultType } := by
      simp [PartialRow.upTo]
    apply continues_token
    intro start stop
    simp only [step, stepFieldValue, chooseWord, ok_bind, LawfulNamed.ofWord?_word, put]
    rfl

/-- The fields of a row in some order, after those that were read. -/
theorem continues_fields {s : State} {t : OperatorTable} {token : String} {info : OperatorRow}
    {read order : List RowField} (expects : s.ExpectsField ⟨t, token, .upTo info read⟩)
    (some : order ≠ []) (fresh : order.Nodup) (apart : ∀ f ∈ order, f ∉ read)
    (all : ∀ f, f ∈ order ∨ f ∈ read) (ts : List Token) :
    Continues (s, memberTokens (order.map fun f => (f.name, f.json info)) ++ ts)
      (.afterRow (t.insert token info), ts) := by
  match order with
  | [] => exact absurd rfl some
  | [f] =>
    have unread : (PartialRow.upTo info read).has f = false := by
      simp [PartialRow.has_upTo, apart f (by simp)]
    have complete : (PartialRow.upTo info (f :: read)).complete = .ok info := by
      apply PartialRow.complete_upTo
      intro g
      simpa using all g
    simp only [List.map_cons, List.map_nil, memberTokens, List.cons_append, List.append_assoc,
      List.nil_append]
    calc Continues (s, .string (.ok f.name) none :: .mark .colon :: _)
          (.fieldValue ⟨t, token, .upTo info read⟩ f, _) := continues_name expects unread _
      Continues _ (.afterField ⟨t, token, .upTo info (f :: read)⟩, .mark .closeObject :: ts) :=
        continues_value t token info read f _
      Continues _ (.afterRow (t.insert token info), ts) := by
        apply continues_token
        intro start stop
        simp [step, isMark, closeRow, complete]
  | f :: g :: more =>
    have unread : (PartialRow.upTo info read).has f = false := by
      simp [PartialRow.has_upTo, apart f (by simp)]
    obtain ⟨notLater, freshMore⟩ := List.nodup_cons.1 fresh
    have apartMore : ∀ h ∈ g :: more, h ∉ f :: read := by
      intro h later
      have differ : h ≠ f := fun same => notLater (same ▸ later)
      simpa [differ] using apart h (List.mem_cons_of_mem f later)
    have allMore : ∀ h, h ∈ g :: more ∨ h ∈ f :: read := by
      intro h
      simpa [or_left_comm, or_assoc] using all h
    simp only [List.map_cons, memberTokens, List.cons_append, List.append_assoc]
    calc Continues (s, .string (.ok f.name) none :: .mark .colon :: _)
          (.fieldValue ⟨t, token, .upTo info read⟩ f, _) := continues_name expects unread _
      Continues _ (.afterField ⟨t, token, .upTo info (f :: read)⟩, .mark .comma :: _) :=
        continues_value t token info read f _
      Continues _ (.nextField ⟨t, token, .upTo info (f :: read)⟩, _) :=
        continues_token fun _ _ => rfl
      Continues _ (.afterRow (t.insert token info), ts) :=
        continues_fields (expectsField_nextField _) (List.cons_ne_nil g more) freshMore apartMore
          allMore ts
termination_by order.length

/-- A row is read and put into the table. -/
theorem continues_row (t : OperatorTable) (token : String) {info : OperatorRow} {v : Json}
    (row : IsRowJson info v) (ts : List Token) :
    Continues (.row t token, tokens v ++ ts) (.afterRow (t.insert token info), ts) := by
  obtain ⟨order, fresh, all, rfl⟩ := row
  calc Continues (.row t token, .mark .openObject :: _)
        (.firstField ⟨t, token, .upTo info []⟩, _) := continues_token fun _ _ => rfl
    Continues _ (.afterRow (t.insert token info), ts) :=
      continues_fields (expectsField_firstField _) (List.ne_nil_of_mem (all .precedence)) fresh
        (by simp) (fun f => .inl (all f)) ts

/-! ## The rows of a table -/

/-- A token is expected, after some rows of a table. -/
def State.ExpectsToken (s : State) (t : OperatorTable) : Prop :=
  ∀ l : Lexeme, isMark l .closeObject = false → step s l = stepToken t l

theorem expectsToken_firstToken : State.firstToken.ExpectsToken .empty := by
  intro l noClose
  simp [step, noClose]

theorem expectsToken_nextToken (t : OperatorTable) : (State.nextToken t).ExpectsToken t := by
  intro l noClose
  simp [step, noClose]

/-- A token and its row. -/
theorem continues_entry {s : State} {t : OperatorTable} (expects : s.ExpectsToken t)
    (token : String) {info : OperatorRow} {v : Json} (row : IsRowJson info v) (ts : List Token) :
    Continues (s, .string (.ok token) none :: .mark .colon :: (tokens v ++ ts))
      (.afterRow (t.insert token info), ts) := by
  calc Continues (s, .string (.ok token) none :: _) (.tokenColon t token, .mark .colon :: _) := by
        apply continues_token
        intro start stop
        rw [expects _ rfl]
        rfl
    Continues _ (.row t token, _) := continues_token fun _ _ => rfl
    Continues _ (.afterRow (t.insert token info), ts) := continues_row t token row ts

/-- The rows are put into the table in their order, up to the closing brace. -/
theorem continues_rows {rows : List (String × OperatorRow)} {members : List (String × Json)}
    (written : IsRowMembers rows members) (some : rows ≠ []) {s : State} {t : OperatorTable}
    (expects : s.ExpectsToken t) :
    Continues (s, memberTokens members)
      (.done (rows.foldl (fun t row => t.insert row.1 row.2) t), []) := by
  induction written generalizing s t with
  | nil => exact absurd rfl some
  | @cons token info v rows members row more ih =>
    cases more with
    | nil =>
      calc Continues (s, .string (.ok token) none :: .mark .colon :: (tokens v ++ _))
            (.afterRow (t.insert token info), [.mark .closeObject]) :=
            continues_entry expects token row _
        Continues _ (.done (t.insert token info), []) := continues_token fun _ _ => rfl
    | cons row' more' =>
      calc Continues (s, .string (.ok token) none :: .mark .colon :: (tokens v ++ _))
            (.afterRow (t.insert token info), .mark .comma :: _) :=
            continues_entry expects token row _
        Continues _ (.nextToken (t.insert token info), _) := continues_token fun _ _ => rfl
        Continues _ _ := ih (List.cons_ne_nil _ _) (expectsToken_nextToken _)

theorem continues_table {rows : List (String × OperatorRow)} {members : List (String × Json)}
    (written : IsRowMembers rows members) :
    Continues (.table, tokens (.object members)) (.done (.ofEntries rows), []) := by
  calc Continues (.table, .mark .openObject :: memberTokens members) (.firstToken, _) :=
        continues_token fun _ _ => rfl
    Continues _ (.done (.ofEntries rows), []) := by
      cases written with
      | nil => exact continues_token fun _ _ => rfl
      | cons row more =>
        exact continues_rows (.cons row more) (List.cons_ne_nil _ _) expectsToken_firstToken

/-- Every text of an object of rows is read as the table of the rows. -/
theorem readTable_of_isTextOf {rows : List (String × OperatorRow)}
    {members : List (String × Json)} (written : IsRowMembers rows members) {cs : List Char}
    (isText : IsTextOf (.object members) cs) : readTable cs = .ok (.ofEntries rows) := by
  obtain ⟨rest, noTokens, ran⟩ := continues_table written (Json.scan cs) isText
  obtain rfl : rest = [] := List.map_eq_nil_iff.1 noTokens
  unfold readTable
  rw [ran]
  rfl

/-! ## Written rows -/

theorem IsRowJson.legible {info : OperatorRow} {v : Json} (row : IsRowJson info v) :
    Json.Legible v := by
  obtain ⟨order, -, -, rfl⟩ := row
  have field : ∀ f : RowField, Json.Legible (f.json info) := by
    intro f
    cases f with
    | precedence =>
      apply Json.legible_natural
      exact Nat.lt_of_lt_of_le info.precedence.toNat_lt
        (Nat.pow_le_pow_right Nat.two_pos (by decide : 8 ≤ 64))
    | associativity => exact .scalar trivial rfl
    | resultType => exact .scalar trivial rfl
  apply Json.Legible.object
  intro m member
  obtain ⟨f, -, rfl⟩ := List.mem_map.1 member
  exact field f

theorem IsRowMembers.legible {rows : List (String × OperatorRow)}
    {members : List (String × Json)} (written : IsRowMembers rows members) :
    Json.Legible (.object members) := by
  apply Json.Legible.object
  induction written with
  | nil => simp
  | cons row more ih => exact List.forall_mem_cons.2 ⟨row.legible, ih⟩

/-- The members of the object for a list of rows. -/
def rowMembers (rows : List (String × OperatorRow)) : List (String × Json) :=
  rows.map fun (token, info) => (token, info.toJson)

theorem isRowMembers_rowMembers (rows : List (String × OperatorRow)) :
    IsRowMembers rows (rowMembers rows) := by
  induction rows with
  | nil => exact .nil
  | cons row rows ih => exact .cons (isRowJson_toJson row.2) ih

theorem readTable_rows (rows : List (String × OperatorRow)) {rest : List Char}
    (blank : scan rest = []) :
    readTable (indented 0 (.object (rowMembers rows)) ++ rest) = .ok (.ofEntries rows) := by
  have written := isRowMembers_rowMembers rows
  exact readTable_of_isTextOf written (Json.isTextOf_indented written.legible blank)

end ScriptTree.Operator

namespace ScriptTree.OperatorTable
set_option autoImplicit false

theorem ofText_of_readTable {text : String} {t : OperatorTable}
    (read : Operator.readTable text.toList = .ok t) : ofText text = .ok t := by
  unfold ofText
  rw [read]

/-- **A table is read back from its text**, and from what the command prints, which has a newline
behind it. -/
theorem ofText_toText_eq_ok (t : OperatorTable) :
    ofText t.toText = .ok t ∧ ofText (Command.ListingForm.json.write t ++ "\n") = .ok t := by
  have read : ∀ rest, Json.scan rest = [] →
      Operator.readTable (Json.indented 0 t.toJson ++ rest) = .ok t := by
    intro rest blank
    have rows := Operator.readTable_rows t.entries blank
    rw [Dictionary.ofEntries_entries] at rows
    exact rows
  have text : t.toText.toList = Json.indented 0 t.toJson := by
    simp [toText, Json.toIndented]
  constructor
  · apply ofText_of_readTable
    rw [text, ← List.append_nil (Json.indented 0 t.toJson)]
    exact read [] (Json.scan_none rfl)
  · apply ofText_of_readTable
    rw [Command.ListingForm.write, String.toList_append, text]
    exact read _ (Json.scan_none rfl)

end ScriptTree.OperatorTable
