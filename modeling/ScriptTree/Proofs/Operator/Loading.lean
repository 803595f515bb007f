import ScriptTree.Proofs.Operator.ReadBack
import ScriptTree.Proofs.Text.Bytes
import Mathlib.Data.Finset.Card

/-!
# Loading an operator table

Any text of an object of rows is read as the table into which the rows are put in their order: only
the tokens of the text count, and a row may give its fields in any order. What a table then holds
depends on the last row of each operator alone. `ofText_eq_ok_insertAll` puts the two together.
-/

namespace ScriptTree.OperatorTable
set_option autoImplicit false
open Operator (IsRowMembers)
open Json (IsTextOf)

/-! ## What a table holds -/

theorem lookup_ofEntries (rows : List (String × OperatorRow)) (token : String) :
    lookup (.ofEntries rows) token = (lastUnder token rows).elim (.error ⟨token⟩) .ok := by
  unfold lookup
  rw [Dictionary.get?_ofEntries]
  cases lastUnder token rows <;> rfl

theorem lookup_ofEntries_eq_error_iff (rows : List (String × OperatorRow)) (token : String) :
    lookup (.ofEntries rows) token = .error ⟨token⟩ ↔ token ∉ rows.map Prod.fst := by
  rw [lookup_ofEntries, ← lastUnder_eq_none_iff]
  cases lastUnder token rows <;> simp

theorem keys_ascending (t : OperatorTable) :
    t.keys.Pairwise fun a b => Text.bytes a < Text.bytes b := by
  unfold Dictionary.keys
  rw [List.pairwise_map]
  exact t.ascending.imp fun below => (Text.bytes_lt_iff _ _).2 below

theorem keys_nodup (t : OperatorTable) : t.keys.Nodup := by
  unfold Dictionary.keys
  refine List.pairwise_map.2 (t.ascending.imp ?_)
  intro a b below
  exact Std.ne_of_lt below

theorem size_ofEntries (rows : List (String × OperatorRow)) :
    (Dictionary.ofEntries rows).size = (rows.map Prod.fst).toFinset.card := by
  have same : (Dictionary.ofEntries rows).keys.toFinset = (rows.map Prod.fst).toFinset := by
    ext token
    rw [List.mem_toFinset, List.mem_toFinset, Dictionary.mem_keys_ofEntries]
  rw [← same, List.toFinset_card_of_nodup (keys_nodup _), Dictionary.keys, List.length_map,
    Dictionary.size]

/-- **Loading a table is putting in its rows**, in their order and whatever text they have. In the
table an operator has its last row, the tokens are in the order of their bytes and there is one for
each operator; rows with the same last row for each operator give the same table, which is written
and listed in the same way. -/
theorem ofText_eq_ok_insertAll {rows : List (String × OperatorRow)}
    {members : List (String × Json)} (written : IsRowMembers rows members) {text : String}
    (isText : IsTextOf (.object members) text.toList) :
    ∃ t : OperatorTable, ofText text = .ok t ∧
      t = rows.foldl (fun t row => t.insert row.1 row.2) .empty ∧
      (∀ token, t.lookup token = (lastUnder token rows).elim (.error ⟨token⟩) .ok) ∧
      (∀ token, t.lookup token = .error ⟨token⟩ ↔ token ∉ rows.map Prod.fst) ∧
      (t.keys.Pairwise fun a b => Text.bytes a < Text.bytes b) ∧ t.keys.Nodup ∧
      t.size = (rows.map Prod.fst).toFinset.card ∧
      ∀ (others : List (String × OperatorRow)) (u : OperatorTable),
        u = others.foldl (fun t row => t.insert row.1 row.2) .empty →
        (∀ token, lastUnder token others = lastUnder token rows) →
        u = t ∧ u.toText = t.toText ∧ u.listing = t.listing := by
  refine ⟨.ofEntries rows, ofText_of_readTable (Operator.readTable_of_isTextOf written isText), rfl,
    lookup_ofEntries rows, lookup_ofEntries_eq_error_iff rows, keys_ascending _, keys_nodup _,
    size_ofEntries rows, ?_⟩
  rintro others u rfl same
  have equal : Dictionary.ofEntries others = Dictionary.ofEntries rows :=
    Dictionary.ofEntries_congr same
  exact ⟨equal, congrArg toText equal, congrArg listing equal⟩

/-- Rows of which the first and the last are for the same operator. -/
def repeatedRows : List (String × OperatorRow) :=
  [("é", ⟨1, .left, .bool⟩), ("+", ⟨6, .left, .number⟩), ("é", ⟨255, .right, .string⟩)]

/-- The members for the rows; the last one has its fields in another order. -/
def repeatedMembers : List (String × Json) :=
  [("é", OperatorRow.toJson ⟨1, .left, .bool⟩), ("+", OperatorRow.toJson ⟨6, .left, .number⟩),
    ("é", .object [("type", .string "string"), ("precedence", .integer 255),
      ("associativity", .string "right")])]

theorem isRowMembers_repeated : IsRowMembers repeatedRows repeatedMembers := by
  refine .cons (Operator.isRowJson_toJson _) (.cons (Operator.isRowJson_toJson _) (.cons ?_ .nil))
  exact ⟨[.resultType, .precedence, .associativity], by decide, fun f => by cases f <;> decide, rfl⟩

theorem lastUnder_repeatedRows (token : String) :
    lastUnder token repeatedRows.tail = lastUnder token repeatedRows := by
  rw [repeatedRows, lastUnder_cons, List.tail_cons]
  by_cases here : token = "é"
  · subst here
    decide
  · rw [if_neg here, Option.or_none]

theorem ofText_eq_ok_insertAll_repeated :
    IsRowMembers repeatedRows repeatedMembers ∧
    IsTextOf (.object repeatedMembers) (Json.object repeatedMembers).toCompact.toList ∧
    ∃ t, ofText (Json.object repeatedMembers).toCompact = .ok t ∧
      t.lookup "é" = .ok ⟨255, .right, .string⟩ ∧ t.lookup "-" = .error ⟨"-"⟩ ∧ t.size = 2 ∧
      t = .ofEntries repeatedRows.tail := by
  have isText : IsTextOf (.object repeatedMembers)
      (Json.object repeatedMembers).toCompact.toList := by
    rw [Json.toCompact, String.toList_ofList]
    exact Json.isTextOf_compact isRowMembers_repeated.legible
  obtain ⟨t, loaded, -, found, missing, -, -, size, same⟩ :=
    ofText_eq_ok_insertAll isRowMembers_repeated isText
  refine ⟨isRowMembers_repeated, isText, t, loaded, ?_, ?_, ?_, ?_⟩
  · rw [found]
    decide
  · rw [missing]
    decide
  · rw [size]
    decide
  · exact (same repeatedRows.tail _ rfl lastUnder_repeatedRows).1.symm

end ScriptTree.OperatorTable
