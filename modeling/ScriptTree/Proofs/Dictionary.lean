import ScriptTree.Dictionary

/-!
# What was put into a dictionary

An entry that is put into a list of entries is found under its key and changes nothing under
another key. A dictionary is what its entries make, put in one after the other. It is also what is
found in it (`Dictionary.ext_get?`), so of the entries that were put in, only the last one under
each key matters.
-/

namespace ScriptTree
set_option autoImplicit false

variable {α : Type}

theorem lookup_cons_eq (key other : String) (v : α) (entries : List (String × α)) :
    ((key, v) :: entries).lookup other =
      if other = key then some v else entries.lookup other := by
  by_cases same : other = key
  · simp [same]
  · have differ : (other == key) = false := by simpa using same
    simp [List.lookup_cons, differ, same]

theorem lookup_insertEntry (key other : String) (v : α) (entries : List (String × α)) :
    (insertEntry key v entries).lookup other =
      if other = key then some v else entries.lookup other := by
  induction entries with
  | nil => exact lookup_cons_eq key other v []
  | cons head rest ih =>
    obtain ⟨k, w⟩ := head
    unfold insertEntry
    split
    · exact lookup_cons_eq key other v _
    · split
      · rename_i equal
        subst equal
        simp only [lookup_cons_eq]
        split <;> rfl
      · rename_i differ
        simp only [lookup_cons_eq, ih]
        by_cases here : other = k
        · subst here
          simp [Ne.symm differ]
        · simp [here]

/-- An entry with the greatest key comes last. -/
theorem insertEntry_last {key : String} {entries : List (String × α)}
    (greatest : ∀ e ∈ entries, e.1 < key) (v : α) :
    insertEntry key v entries = entries ++ [(key, v)] := by
  induction entries with
  | nil => rfl
  | cons head rest ih =>
    obtain ⟨k, w⟩ := head
    have below : k < key := greatest (k, w) (by simp)
    have notBelow : ¬ key < k := fun above => String.lt_irrefl k (String.lt_trans below above)
    have differ : key ≠ k := by
      rintro rfl
      exact String.lt_irrefl key below
    rw [insertEntry, if_neg notBelow, if_neg differ,
      ih fun e member => greatest e (List.mem_cons_of_mem _ member)]
    rfl

theorem Dictionary.get?_insert (d : Dictionary α) (key other : String) (value : α) :
    (d.insert key value).get? other = if other = key then some value else d.get? other :=
  lookup_insertEntry key other value d.entries

theorem Dictionary.ext_entries {d e : Dictionary α} (same : d.entries = e.entries) : d = e := by
  cases d
  cases e
  cases same
  rfl

theorem Dictionary.entries_insertAll (d : Dictionary α) (more : List (String × α))
    (ascending : Ascending (d.entries ++ more)) :
    (more.foldl (fun d e => d.insert e.1 e.2) d).entries = d.entries ++ more := by
  induction more generalizing d with
  | nil => simp
  | cons e more ih =>
    have greatest : ∀ entry ∈ d.entries, entry.1 < e.1 := fun entry member =>
      (List.pairwise_append.1 ascending).2.2 entry member e (by simp)
    have put : (d.insert e.1 e.2).entries = d.entries ++ [e] := insertEntry_last greatest e.2
    have order : Ascending ((d.insert e.1 e.2).entries ++ more) := by
      rw [put, List.append_assoc]
      exact ascending
    rw [List.foldl_cons, ih _ order, put, List.append_assoc]
    rfl

/-- A dictionary is made of its own entries. -/
theorem Dictionary.ofEntries_entries (d : Dictionary α) : Dictionary.ofEntries d.entries = d :=
  ext_entries (entries_insertAll Dictionary.empty d.entries d.ascending)

/-! ## Equal dictionaries -/

theorem lookup_eq_none_of_lt {key : String} {entries : List (String × α)}
    (above : ∀ e ∈ entries, key < e.1) : entries.lookup key = none := by
  refine List.lookup_eq_none_iff.2 fun e member => ?_
  simpa using Std.ne_of_lt (above e member)

/-- A key that has a value does not lie before the first key. -/
theorem Ascending.not_lt_of_lookup {first key : String} {v w : α} {rest : List (String × α)}
    (ascending : Ascending ((first, v) :: rest))
    (found : ((first, v) :: rest).lookup key = some w) : ¬ key < first := by
  intro below
  have above : ∀ e ∈ (first, v) :: rest, key < e.1 := by
    intro e member
    rcases List.mem_cons.1 member with rfl | member
    · exact below
    · exact String.lt_trans below ((List.pairwise_cons.1 ascending).1 e member)
  rw [lookup_eq_none_of_lt above] at found
  cases found

theorem Ascending.eq_of_lookup {xs ys : List (String × α)} (hx : Ascending xs) (hy : Ascending ys)
    (same : ∀ key, xs.lookup key = ys.lookup key) : xs = ys := by
  induction xs generalizing ys with
  | nil =>
    cases ys with
    | nil => rfl
    | cons f ys =>
      obtain ⟨m, w⟩ := f
      simpa [lookup_cons_eq] using same m
  | cons e xs ih =>
    obtain ⟨k, v⟩ := e
    have foundX : ((k, v) :: xs).lookup k = some v := List.lookup_cons_self
    cases ys with
    | nil => simpa [foundX] using same k
    | cons f ys =>
      obtain ⟨m, w⟩ := f
      have foundY : ((m, w) :: ys).lookup m = some w := List.lookup_cons_self
      have notBelow : ¬ k < m := hy.not_lt_of_lookup ((same k).symm.trans foundX)
      have notAbove : ¬ m < k := hx.not_lt_of_lookup ((same m).trans foundY)
      obtain rfl : k = m := String.le_antisymm notAbove notBelow
      obtain rfl : v = w := Option.some.inj (foundX.symm.trans ((same k).trans foundY))
      obtain ⟨aboveX, tailX⟩ := List.pairwise_cons.1 hx
      obtain ⟨aboveY, tailY⟩ := List.pairwise_cons.1 hy
      rw [ih tailX tailY]
      intro key
      by_cases here : key = k
      · rw [here, lookup_eq_none_of_lt aboveX, lookup_eq_none_of_lt aboveY]
      · simpa [lookup_cons_eq, here] using same key

/-- **A dictionary is what is found in it.** -/
theorem Dictionary.ext_get? {d e : Dictionary α} (same : ∀ key, d.get? key = e.get? key) : d = e :=
  ext_entries (d.ascending.eq_of_lookup e.ascending same)

theorem Dictionary.mem_keys_iff (d : Dictionary α) (key : String) :
    key ∈ d.keys ↔ d.get? key ≠ none := by
  unfold keys get?
  rw [Ne, List.lookup_eq_none_iff]
  simp

/-! ## Repeated keys -/

/-- The value of the last entry with a key. -/
def lastUnder (key : String) (entries : List (String × α)) : Option α :=
  (entries.filter fun e => e.1 == key).getLast?.map Prod.snd

theorem lastUnder_eq_none_iff (key : String) (entries : List (String × α)) :
    lastUnder key entries = none ↔ key ∉ entries.map Prod.fst := by
  rw [lastUnder, Option.map_eq_none_iff, List.getLast?_eq_none_iff, List.filter_eq_nil_iff]
  constructor
  · intro absent member
    obtain ⟨e, found, rfl⟩ := List.mem_map.1 member
    exact absent e found (beq_self_eq_true e.1)
  · intro absent e found same
    exact absent (List.mem_map.2 ⟨e, found, beq_iff_eq.1 same⟩)

theorem lastUnder_cons (key : String) (e : String × α) (entries : List (String × α)) :
    lastUnder key (e :: entries) =
      (lastUnder key entries).or (if key = e.1 then some e.2 else none) := by
  unfold lastUnder
  by_cases here : key = e.1
  · rw [List.filter_cons_of_pos (by simp [here]), List.getLast?_cons, if_pos here]
    cases (entries.filter fun e => e.1 == key).getLast? <;> rfl
  · rw [List.filter_cons_of_neg (by simpa using Ne.symm here), if_neg here, Option.or_none]

/-- Of the entries that are put in under a key, the last one counts. -/
theorem Dictionary.get?_insertAll (d : Dictionary α) (more : List (String × α)) (key : String) :
    (more.foldl (fun d e => d.insert e.1 e.2) d).get? key =
      (lastUnder key more).or (d.get? key) := by
  induction more generalizing d with
  | nil => rfl
  | cons e more ih =>
    have put : (d.insert e.1 e.2).get? key =
        (if key = e.1 then some e.2 else none).or (d.get? key) := by
      rw [get?_insert]
      split <;> rfl
    rw [List.foldl_cons, ih, put, lastUnder_cons, Option.or_assoc]

theorem Dictionary.get?_ofEntries (entries : List (String × α)) (key : String) :
    (ofEntries entries).get? key = lastUnder key entries := by
  rw [ofEntries, get?_insertAll]
  exact Option.or_none

/-- Dictionaries are made equal by entries with the same last values. -/
theorem Dictionary.ofEntries_congr {xs ys : List (String × α)}
    (same : ∀ key, lastUnder key xs = lastUnder key ys) : ofEntries xs = ofEntries ys := by
  apply ext_get?
  intro key
  rw [get?_ofEntries, get?_ofEntries, same]

theorem Dictionary.mem_keys_ofEntries (entries : List (String × α)) (key : String) :
    key ∈ (ofEntries entries).keys ↔ key ∈ entries.map Prod.fst := by
  rw [mem_keys_iff, get?_ofEntries, Ne, lastUnder_eq_none_iff, Decidable.not_not]

end ScriptTree
