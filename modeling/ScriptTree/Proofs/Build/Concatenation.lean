import ScriptTree.Build.Template

/-!
# Trees of concatenations

A concatenation looks at the types of its two operands, and one of these may be a concatenation
itself. In a tree of concatenations, however the operands are joined, the type is the one that all
operands have together: a string if each of them is known to be a string, and a list otherwise
(`sType?_joined`).
-/

namespace ScriptTree.Build
set_option autoImplicit false

/-- Operands that are joined two by two. -/
inductive Joined where
  | operand (n : Node)
  | concat (left right : Joined)

namespace Joined

/-- The node of a tree of concatenations. -/
def build : Joined → Node
  | .operand n => n
  | .concat left right => Build.concat left.build right.build

/-- The operands from left to right. -/
def operands : Joined → List Node
  | .operand n => [n]
  | .concat left right => left.operands ++ right.operands

/-- The tree that joins more operands one after the other to a tree. -/
def chain (first : Joined) (more : List Node) : Joined :=
  more.foldl (fun joined n => .concat joined (.operand n)) first

end Joined

/-- Whether a node is known to be a string. -/
def IsString (n : Node) : Prop :=
  n.sType? = some .string

instance (n : Node) : Decidable (IsString n) :=
  inferInstanceAs (Decidable (_ = _))

/-- The type that operands have together. -/
def jointType (operands : List Node) : ValueType :=
  if ∀ n ∈ operands, IsString n then .string else .list

theorem sType?_concat (left right : Node) :
    (concat left right).sType? =
      some (if IsString left ∧ IsString right then .string else .list) :=
  rfl

theorem isString_concat_iff (left right : Node) :
    IsString (concat left right) ↔ IsString left ∧ IsString right := by
  rw [IsString, sType?_concat]
  split <;> simp_all

namespace Joined

/-- A tree of concatenations is a string if each operand is one. -/
theorem isString_build_iff (t : Joined) : IsString t.build ↔ ∀ n ∈ t.operands, IsString n := by
  induction t with
  | operand n => simp [build, operands]
  | concat left right ihLeft ihRight =>
    rw [build, operands, isString_concat_iff, List.forall_mem_append, ihLeft, ihRight]

theorem sType?_build_concat (left right : Joined) :
    (concat left right).build.sType? = some (jointType (concat left right).operands) := by
  rw [build, sType?_concat, jointType, operands]
  simp only [List.forall_mem_append, isString_build_iff]

theorem operands_ne_nil (t : Joined) : t.operands ≠ [] := by
  induction t with
  | operand n => simp [operands]
  | concat left right ih _ => simp [operands, ih]

theorem operands_concat_ne (left right : Joined) (n : Node) :
    (concat left right).operands ≠ [n] := by
  obtain ⟨a, front, hl⟩ := List.exists_cons_of_ne_nil left.operands_ne_nil
  obtain ⟨b, back, hr⟩ := List.exists_cons_of_ne_nil right.operands_ne_nil
  simp [operands, hl, hr]

/-- The same operands in the same order have the same type, however they are joined. -/
theorem sType?_build_congr {s t : Joined} (same : s.operands = t.operands) :
    s.build.sType? = t.build.sType? := by
  -- an operand alone has its own type, so it must not be taken for a joined one
  cases s with
  | operand n =>
    cases t with
    | operand m =>
      obtain rfl : n = m := by simpa [operands] using same
      rfl
    | concat left right => exact absurd same.symm (operands_concat_ne left right n)
  | concat left right =>
    cases t with
    | operand m => exact absurd same (operands_concat_ne left right m)
    | concat left' right' => rw [sType?_build_concat, sType?_build_concat, same]

theorem sType?_build_of_two_le {t : Joined} (two : 2 ≤ t.operands.length) :
    t.build.sType? = some (jointType t.operands) := by
  cases t with
  | operand n => simp [operands] at two
  | concat left right => exact sType?_build_concat left right

theorem build_chain (first : Joined) (more : List Node) :
    (first.chain more).build = more.foldl Build.concat first.build := by
  induction more generalizing first with
  | nil => rfl
  | cons n more ih => exact ih (.concat first (.operand n))

theorem operands_chain (first : Joined) (more : List Node) :
    (first.chain more).operands = first.operands ++ more := by
  induction more generalizing first with
  | nil => simp [chain]
  | cons n more ih =>
    have step : (first.chain (n :: more)).operands = (first.operands ++ [n]) ++ more :=
      ih (.concat first (.operand n))
    simpa using step

end Joined

theorem sType?_foldl_concat (first second : Node) (more : List Node) :
    ((second :: more).foldl concat first).sType? = some (jointType (first :: second :: more)) := by
  have built := Joined.build_chain (.operand first) (second :: more)
  have operands : (Joined.chain (.operand first) (second :: more)).operands =
      first :: second :: more := Joined.operands_chain (.operand first) (second :: more)
  rw [← operands, ← Joined.sType?_build_of_two_le (by simp [operands]), built, Joined.build]

/-- **The type of a tree of concatenations** is the one that its operands have together. It does not
depend on how they are joined, and joining them from left to right is one of the ways. -/
theorem sType?_joined :
    (∀ left right : Joined, (Joined.concat left right).build.sType? =
      some (jointType (Joined.concat left right).operands)) ∧
    (∀ s t : Joined, s.operands = t.operands → s.build.sType? = t.build.sType?) ∧
    (∀ (first second : Node) (more : List Node), ((second :: more).foldl concat first).sType? =
      some (jointType (first :: second :: more))) :=
  ⟨Joined.sType?_build_concat, fun _ _ => Joined.sType?_build_congr, sType?_foldl_concat⟩

/-- Two strings around a string whose type a wrapper hides, joined from the left. -/
def wrappedFromLeft : Joined :=
  .concat (.concat (.operand (string "a")) (.operand (.statement (string "b"))))
    (.operand (string "c"))

/-- The same operands, joined from the right. -/
def wrappedFromRight : Joined :=
  .concat (.operand (string "a"))
    (.concat (.operand (.statement (string "b"))) (.operand (string "c")))

theorem sType?_joined_wrapped :
    wrappedFromLeft.operands = wrappedFromRight.operands ∧
    wrappedFromLeft.build.sType? = wrappedFromRight.build.sType? ∧
    wrappedFromLeft.build.sType? = some .list :=
  ⟨rfl, sType?_joined.2.1 _ _ rfl, rfl⟩

end ScriptTree.Build
