import Mathlib.Control.Monad.Basic

/-!
# Computations that can fail

What a computation in several steps gives, by what its first step gives.
-/

namespace ScriptTree
set_option autoImplicit false

variable {ε α β : Type}

@[simp] theorem ok_bind (a : α) (f : α → Except ε β) : ((.ok a : Except ε α) >>= f) = f a :=
  rfl

@[simp] theorem error_bind (e : ε) (f : α → Except ε β) :
    ((.error e : Except ε α) >>= f) = .error e :=
  rfl

theorem bind_eq_ok {x : Except ε α} {f : α → Except ε β} {b : β} :
    (x >>= f) = .ok b ↔ ∃ a, x = .ok a ∧ f a = .ok b := by
  cases x with
  | error e => simp
  | ok a => simp

theorem map_eq_ok {x : Except ε α} {f : α → β} {b : β} :
    f <$> x = .ok b ↔ ∃ a, x = .ok a ∧ f a = b := by
  cases x with
  | error e => simp
  | ok a => simp

/-- What is given unless there is a fault. -/
theorem elim_eq_ok {fault? : Option ε} {a b : α} :
    fault?.elim (.ok a : Except ε α) .error = .ok b ↔ fault? = none ∧ a = b := by
  cases fault? with
  | none => simp
  | some e => simp

theorem toOption_bind (x : Except ε α) (f : α → Except ε β) :
    (x >>= f).toOption = x.toOption.bind fun a => (f a).toOption := by
  cases x <;> rfl

/-- What a computation gives for all elements of a list comes from the elements. -/
theorem mem_of_mapM_eq_ok {f : α → Except ε β} {as : List α} {bs : List β}
    (h : as.mapM f = .ok bs) : ∀ b ∈ bs, ∃ a ∈ as, f a = .ok b := by
  induction as generalizing bs with
  | nil =>
    cases h
    exact List.forall_mem_nil _
  | cons a as ih =>
    rw [List.mapM_cons] at h
    obtain ⟨b, first, h⟩ := bind_eq_ok.1 h
    obtain ⟨rest, others, h⟩ := bind_eq_ok.1 h
    cases h
    intro c member
    rcases List.mem_cons.1 member with rfl | member
    · exact ⟨a, List.mem_cons_self, first⟩
    · obtain ⟨x, inside, found⟩ := ih others c member
      exact ⟨x, List.mem_cons_of_mem a inside, found⟩

/-- Whatever a computation gives has a property. -/
def Ensures (x : Except ε α) (P : α → Prop) : Prop :=
  ∀ a, x = .ok a → P a

theorem ensures_pure {P : α → Prop} {a : α} (holds : P a) : Ensures (pure a : Except ε α) P := by
  intro b given
  cases given
  exact holds

/-- A property of all that the later steps can give. -/
theorem ensures_bind {x : Except ε α} {f : α → Except ε β} {P : β → Prop}
    (each : ∀ a, Ensures (f a) P) : Ensures (x >>= f) P := by
  intro b given
  obtain ⟨a, -, given⟩ := bind_eq_ok.1 given
  exact each a b given

/-! ## Computations that succeed -/

/-- A computation that gives a result. -/
def Succeeds (x : Except ε α) : Prop :=
  ∃ a, x = .ok a

theorem succeeds_ok (a : α) : Succeeds (.ok a : Except ε α) :=
  ⟨a, rfl⟩

theorem not_succeeds_error (e : ε) : ¬ Succeeds (.error e : Except ε α) := by
  rintro ⟨a, given⟩
  cases given

/-- A computation that gives what was looked up, and fails if nothing was found. -/
theorem succeeds_iff_isSome {x : Except ε α} {o : Option α} (found : ∀ a, o = some a → x = .ok a)
    (missing : o = none → ∃ e, x = .error e) : Succeeds x ↔ o.isSome = true := by
  cases o with
  | none =>
    obtain ⟨e, rfl⟩ := missing rfl
    simp [not_succeeds_error]
  | some a =>
    rw [found a rfl]
    simp [succeeds_ok]

/-- A computation succeeds step by step, if the steps that follow do not depend on the result of the
first one for that. -/
theorem succeeds_bind_iff {x : Except ε α} {f : α → Except ε β} {P : Prop}
    (rest : ∀ a, Succeeds (f a) ↔ P) : Succeeds (x >>= f) ↔ Succeeds x ∧ P := by
  cases x with
  | error e => simp [not_succeeds_error]
  | ok a => simp [succeeds_ok, rest]

theorem succeeds_bind_pure {x : Except ε α} {f : α → β} :
    Succeeds (x >>= fun a => pure (f a)) ↔ Succeeds x := by
  have last (a : α) : Succeeds (pure (f a) : Except ε β) ↔ True := iff_true_intro ⟨f a, rfl⟩
  rw [succeeds_bind_iff last, and_true]

/-- A computation succeeds for a list if it does for each element. -/
theorem succeeds_mapM_iff {f : α → Except ε β} {as : List α} :
    Succeeds (as.mapM f) ↔ ∀ a ∈ as, Succeeds (f a) := by
  induction as with
  | nil => exact iff_of_true ⟨[], rfl⟩ (List.forall_mem_nil _)
  | cons a as ih =>
    rw [List.mapM_cons, succeeds_bind_iff fun _ => succeeds_bind_pure, ih, List.forall_mem_cons]

end ScriptTree
