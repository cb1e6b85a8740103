import Mathlib.Data.List.Forall2

/-!
# Steps that may fail

A step has a result or an error. What is done with a result afterwards cannot fail of itself, a step
after another fails if either does, and the steps of a list fail together if one of them does.
-/

namespace Intake

variable {ε α β γ : Type}

/-- What is mapped succeeds if it succeeds before. -/
theorem exists_of_map_eq_ok {x : Except ε α} {f : α → β} {b : β}
    (h : x.map f = .ok b) : ∃ a, x = .ok a ∧ f a = b := by
  cases x with
  | error e => cases h
  | ok a => exact ⟨a, rfl, Except.ok.inj h⟩

/-- What is mapped fails as it fails before. -/
theorem map_eq_error_iff {x : Except ε α} {f : α → β} {e : ε} :
    x.map f = .error e ↔ x = .error e := by
  cases x <;> simp [Except.map]

/-- A step after another fails if the first one fails, or if it fails on the result of this. -/
theorem bind_eq_error_iff {x : Except ε α} {f : α → Except ε β} {e : ε} :
    x.bind f = .error e ↔ x = .error e ∨ ∃ a, x = .ok a ∧ f a = .error e := by
  cases x <;> simp [Except.bind]

/-- The error of a step that fails. -/
def errorOf? : Except ε α → Option ε
  | .ok _ => none
  | .error e => some e

@[simp]
theorem errorOf?_ok (a : α) : errorOf? (.ok a : Except ε α) = none := rfl

@[simp]
theorem errorOf?_error (e : ε) : errorOf? (.error e : Except ε α) = some e := rfl

@[simp]
theorem errorOf?_map (x : Except ε α) (f : α → β) : errorOf? (x.map f) = errorOf? x := by
  cases x <;> rfl

@[simp]
theorem errorOf?_bind_pure (x : Except ε α) (f : α → β) :
    errorOf? (x >>= fun a => pure (f a)) = errorOf? x := by
  cases x <;> rfl

/-- Where the error of a step does not depend on the result of the step before, the first of the two
errors counts. -/
theorem errorOf?_bind_of_eq {x : Except ε α} {f : α → Except ε β} {o : Option ε}
    (h : ∀ a, errorOf? (f a) = o) : errorOf? (x >>= f) = (errorOf? x).or o := by
  cases x with
  | error e => rfl
  | ok a => exact h a

/-- What is done with each result of a list of steps can be done at the end. -/
theorem mapM_except_map (f : α → Except ε β) (g : β → γ) (l : List α) :
    (l.mapM fun a => (f a).map g) = (l.mapM f).map (List.map g) := by
  induction l with
  | nil => rfl
  | cons a rest ih =>
    rw [List.mapM_cons, List.mapM_cons, ih]
    cases f a with
    | error e => rfl
    | ok b => cases rest.mapM f <;> rfl

/-- If all steps of a list succeed, each gives its result. -/
theorem forall₂_of_mapM_eq_ok {f : α → Except ε β} {l : List α} {results : List β}
    (h : l.mapM f = .ok results) : List.Forall₂ (fun a b => f a = .ok b) l results := by
  induction l generalizing results with
  | nil =>
    cases h
    exact .nil
  | cons a rest ih =>
    rw [List.mapM_cons] at h
    cases hb : f a with
    | error e =>
      rw [hb] at h
      cases h
    | ok b =>
      cases hothers : rest.mapM f with
      | error e =>
        rw [hb, hothers] at h
        cases h
      | ok others =>
        rw [hb, hothers] at h
        cases h
        exact .cons hb (ih hothers)

/-- If all results of a list are there, the list is that of them. -/
theorem eq_map_ok_of_mapM_id {results : List (Except ε α)} {l : List α}
    (h : results.mapM id = .ok l) : results = l.map .ok := by
  have hall : List.Forall₂ (fun result a => result = .ok a) results l := forall₂_of_mapM_eq_ok h
  rwa [← List.forall₂_map_right_iff (f := Except.ok), List.forall₂_eq_eq_eq] at hall

end Intake
