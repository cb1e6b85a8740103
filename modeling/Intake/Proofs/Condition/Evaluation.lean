import Intake.Condition.Basic
import Intake.Proofs.Results

/-!
# How far conditions are evaluated

A condition is evaluated from left to right: a conjunction as far as its operands hold, a disjunction
as far as they do not. Main statement: the evaluation fails exactly if it reaches the comparison by
order of two values that are neither two numbers nor two texts, and it tells of the first such
comparison only.
-/

namespace Intake

/-- Two values have an order: both are numbers, or both are texts. -/
def Value.Orderable (a b : Value) : Prop :=
  (∃ m n, a = .number m ∧ b = .number n) ∨ ∃ s t, a = .text s ∧ b = .text t

theorem Value.order?_eq_none_iff (a b : Value) : a.order? b = none ↔ ¬ a.Orderable b := by
  unfold Orderable
  cases a <;> cases b <;> simp [order?]

/-- A comparison asks for an order. -/
def Comparison.IsOrder (how : Comparison) : Prop := how ≠ .equal ∧ how ≠ .unequal

/-- Two values cannot be compared exactly if an order is asked for and they have none. -/
theorem Comparison.holds_eq_error_iff {how : Comparison} {equal : Bool} {a b : Value}
    {u : Unordered} :
    how.holds equal a b = .error u ↔
      how.IsOrder ∧ ¬ a.Orderable b ∧ u = ⟨a.className, b.className, how⟩ := by
  rw [← Value.order?_eq_none_iff]
  constructor
  · intro h
    obtain ⟨he, hu, hnone⟩ := holds_eq_error h
    refine ⟨⟨he, hu⟩, hnone, ?_⟩
    cases how <;> simp [holds, hnone] at h he hu <;> exact h.symm
  · rintro ⟨⟨he, hu⟩, hnone, rfl⟩
    cases how <;> simp [holds, hnone] at he hu ⊢

namespace Condition

variable {scope : Value}

/-- The evaluation of a condition in a scope reaches a part of it. -/
inductive Reaches (scope : Value) : Condition → Condition → Prop
  /-- A condition is reached itself. -/
  | here (c : Condition) : Reaches scope c c
  /-- What is negated is reached. -/
  | negation {operand part : Condition} (h : Reaches scope operand part) :
    Reaches scope (.negation operand) part
  /-- An operand of a conjunction is reached if all before it hold. -/
  | conjunction {before after : List Condition} {operand part : Condition}
    (hbefore : ∀ c ∈ before, c.holds scope = .ok true) (h : Reaches scope operand part) :
    Reaches scope (.conjunction (before ++ operand :: after)) part
  /-- An operand of a disjunction is reached if none before it holds. -/
  | disjunction {before after : List Condition} {operand part : Condition}
    (hbefore : ∀ c ∈ before, c.holds scope = .ok false) (h : Reaches scope operand part) :
    Reaches scope (.disjunction (before ++ operand :: after)) part
  /-- The left of a comparison is reached. -/
  | left {how : Comparison} {left right part : Condition} (h : Reaches scope left part) :
    Reaches scope (.comparison how left right) part
  /-- The right of a comparison is reached if the left has a value. -/
  | right {how : Comparison} {left right part : Condition} {a : Value}
    (hleft : left.evaluate scope = .ok a) (h : Reaches scope right part) :
    Reaches scope (.comparison how left right) part

/-- The evaluation of a condition reaches two values that are to be ordered and have no order. -/
def Sticks (scope : Value) (c : Condition) (u : Unordered) : Prop :=
  ∃ how left right a b, Reaches scope c (.comparison how left right) ∧
    left.evaluate scope = .ok a ∧ right.evaluate scope = .ok b ∧
    how.IsOrder ∧ ¬ a.Orderable b ∧ u = ⟨a.className, b.className, how⟩

/-- What sticks in a part that is reached sticks in the whole. -/
theorem Sticks.of_reaches {c part : Condition} {u : Unordered} (h : Sticks scope part u)
    (hreach : ∀ inner, Reaches scope part inner → Reaches scope c inner) : Sticks scope c u := by
  obtain ⟨how, left, right, a, b, hpart, hrest⟩ := h
  exact ⟨how, left, right, a, b, hreach _ hpart, hrest⟩

theorem holds_eq_error_iff {c : Condition} {u : Unordered} :
    c.holds scope = .error u ↔ c.evaluate scope = .error u := by
  rw [holds, map_eq_error_iff]

/-- Operands are looked at as far as they hold. -/
theorem allTruthy_cons (operand : Condition) (rest : List Condition) :
    allTruthy scope (operand :: rest) =
      (operand.holds scope).bind fun b => if b then allTruthy scope rest else .ok false := by
  rw [allTruthy, holds]
  cases operand.evaluate scope <;> rfl

/-- Operands are looked at as far as they do not hold. -/
theorem anyTruthy_cons (operand : Condition) (rest : List Condition) :
    anyTruthy scope (operand :: rest) =
      (operand.holds scope).bind fun b => if b then .ok true else anyTruthy scope rest := by
  rw [anyTruthy, holds]
  cases operand.evaluate scope <;> rfl

theorem holds_negation (operand : Condition) :
    (negation operand).holds scope = (operand.holds scope).map (!·) := by
  rw [holds, holds, evaluate]
  cases operand.evaluate scope <;> rfl

/-- That some operand holds is that not all are refuted. -/
theorem anyTruthy_eq_not_allTruthy (operands : List Condition) :
    anyTruthy scope operands = (allTruthy scope (operands.map negation)).map (!·) := by
  induction operands with
  | nil => rfl
  | cons operand rest ih =>
    rw [anyTruthy_cons, List.map_cons, allTruthy_cons, holds_negation, ih]
    rcases operand.holds scope with u | (_ | _) <;> rfl

/-- Operands fail in a conjunction exactly if one fails after those that hold. -/
theorem allTruthy_eq_error_iff {operands : List Condition} {u : Unordered} :
    allTruthy scope operands = .error u ↔
      ∃ before operand after, operands = before ++ operand :: after ∧
        (∀ c ∈ before, c.holds scope = .ok true) ∧ operand.holds scope = .error u := by
  constructor
  · intro h
    induction operands with
    | nil => simp [allTruthy] at h
    | cons operand rest ih =>
      rw [allTruthy_cons] at h
      cases ho : operand.holds scope with
      | error e =>
        rw [ho] at h
        cases h
        exact ⟨[], operand, rest, rfl, by simp, ho⟩
      | ok b =>
        rw [ho] at h
        cases b with
        | false => cases h
        | true =>
          obtain ⟨before, other, after, rfl, hbefore, hother⟩ := ih h
          exact ⟨operand :: before, other, after, rfl, List.forall_mem_cons.mpr ⟨ho, hbefore⟩,
            hother⟩
  · rintro ⟨before, operand, after, rfl, hbefore, ho⟩
    induction before with
    | nil =>
      rw [List.nil_append, allTruthy_cons, ho]
      rfl
    | cons first rest ih =>
      obtain ⟨hfirst, hrest⟩ := List.forall_mem_cons.mp hbefore
      rw [List.cons_append, allTruthy_cons, hfirst]
      exact ih hrest

/-- Operands fail in a disjunction exactly if one fails after those that do not hold. -/
theorem anyTruthy_eq_error_iff {operands : List Condition} {u : Unordered} :
    anyTruthy scope operands = .error u ↔
      ∃ before operand after, operands = before ++ operand :: after ∧
        (∀ c ∈ before, c.holds scope = .ok false) ∧ operand.holds scope = .error u := by
  have hrefuted (c : Condition) :
      (negation c).holds scope = .ok true ↔ c.holds scope = .ok false := by
    rw [holds_negation]
    rcases c.holds scope with u | (_ | _) <;> simp [Except.map]
  have hfails (c : Condition) :
      (negation c).holds scope = .error u ↔ c.holds scope = .error u := by
    rw [holds_negation]
    cases c.holds scope <;> simp [Except.map]
  have hall : anyTruthy scope operands = .error u ↔
      allTruthy scope (operands.map negation) = .error u := by
    rw [anyTruthy_eq_not_allTruthy]
    cases allTruthy scope (operands.map negation) <;> simp [Except.map]
  rw [hall, allTruthy_eq_error_iff]
  constructor
  · rintro ⟨before, operand, after, hparts, hbefore, ho⟩
    obtain ⟨before, rest, rfl, rfl, hrest⟩ := List.map_eq_append_iff.mp hparts
    obtain ⟨operand, after, rfl, rfl, rfl⟩ := List.map_eq_cons_iff.mp hrest
    refine ⟨before, operand, after, rfl, fun c hm => ?_, (hfails operand).mp ho⟩
    exact (hrefuted c).mp (hbefore _ (List.mem_map_of_mem hm))
  · rintro ⟨before, operand, after, rfl, hbefore, ho⟩
    refine ⟨before.map negation, negation operand, after.map negation, List.map_append, ?_,
      (hfails operand).mpr ho⟩
    exact List.forall_mem_map.mpr fun c hm => (hrefuted c).mpr (hbefore c hm)

/-- A part that is reached and fails makes the whole fail. -/
theorem Reaches.evaluate_eq_error {c part : Condition} {u : Unordered}
    (h : Reaches scope c part) (hpart : part.evaluate scope = .error u) :
    c.evaluate scope = .error u := by
  induction h with
  | here => exact hpart
  | negation _ ih => rw [evaluate, ih hpart]
  | conjunction hbefore _ ih =>
    rw [evaluate, allTruthy_eq_error_iff.mpr
      ⟨_, _, _, rfl, hbefore, holds_eq_error_iff.mpr (ih hpart)⟩]
    rfl
  | disjunction hbefore _ ih =>
    rw [evaluate, anyTruthy_eq_error_iff.mpr
      ⟨_, _, _, rfl, hbefore, holds_eq_error_iff.mpr (ih hpart)⟩]
    rfl
  | left _ ih => rw [evaluate, ih hpart]
  | right hleft _ ih => rw [evaluate, hleft, ih hpart]

/-- A condition that cannot be evaluated reaches two values without an order. -/
theorem sticks_of_evaluate_eq_error (c : Condition) {u : Unordered}
    (h : c.evaluate scope = .error u) : Sticks scope c u := by
  match c with
  | .literal value => cases h
  | .reference path => cases h
  | .negation operand =>
    rw [evaluate] at h
    cases ho : operand.evaluate scope with
    | ok v =>
      rw [ho] at h
      cases h
    | error e =>
      rw [ho] at h
      cases h
      exact (sticks_of_evaluate_eq_error operand ho).of_reaches fun _ => .negation
  | .conjunction operands =>
    have hoperands : allTruthy scope operands = .error u := by
      rw [evaluate] at h
      exact map_eq_error_iff.mp h
    obtain ⟨before, operand, after, hparts, hbefore, ho⟩ := allTruthy_eq_error_iff.mp hoperands
    have hm : operand ∈ operands := by
      rw [hparts]
      exact List.mem_append_right _ List.mem_cons_self
    have hsticks := sticks_of_evaluate_eq_error operand (holds_eq_error_iff.mp ho)
    rw [hparts]
    exact hsticks.of_reaches fun _ => .conjunction hbefore
  | .disjunction operands =>
    have hoperands : anyTruthy scope operands = .error u := by
      rw [evaluate] at h
      exact map_eq_error_iff.mp h
    obtain ⟨before, operand, after, hparts, hbefore, ho⟩ := anyTruthy_eq_error_iff.mp hoperands
    have hm : operand ∈ operands := by
      rw [hparts]
      exact List.mem_append_right _ List.mem_cons_self
    have hsticks := sticks_of_evaluate_eq_error operand (holds_eq_error_iff.mp ho)
    rw [hparts]
    exact hsticks.of_reaches fun _ => .disjunction hbefore
  | .comparison how left right =>
    rw [evaluate] at h
    cases hl : left.evaluate scope with
    | error e =>
      rw [hl] at h
      cases h
      exact (sticks_of_evaluate_eq_error left hl).of_reaches fun _ => .left
    | ok a =>
      cases hr : right.evaluate scope with
      | error e =>
        rw [hl, hr] at h
        cases h
        exact (sticks_of_evaluate_eq_error right hr).of_reaches fun _ => .right hl
      | ok b =>
        rw [hl, hr] at h
        obtain ⟨horder, hnone, rfl⟩ := Comparison.holds_eq_error_iff.mp (map_eq_error_iff.mp h)
        exact ⟨how, left, right, a, b, .here _, hl, hr, horder, hnone, rfl⟩
termination_by sizeOf c
decreasing_by
  · simp only [negation.sizeOf_spec]
    omega
  · have := List.sizeOf_lt_of_mem hm
    simp only [conjunction.sizeOf_spec]
    omega
  · have := List.sizeOf_lt_of_mem hm
    simp only [disjunction.sizeOf_spec]
    omega
  · simp only [comparison.sizeOf_spec]
    omega
  · simp only [comparison.sizeOf_spec]
    omega

/-- A condition cannot be evaluated exactly if its evaluation, from left to right, reaches two values
that are to be ordered and are neither two numbers nor two texts. -/
theorem evaluate_eq_error_iff (c : Condition) (u : Unordered) :
    c.evaluate scope = .error u ↔ Sticks scope c u := by
  refine ⟨sticks_of_evaluate_eq_error c, ?_⟩
  rintro ⟨how, left, right, a, b, hreach, hl, hr, hfails⟩
  refine hreach.evaluate_eq_error ?_
  rw [evaluate, hl, hr]
  exact map_eq_error_iff.mpr (Comparison.holds_eq_error_iff.mpr hfails)

end Condition

end Intake
