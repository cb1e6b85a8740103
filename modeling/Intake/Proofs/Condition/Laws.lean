import Intake.Proofs.Condition.Evaluation
import Mathlib.Order.Compare
import Mathlib.Data.String.Basic

/-!
# Laws of conditions

Negation, conjunction and disjunction obey the laws of logic although an evaluation may fail and stops
where the answer is known: the two sides of a law hold alike, and fail alike for the same reason.
Comparisons by equality are each other's negation and never fail by themselves. Comparisons by order
fail for the same values, and are each other's converse and negation, apart from what is no number. How
equality goes on inside lists and records plays no role here.
-/

namespace Intake

theorem Extended.order_swap (p q : Extended) : (p.order q).swap = q.order p := by
  cases p <;> cases q <;> try rfl
  exact Int.compare_swap _ _

namespace Number

/-- A number has no place on the line exactly if it is no number. -/
theorem place?_eq_none_iff (a : Number) : a.place? = none ↔ a = .float .nan := by
  cases a with
  | int n => simp [place?]
  | float x => cases x <;> simp [place?, Binary64.place?, Binary64.ratio?]

theorem order?_swap (a b : Number) : (a.order? b).map .swap = b.order? a := by
  unfold order?
  cases a.place? <;> cases b.place? <;> simp [Extended.order_swap]

/-- Two numbers have no order exactly if one of them is no number. -/
theorem order?_eq_none_iff (a b : Number) :
    a.order? b = none ↔ a = .float .nan ∨ b = .float .nan := by
  rw [← place?_eq_none_iff, ← place?_eq_none_iff]
  unfold order?
  cases a.place? <;> cases b.place? <;> simp

end Number

namespace Value

theorem order?_swap (a b : Value) : (a.order? b).map (·.map .swap) = b.order? a := by
  cases a <;> cases b <;> try rfl
  · exact congrArg some (Number.order?_swap _ _)
  · rename_i s t
    simp only [order?, Option.map_some]
    rcases lt_trichotomy s t with h | rfl | h
    · simp [h, h.not_gt, h.ne']
    · simp
    · simp [h, h.not_gt, h.ne']

/-- Where two values have an order, they are equal exactly if this says so. -/
theorem sameAs_of_order? {a b : Value} {order : Option Ordering} (h : a.order? b = some order) :
    a.sameAs b = (order == some .eq) := by
  cases a <;> cases b <;> try cases h
  · rfl
  · rename_i s t
    have hsame : (text s).sameAs (text t) = (s == t) := rfl
    rw [hsame]
    rcases lt_trichotomy s t with h | rfl | h
    · simp [h, h.ne]
    · simp
    · simp [h.not_gt, h.ne']

/-- Where a value has an order with itself, it equals itself exactly if this says so. -/
theorem equalsItself_of_order? {a : Value} {order : Option Ordering} (h : a.order? a = some order) :
    a.equalsItself = (order == some .eq) := by
  rw [← sameAs_of_order? h]
  cases a <;> try cases h
  · rfl
  · simp [equalsItself, sameAs, sameAsBy, countsAsBy]

/-- Two values that have an order have one that is known, unless one of them is no number. -/
theorem exists_of_order? {a b : Value} {order : Option Ordering} (h : a.order? b = some order)
    (ha : a ≠ .float .nan) (hb : b ≠ .float .nan) : ∃ known, order = some known := by
  cases a <;> cases b <;> try cases h
  · rename_i m n
    rw [← Option.ne_none_iff_exists', ne_eq, Number.order?_eq_none_iff]
    rintro (rfl | rfl)
    · exact ha rfl
    · exact hb rfl
  · exact ⟨_, rfl⟩

end Value

/-- What comes of comparing two values by order depends on nothing but their order. -/
theorem Comparison.IsOrder.holds_toOption {how : Comparison} (h : how.IsOrder) (equal : Bool)
    (a b : Value) : (how.holds equal a b).toOption =
      (a.order? b).map fun order => (order.map how.admits).getD false := by
  obtain ⟨he, hu⟩ := h
  rw [Comparison.holds]
  · rcases a.order? b with _ | _ | order <;> rfl
  · exact he
  · exact hu

namespace Condition

variable {scope : Value}

/-- Whether a condition counts as true in a scope; none if it cannot be evaluated. -/
def outcome (scope : Value) (c : Condition) : Option Bool := (c.holds scope).toOption

theorem holds_conjunction (operands : List Condition) :
    (conjunction operands).holds scope = allTruthy scope operands := by
  rw [holds, evaluate]
  cases allTruthy scope operands <;> rfl

theorem holds_disjunction (operands : List Condition) :
    (disjunction operands).holds scope = anyTruthy scope operands := by
  rw [holds, evaluate]
  cases anyTruthy scope operands <;> rfl

theorem holds_negation_negation (c : Condition) :
    (negation (negation c)).holds scope = c.holds scope := by
  rw [holds_negation, holds_negation]
  rcases c.holds scope with u | (_ | _) <;> rfl

/-- Operands are looked at on the right as far as those on the left hold. -/
theorem allTruthy_append (operands others : List Condition) :
    allTruthy scope (operands ++ others) =
      (allTruthy scope operands).bind fun b => if b then allTruthy scope others else .ok false := by
  induction operands with
  | nil => rw [List.nil_append, allTruthy]; rfl
  | cons operand rest ih =>
    rw [List.cons_append, allTruthy_cons, allTruthy_cons, ih]
    rcases operand.holds scope with u | (_ | _) <;> rfl

/-- Operands are refuted twice. -/
theorem allTruthy_negation_negation (operands : List Condition) :
    allTruthy scope ((operands.map negation).map negation) = allTruthy scope operands := by
  induction operands with
  | nil => rfl
  | cons operand rest ih =>
    rw [List.map_cons, List.map_cons, allTruthy_cons, allTruthy_cons, holds_negation_negation, ih]

/-- A conjunction fails or does not hold where some operand is refuted. -/
theorem holds_negation_conjunction (operands : List Condition) :
    (negation (conjunction operands)).holds scope =
      (disjunction (operands.map negation)).holds scope := by
  rw [holds_negation, holds_conjunction, holds_disjunction, anyTruthy_eq_not_allTruthy,
    allTruthy_negation_negation]

/-- A disjunction fails or does not hold where all operands are refuted. -/
theorem holds_negation_disjunction (operands : List Condition) :
    (negation (disjunction operands)).holds scope =
      (conjunction (operands.map negation)).holds scope := by
  rw [holds_negation, holds_conjunction, holds_disjunction, anyTruthy_eq_not_allTruthy]
  rcases allTruthy scope (operands.map negation) with u | (_ | _) <;> rfl

/-- A conjunction among the operands of a conjunction can be written out. -/
theorem holds_conjunction_flatten (before inner after : List Condition) :
    (conjunction (before ++ conjunction inner :: after)).holds scope =
      (conjunction (before ++ inner ++ after)).holds scope := by
  rw [holds_conjunction, holds_conjunction, List.append_assoc, allTruthy_append, allTruthy_append,
    allTruthy_cons, allTruthy_append, holds_conjunction]

/-- Some operand holds exactly if not all are refuted, also where they are written one after another. -/
theorem anyTruthy_append (operands others : List Condition) :
    anyTruthy scope (operands ++ others) =
      (anyTruthy scope operands).bind fun b => if b then .ok true else anyTruthy scope others := by
  rw [anyTruthy_eq_not_allTruthy, List.map_append, allTruthy_append, anyTruthy_eq_not_allTruthy operands,
    anyTruthy_eq_not_allTruthy others]
  rcases allTruthy scope (operands.map negation) with u | (_ | _) <;> rfl

/-- A disjunction among the operands of a disjunction can be written out. -/
theorem holds_disjunction_flatten (before inner after : List Condition) :
    (disjunction (before ++ disjunction inner :: after)).holds scope =
      (disjunction (before ++ inner ++ after)).holds scope := by
  rw [holds_disjunction, holds_disjunction, List.append_assoc, anyTruthy_append, anyTruthy_append,
    anyTruthy_cons, anyTruthy_append, holds_disjunction]

/-- Two operands are evaluated from left to right, and then compared. -/
theorem holds_comparison (how : Comparison) (left right : Condition) :
    (comparison how left right).holds scope =
      (left.evaluate scope).bind fun a => (right.evaluate scope).bind fun b =>
        how.holds (operandsEqual left right a b) a b := by
  rw [holds, evaluate]
  cases left.evaluate scope with
  | error u => rfl
  | ok a =>
    cases right.evaluate scope with
    | error u => rfl
    | ok b =>
      change ((how.holds (operandsEqual left right a b) a b).map Value.bool).map Value.isTruthy =
        how.holds (operandsEqual left right a b) a b
      cases how.holds (operandsEqual left right a b) a b <;> rfl

/-- The order of what two operands evaluate to; none if one of them fails or there is no order. -/
def orderOf? (scope : Value) (left right : Condition) : Option (Option Ordering) :=
  (left.evaluate scope).toOption.bind fun a => (right.evaluate scope).toOption.bind fun b =>
    a.order? b

/-- What comes of a comparison by order depends on nothing but the order of the operands. -/
theorem outcome_comparison_of_isOrder {how : Comparison} (h : how.IsOrder)
    (left right : Condition) :
    (comparison how left right).outcome scope =
      (orderOf? scope left right).map fun order => (order.map how.admits).getD false := by
  rw [outcome, holds_comparison, orderOf?]
  cases left.evaluate scope with
  | error u => rfl
  | ok a =>
    cases right.evaluate scope with
    | error u => rfl
    | ok b => exact h.holds_toOption _ a b

/-- Operands that are exchanged have the converse order. -/
theorem orderOf?_swap (left right : Condition) :
    (orderOf? scope left right).map (·.map .swap) = orderOf? scope right left := by
  unfold orderOf?
  cases left.evaluate scope with
  | error u => cases right.evaluate scope <;> rfl
  | ok a =>
    cases right.evaluate scope with
    | error u => rfl
    | ok b => exact Value.order?_swap a b

/-- Operands whose values have an order are equal exactly if it says so, references to one place
included. -/
theorem operandsEqual_of_order? {left right : Condition} {a b : Value} {order : Option Ordering}
    (hleft : left.evaluate scope = .ok a) (hright : right.evaluate scope = .ok b)
    (h : a.order? b = some order) : operandsEqual left right a b = (order == some .eq) := by
  unfold operandsEqual
  split
  · rename_i hpaths
    cases left <;> cases right <;> simp [path?] at hpaths
    subst hpaths
    rw [hleft] at hright
    cases hright
    exact Value.equalsItself_of_order? h
  · exact Value.sameAs_of_order? h

/-- Something is less or equal exactly if it is less or it is equal. -/
theorem outcome_atMost (left right : Condition) :
    (comparison .atMost left right).outcome scope =
      (disjunction [comparison .less left right, comparison .equal left right]).outcome scope := by
  rw [outcome_comparison_of_isOrder ⟨by decide, by decide⟩, outcome, holds_disjunction, anyTruthy_cons,
    anyTruthy_cons, anyTruthy, holds_comparison, holds_comparison, orderOf?]
  cases hleft : left.evaluate scope with
  | error u => rfl
  | ok a =>
    cases hright : right.evaluate scope with
    | error u => rfl
    | ok b =>
      cases horder : a.order? b with
      | none => simp [Comparison.holds, horder, Except.bind, Except.toOption]
      | some order =>
        have hequal := operandsEqual_of_order? hleft hright horder
        rcases order with _ | _ | _ | _ <;>
          simp [Comparison.holds, Comparison.admits, horder, hequal, Except.bind, Except.toOption]

/-- Where two values can be compared by order, one is less or equal exactly if it is less or equal to
the other. -/
theorem outcome_atMost_iff {left right : Condition}
    (h : (comparison .atMost left right).outcome scope ≠ none) :
    (comparison .atMost left right).outcome scope = some true ↔
      (comparison .less left right).outcome scope = some true ∨
        (comparison .equal left right).outcome scope = some true := by
  rw [outcome_atMost] at h ⊢
  rw [outcome, holds_disjunction, anyTruthy_cons, anyTruthy_cons, anyTruthy] at h ⊢
  rw [outcome, outcome]
  cases hless : (comparison .less left right).holds scope with
  | error u =>
    rw [hless] at h
    exact absurd rfl h
  | ok less =>
    cases less with
    | false =>
      rcases (comparison .equal left right).holds scope with u | (_ | _) <;>
        simp [Except.bind, Except.toOption]
    | true => simp [Except.bind, Except.toOption]

/-- Where no operand is no number, one comparison by order is the negation of another if each order is
admitted by one of them. -/
theorem outcome_eq_not {how other : Comparison} (h : how.IsOrder) (h' : other.IsOrder)
    (hadmits : ∀ order, how.admits order = !other.admits order) {left right : Condition}
    (hleft : left.evaluate scope ≠ .ok (.float .nan))
    (hright : right.evaluate scope ≠ .ok (.float .nan)) :
    (comparison how left right).outcome scope =
      ((comparison other left right).outcome scope).map (!·) := by
  rw [outcome_comparison_of_isOrder h, outcome_comparison_of_isOrder h', orderOf?]
  cases hl : left.evaluate scope with
  | error u => rfl
  | ok a =>
    cases hr : right.evaluate scope with
    | error u => rfl
    | ok b =>
      cases horder : a.order? b with
      | none => simp [Except.toOption, horder]
      | some order =>
        obtain ⟨known, rfl⟩ := Value.exists_of_order? horder (fun ha => hleft (by rw [hl, ha]))
          fun hb => hright (by rw [hr, hb])
        simp [Except.toOption, horder, hadmits]

/-- The laws of logic in a scope, whether conditions hold, do not hold or fail. -/
structure ObeysLogic (scope : Value) : Prop where
  /-- What is negated twice is as it was. -/
  twice : ∀ a : Condition, (negation (negation a)).holds scope = a.holds scope
  /-- A conjunction is refuted as the disjunction of what refutes its operands. -/
  notBoth : ∀ operands : List Condition, (negation (conjunction operands)).holds scope =
    (disjunction (operands.map negation)).holds scope
  /-- A disjunction is refuted as the conjunction of what refutes its operands. -/
  notEither : ∀ operands : List Condition, (negation (disjunction operands)).holds scope =
    (conjunction (operands.map negation)).holds scope
  /-- Conjunctions are associative. -/
  bothAssoc : ∀ a b c : Condition, (conjunction [conjunction [a, b], c]).holds scope =
    (conjunction [a, conjunction [b, c]]).holds scope
  /-- Disjunctions are associative. -/
  eitherAssoc : ∀ a b c : Condition, (disjunction [disjunction [a, b], c]).holds scope =
    (disjunction [a, disjunction [b, c]]).holds scope
  /-- A chain in a chain of conjunctions can be written out. -/
  bothFlat : ∀ before inner after : List Condition,
    (conjunction (before ++ conjunction inner :: after)).holds scope =
      (conjunction (before ++ inner ++ after)).holds scope
  /-- A chain in a chain of disjunctions can be written out. -/
  eitherFlat : ∀ before inner after : List Condition,
    (disjunction (before ++ disjunction inner :: after)).holds scope =
      (disjunction (before ++ inner ++ after)).holds scope

/-- The laws of comparisons of two operands in a scope. -/
structure ObeysOrder (scope : Value) (left right : Condition) : Prop where
  /-- Operands differ exactly if they are not equal. -/
  unequal : (comparison .unequal left right).holds scope =
    ((comparison .equal left right).holds scope).map (!·)
  /-- Equality fails only as an operand does. -/
  equalFails : ∀ u, (comparison .equal left right).holds scope = .error u ↔
    left.evaluate scope = .error u ∨ ∃ a, left.evaluate scope = .ok a ∧ right.evaluate scope = .error u
  /-- All comparisons by order fail alike. -/
  failsAlike : ∀ how other : Comparison, how.IsOrder → other.IsOrder →
    ((comparison how left right).outcome scope = none ↔
      (comparison other left right).outcome scope = none)
  /-- One operand is less exactly if the other is greater. -/
  converse : (comparison .less left right).outcome scope =
    (comparison .greater right left).outcome scope
  /-- Less or equal is what is less or equal, also where it fails. -/
  atMost : (comparison .atMost left right).outcome scope =
    (disjunction [comparison .less left right, comparison .equal left right]).outcome scope
  /-- Where it does not fail, less or equal is one of both. -/
  atMostIff : (comparison .atMost left right).outcome scope ≠ none →
    ((comparison .atMost left right).outcome scope = some true ↔
      (comparison .less left right).outcome scope = some true ∨
        (comparison .equal left right).outcome scope = some true)
  /-- Where no operand is no number, less is the negation of greater or equal, and greater that of less
  or equal. -/
  negated : left.evaluate scope ≠ .ok (.float .nan) → right.evaluate scope ≠ .ok (.float .nan) →
    (comparison .less left right).outcome scope =
        ((comparison .atLeast left right).outcome scope).map (!·) ∧
      (comparison .greater left right).outcome scope =
        ((comparison .atMost left right).outcome scope).map (!·)

theorem obeysLogic (scope : Value) : ObeysLogic scope where
  twice := holds_negation_negation
  notBoth := holds_negation_conjunction
  notEither := holds_negation_disjunction
  bothAssoc a b c :=
    (holds_conjunction_flatten [] [a, b] [c]).trans (holds_conjunction_flatten [a] [b, c] []).symm
  eitherAssoc a b c :=
    (holds_disjunction_flatten [] [a, b] [c]).trans (holds_disjunction_flatten [a] [b, c] []).symm
  bothFlat := holds_conjunction_flatten
  eitherFlat := holds_disjunction_flatten

theorem obeysOrder (scope : Value) (left right : Condition) : ObeysOrder scope left right where
  unequal := by
    rw [holds_comparison, holds_comparison]
    cases left.evaluate scope with
    | error u => rfl
    | ok a => cases right.evaluate scope <;> rfl
  equalFails u := by
    rw [holds_comparison, bind_eq_error_iff]
    simp only [bind_eq_error_iff, Comparison.holds_equal, reduceCtorEq, and_false, exists_false,
      or_false]
  failsAlike how other h h' := by
    rw [outcome_comparison_of_isOrder h, outcome_comparison_of_isOrder h', Option.map_eq_none_iff,
      Option.map_eq_none_iff]
  converse := by
    have hadmits (order : Ordering) :
        Comparison.greater.admits order.swap = Comparison.less.admits order := by
      cases order <;> rfl
    rw [outcome_comparison_of_isOrder ⟨by decide, by decide⟩,
      outcome_comparison_of_isOrder ⟨by decide, by decide⟩, ← orderOf?_swap left right,
      Option.map_map]
    simp only [Function.comp_def, Option.map_map, hadmits]
  atMost := outcome_atMost left right
  atMostIff := outcome_atMost_iff
  negated hleft hright := by
    constructor
    · exact outcome_eq_not ⟨by decide, by decide⟩ ⟨by decide, by decide⟩
        (fun order => by cases order <;> rfl) hleft hright
    · exact outcome_eq_not ⟨by decide, by decide⟩ ⟨by decide, by decide⟩
        (fun order => by cases order <;> rfl) hleft hright

/-- In every scope conditions obey the laws of logic, and comparisons of any two operands those of
equality and order. -/
theorem obeysLogic_and_obeysOrder (scope : Value) :
    ObeysLogic scope ∧ ∀ left right, ObeysOrder scope left right :=
  ⟨obeysLogic scope, obeysOrder scope⟩

/-- An integer beyond the precision of doubles is greater than the double next to it exactly if it is
not less or equal. -/
theorem obeysOrder_neighbours :
    (literal (.int 9007199254740993)).evaluate .null ≠ .ok (.float .nan) ∧
      (literal (.float (.ofInt 9007199254740992))).evaluate .null ≠ .ok (.float .nan) ∧
      (comparison .greater (literal (.int 9007199254740993))
          (literal (.float (.ofInt 9007199254740992)))).outcome .null =
        ((comparison .atMost (literal (.int 9007199254740993))
          (literal (.float (.ofInt 9007199254740992)))).outcome .null).map (!·) := by
  have hint : (literal (.int 9007199254740993)).evaluate .null ≠ .ok (.float .nan) := by
    simp [evaluate, Value.int, Value.float]
  have hfloat :
      (literal (.float (.ofInt 9007199254740992))).evaluate .null ≠ .ok (.float .nan) := by
    intro h
    rw [evaluate] at h
    have hnan : Binary64.ofInt 9007199254740992 = .nan :=
      Number.float.inj (Value.number.inj (Except.ok.inj h))
    exact absurd hnan (by decide)
  exact ⟨hint, hfloat, (((obeysLogic_and_obeysOrder .null).2 _ _).negated hint hfloat).2⟩

end Condition

end Intake
