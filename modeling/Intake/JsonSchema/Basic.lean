import Intake.Failure
import Intake.Value.Path

/-!
# Findings of a JSON Schema check

A check of a value against a JSON Schema finds violations in the order of the schema's keywords. A
failure ends the check; the violations found before it are kept. Whether a value is valid is known
from the first violation, so what comes after it is looked for only if it is asked for. Main
statements: findings are joined associatively, and those for several things are joined in their order.
-/

namespace Intake.JsonSchema

/-- A part of a value that violates a schema. -/
structure Violation where
  /-- The path to the part. -/
  path : DataPath
  /-- What is wrong with it. -/
  message : String

/-- Violations, in order, and the failure that ended the search for them, if one did. -/
structure Outcome where
  /-- The violations. -/
  violations : List Violation
  /-- The failure after them. -/
  failure : Option Failure

namespace Outcome

/-- The outcome of one search and of another, which is made unless the first fails. -/
def followedBy (a : Outcome) (next : Unit → Outcome) : Outcome :=
  match a.failure with
  | some _ => a
  | none =>
    let after := next ()
    ⟨a.violations ++ after.violations, after.failure⟩

/-- Searches that follow each other are joined associatively. -/
theorem followedBy_assoc (a : Outcome) (f g : Unit → Outcome) :
    (a.followedBy f).followedBy g = a.followedBy fun _ => (f ()).followedBy g := by
  obtain ⟨u, _ | failure⟩ := a
  · rcases h : f () with ⟨v, _ | failure⟩ <;> simp [followedBy, h]
  · rfl

/-- A violation before two searches is one before the first. -/
theorem cons_followedBy (v : Violation) (a : Outcome) (next : Unit → Outcome) :
    followedBy ⟨v :: a.violations, a.failure⟩ next =
      ⟨v :: (a.followedBy next).violations, (a.followedBy next).failure⟩ := by
  obtain ⟨u, _ | failure⟩ := a <;> rfl

/-- Violations in a part of a value, told from the whole. -/
def under (segment : PathSegment) (a : Outcome) : Outcome :=
  ⟨a.violations.map fun v => { v with path := segment :: v.path }, a.failure⟩

end Outcome

/-- What a check finds. -/
inductive Findings where
  /-- Nothing is wrong. -/
  | none
  /-- The check failed before it found anything. -/
  | failed (failure : Failure)
  /-- A violation, and what comes after it. -/
  | found (first : Violation) (later : Thunk Outcome)

namespace Findings

/-- One violation of the whole value. -/
def one (message : String) : Findings := .found ⟨[], message⟩ (Thunk.mk fun _ => ⟨[], .none⟩)

/-- One violation of the whole value if a condition holds. -/
def oneIf (condition : Bool) (message : String) : Findings :=
  if condition then one message else none

/-- All that is found. -/
def outcome : Findings → Outcome
  | none => ⟨[], .none⟩
  | failed failure => ⟨[], some failure⟩
  | found first later => ⟨first :: later.get.violations, later.get.failure⟩

/-- The findings of one check and then of another, which a failure of the first prevents. -/
def append (a b : Findings) : Findings :=
  match a with
  | none => b
  | failed failure => failed failure
  | found first later => found first (Thunk.mk fun _ => later.get.followedBy fun _ => b.outcome)

instance : Append Findings := ⟨append⟩

/-- What is found by two checks is what the first finds, followed by what the second finds. -/
theorem outcome_append (a b : Findings) :
    (a ++ b).outcome = a.outcome.followedBy fun _ => b.outcome := by
  change (a.append b).outcome = _
  rcases a with _ | failure | ⟨first, later⟩
  · rfl
  · rfl
  · exact (Outcome.cons_followedBy first later.get fun _ => b.outcome).symm

/-- Joining is associative. -/
theorem append_assoc (a b c : Findings) : a ++ b ++ c = a ++ (b ++ c) := by
  rcases a with _ | failure | ⟨first, later⟩
  · rfl
  · rfl
  · change found first (Thunk.mk fun _ => (later.get.followedBy fun _ => b.outcome).followedBy
        fun _ => c.outcome) =
      found first (Thunk.mk fun _ => later.get.followedBy fun _ => (b ++ c).outcome)
    simp only [outcome_append, Outcome.followedBy_assoc]

/-- The findings of one check for each of several things, until one fails. -/
def each {α : Type} (check : α → Findings) : List α → Findings
  | [] => none
  | a :: rest =>
    match check a with
    | none => each check rest
    | failed failure => failed failure
    | found first later =>
      found first (Thunk.mk fun _ => later.get.followedBy fun _ => (each check rest).outcome)

/-- The findings for a thing and for those after it are joined. -/
theorem each_cons {α : Type} (check : α → Findings) (a : α) (rest : List α) :
    each check (a :: rest) = check a ++ each check rest := by
  change _ = (check a).append (each check rest)
  rcases made : check a with _ | failure | ⟨first, later⟩ <;> simp [each, append, made]

/-- The findings for things of two lists are joined. -/
theorem each_append {α : Type} (check : α → Findings) (as bs : List α) :
    each check (as ++ bs) = each check as ++ each check bs := by
  induction as with
  | nil => rfl
  | cons a rest ih => simp only [List.cons_append, each_cons, ih, append_assoc]

/-- Findings in a part of a value, told from the whole. -/
def under (segment : PathSegment) : Findings → Findings
  | none => none
  | failed failure => failed failure
  | found first later =>
    found { first with path := segment :: first.path }
      (Thunk.mk fun _ => later.get.under segment)

/-- Whether nothing is wrong; a violation decides that before a failure does. -/
def isValid : Findings → Except Failure Bool
  | none => .ok true
  | failed failure => .error failure
  | found _ _ => .ok false

/-- All violations; a failure after some of them leaves none. -/
def violations (a : Findings) : Except Failure (List Violation) :=
  match a.outcome.failure with
  | some failure => .error failure
  | .none => .ok a.outcome.violations

/-- Findings that depend on a computation which may fail. -/
def ofExcept : Except Failure Findings → Findings
  | .ok a => a
  | .error failure => failed failure

end Findings

end Intake.JsonSchema
