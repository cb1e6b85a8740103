import Intake.Format.Structural
import Intake.Value.Equality

/-!
# Conditions

A condition is a statement about the data of a tool: literals and references, comparisons of two of
them, and negations, conjunctions and disjunctions. It is evaluated in a scope, the record of all
data, to a value that counts as true or not. Main statement: values that cannot be ordered are only
met by the four order comparisons.
-/

namespace Intake

/-- How two values are compared. -/
inductive Comparison where
  /-- They are equal. -/
  | equal
  /-- They differ. -/
  | unequal
  /-- The first is less. -/
  | less
  /-- The first is less or equal. -/
  | atMost
  /-- The first is greater. -/
  | greater
  /-- The first is greater or equal. -/
  | atLeast
  deriving DecidableEq

/-- The sign of a comparison. -/
def Comparison.sign : Comparison → String
  | .equal => "=="
  | .unequal => "!="
  | .less => "<"
  | .atMost => "<="
  | .greater => ">"
  | .atLeast => ">="

/-- A statement about data. -/
inductive Condition where
  /-- A value. -/
  | literal (value : Value)
  /-- The value that keys lead to from the scope, null if they lead nowhere. -/
  | reference (path : List String)
  /-- Whether an operand does not count as true. -/
  | negation (operand : Condition)
  /-- Whether all operands count as true. -/
  | conjunction (operands : List Condition)
  /-- Whether some operand counts as true. -/
  | disjunction (operands : List Condition)
  /-- A comparison of two operands. -/
  | comparison (how : Comparison) (left right : Condition)

/-- The value that keys lead to through records, if it is there. -/
def Value.follow? (v : Value) : List String → Option Value
  | [] => some v
  | key :: rest => (v.get? key).bind fun inner => inner.follow? rest

/-- A path written with dots leads to a value other than null. -/
def Value.isPresent (scope : Value) (path : String) : Bool :=
  match scope.follow? ((splitParts '.' path.toList).map String.ofList) with
  | some v => !v.isNull
  | none => false

/-- Two values that cannot be ordered, and how they were to be compared. -/
structure Unordered where
  /-- The class of the first value. -/
  left : String
  /-- The class of the second value. -/
  right : String
  /-- The comparison. -/
  how : Comparison

/-- Why a condition cannot be evaluated, in words. -/
def Unordered.message (u : Unordered) : String :=
  "Cannot compare " ++ u.left ++ " and " ++ u.right ++ " with '" ++ u.how.sign ++ "'"

namespace Value

/-- The order of two numbers or of two texts; none for other values. The inner answer is none if a
value is no number. -/
def order? : Value → Value → Option (Option Ordering)
  | .number a, .number b => some (a.order? b)
  | .text a, .text b => some (some (if a < b then .lt else if a = b then .eq else .gt))
  | _, _ => none

/-- Neither no number, nor anything else that differs from itself. -/
def equalsItself : Value → Bool
  | .number n => n.sameAs n
  | _ => true

end Value

namespace Comparison

/-- Whether an order is the one asked for. -/
def admits (how : Comparison) : Ordering → Bool
  | .lt => how == .less || how == .atMost || how == .unequal
  | .eq => how == .equal || how == .atMost || how == .atLeast
  | .gt => how == .greater || how == .atLeast || how == .unequal

/-- Whether two values compare as asked, where `equal` tells whether they are equal. -/
def holds (how : Comparison) (equal : Bool) (left right : Value) : Except Unordered Bool :=
  match how with
  | .equal => .ok equal
  | .unequal => .ok !equal
  | how =>
    match left.order? right with
    | none => .error ⟨left.className, right.className, how⟩
    | some none => .ok false
    | some (some order) => .ok (how.admits order)

/-- Equality is always decided. -/
theorem holds_equal (equal : Bool) (left right : Value) :
    Comparison.equal.holds equal left right = .ok equal := rfl

/-- Two values compare, unless an order is asked for of values that have none. -/
theorem holds_eq_error {how : Comparison} {equal : Bool} {left right : Value} {u : Unordered}
    (h : how.holds equal left right = .error u) :
    how ≠ .equal ∧ how ≠ .unequal ∧ left.order? right = none := by
  cases how
  case equal => cases h
  case unequal => cases h
  all_goals
    simp only [holds] at h
    split at h
    · rename_i none
      exact ⟨by decide, by decide, none⟩
    · cases h
    · cases h

end Comparison

namespace Condition

/-- The path of a reference. -/
def path? : Condition → Option (List String)
  | .reference path => some path
  | _ => none

/-- Whether the values of two operands are equal. Two references with one path lead to one value,
which is equal to itself whatever is inside it. -/
def operandsEqual (left right : Condition) (a b : Value) : Bool :=
  if left.path?.isSome && left.path? == right.path? then a.equalsItself else a.sameAs b

mutual

/-- The value of a condition in a scope. -/
def evaluate (scope : Value) (c : Condition) : Except Unordered Value :=
  match c with
  | .literal value => .ok value
  | .reference path => .ok ((scope.follow? path).getD .null)
  | .negation operand =>
    match evaluate scope operand with
    | .ok v => .ok (.bool !v.isTruthy)
    | .error u => .error u
  | .conjunction operands => (allTruthy scope operands).map .bool
  | .disjunction operands => (anyTruthy scope operands).map .bool
  | .comparison how left right =>
    match evaluate scope left with
    | .error u => .error u
    | .ok a =>
      match evaluate scope right with
      | .error u => .error u
      | .ok b => (how.holds (operandsEqual left right a b) a b).map .bool

/-- Whether all operands count as true; the first that does not ends the evaluation. -/
def allTruthy (scope : Value) (operands : List Condition) : Except Unordered Bool :=
  match operands with
  | [] => .ok true
  | operand :: rest =>
    match evaluate scope operand with
    | .error u => .error u
    | .ok v => if v.isTruthy then allTruthy scope rest else .ok false

/-- Whether some operand counts as true; the first that does ends the evaluation. -/
def anyTruthy (scope : Value) (operands : List Condition) : Except Unordered Bool :=
  match operands with
  | [] => .ok false
  | operand :: rest =>
    match evaluate scope operand with
    | .error u => .error u
    | .ok v => if v.isTruthy then .ok true else anyTruthy scope rest

end

/-- Whether a condition holds in a scope. -/
def holds (scope : Value) (c : Condition) : Except Unordered Bool :=
  (c.evaluate scope).map (·.isTruthy)

mutual

/-- The paths that a condition refers to, from left to right. -/
def references (c : Condition) : List (List String) :=
  match c with
  | .literal _ => []
  | .reference path => [path]
  | .negation operand => references operand
  | .conjunction operands => operandReferences operands
  | .disjunction operands => operandReferences operands
  | .comparison _ left right => references left ++ references right

/-- The paths that operands refer to. -/
def operandReferences (operands : List Condition) : List (List String) :=
  match operands with
  | [] => []
  | operand :: rest => references operand ++ operandReferences rest

end

end Condition

end Intake
