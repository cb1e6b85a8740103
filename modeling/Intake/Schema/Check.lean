import Intake.Report.Detail
import Intake.Schema.Rule

/-!
# Checking rules

The rules of a tool are checked on its data after the fields have been. A rule that is broken and a
rule that cannot be evaluated each give one detail; neither keeps other rules from being checked.
Main statement: rules listed in two parts give the details of the parts one after the other.
-/

namespace Intake

/-- A function that decides custom rules from the rule and the data, or fails with a text. -/
abbrev RuleHandler := Rule → Value → Except String Bool

namespace Rule

/-- The paths that must be there. -/
def requiredPaths (r : Rule) : List String := (r.requires.getD []).map (·.val)

/-- The paths that must not be there. -/
def forbiddenPaths (r : Rule) : List String := (r.forbids.getD []).map (·.val)

/-- The paths that exclude each other. -/
def exclusivePaths (r : Rule) : List String := (r.fields.getD []).map (·.val)

/-- Whether a rule holds for data. -/
def holds (handler : Option RuleHandler) (scope : Value) (r : Rule) : Except String Bool :=
  match r.kind with
  | .conditional =>
    match r.condition.value? with
    | none => .ok true
    | some condition =>
      match condition.tree.holds scope with
      | .error u => .error u.message
      | .ok false => .ok true
      | .ok true =>
        .ok (r.requiredPaths.all scope.isPresent && !r.forbiddenPaths.any scope.isPresent)
  | .mutualExclusion => .ok ((r.exclusivePaths.filter scope.isPresent).length ≤ 1)
  | .dependency =>
    match r.trigger.value? with
    | none => .ok true
    | some trigger =>
      .ok (!scope.isPresent trigger.val || r.requiredPaths.all scope.isPresent)
  | .custom =>
    match handler with
    | none => .ok true
    | some decide => decide r scope

/-- The path that details of rules have. -/
def reportPath : DataPath := [.key "cross-field"]

/-- The first of two texts that is there and not empty, or a last resort. -/
def firstText (first second : Option String) (last : String) : String :=
  match first.filter (· ≠ ""), second.filter (· ≠ "") with
  | some text, _ => text
  | none, some text => text
  | none, none => last

/-- The detail of a broken rule. -/
def brokenDetail (r : Rule) : Detail where
  path := reportPath
  code := .ruleBroken
  message := firstText r.errorMessage.value? r.description.value? "Cross-field validation failed"
  value := .null
  expected := none
  context := some [("rule", r.brief)]

/-- The detail of a rule that cannot be evaluated. -/
def failedDetail (r : Rule) (error : String) : Detail where
  path := reportPath
  code := .ruleFailed
  message := "Error evaluating cross-field rule: " ++ error
  value := .null
  expected := none
  context := some [("rule", r.brief), ("error", .text error)]

/-- What is told of a rule. -/
def details (handler : Option RuleHandler) (scope : Value) (r : Rule) : List Detail :=
  match r.holds handler scope with
  | .ok true => []
  | .ok false => [r.brokenDetail]
  | .error error => [r.failedDetail error]

/-- A rule gives at most one detail. -/
theorem length_details_le (handler : Option RuleHandler) (scope : Value) (r : Rule) :
    (r.details handler scope).length ≤ 1 := by
  unfold details
  split <;> simp

end Rule

/-- What is told of rules, in their order. -/
def checkRules (handler : Option RuleHandler) (scope : Value) (rules : List Rule) : List Detail :=
  rules.flatMap (·.details handler scope)

/-- Rules in two parts give the details of the parts. -/
theorem checkRules_append (handler : Option RuleHandler) (scope : Value) (a b : List Rule) :
    checkRules handler scope (a ++ b) =
      checkRules handler scope a ++ checkRules handler scope b :=
  List.flatMap_append

end Intake
