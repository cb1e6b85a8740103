import Intake.Failure
import Intake.Field.Definition
import Intake.Number.Basic

/-!
# The bounds of a field

A bound may be declared by the field itself or by its rules; the field goes first. Lengths that the
rules declare are doubles, of which the integer part counts. Main statement: a bound that the field
declares is the one in force.
-/

namespace Intake

/-- The integer part of a double. -/
def Binary64.integerPart (x : Binary64) : Except Failure Int :=
  match x with
  | .nan => .error .notANumberToInteger
  | .infinite _ => .error .infiniteToInteger
  | .finite .. => .ok ((x.truncate?).getD 0)

/-- A length bound: the declared one, or the integer part of the one from the rules. -/
def lengthBound (own : Option Int) (rule : Option Binary64) : Except Failure (Option Int) :=
  match own, rule with
  | some n, _ => .ok (some n)
  | none, some x => x.integerPart.map some
  | none, none => .ok none

/-- A length bound that the field declares is in force. -/
theorem lengthBound_own (n : Int) (rule : Option Binary64) :
    lengthBound (some n) rule = .ok (some n) := rfl

namespace FieldAttributes

/-- The rules of a configuration field. -/
def rules? (a : FieldAttributes) : Option ConfigRules := a.rules.value?

/-- The least number or length that the rules declare. -/
def ruleMinimum (a : FieldAttributes) : Option Binary64 := a.rules?.bind (·.minimum.value?)

/-- The greatest number or length that the rules declare. -/
def ruleMaximum (a : FieldAttributes) : Option Binary64 := a.rules?.bind (·.maximum.value?)

/-- The least length in force. -/
def leastLength (a : FieldAttributes) : Except Failure (Option Int) :=
  lengthBound a.minLength.value? a.ruleMinimum

/-- The greatest length in force. -/
def greatestLength (a : FieldAttributes) : Except Failure (Option Int) :=
  lengthBound a.maxLength.value? a.ruleMaximum

/-- The least number in force. -/
def leastNumber (a : FieldAttributes) : Option Binary64 := a.minimum.value?.or a.ruleMinimum

/-- The greatest number in force. -/
def greatestNumber (a : FieldAttributes) : Option Binary64 := a.maximum.value?.or a.ruleMaximum

/-- The pattern in force; an empty one counts for nothing. -/
def searchText (a : FieldAttributes) : Option String :=
  (a.pattern.value?.filter (· ≠ "")).or
    ((a.rules?.bind (·.pattern.value?)).filter (· ≠ ""))

/-- The enumerated values of the field itself, if there are any. -/
def ownValues (a : FieldAttributes) : Option (List Value) :=
  a.values.value?.filter (!·.isEmpty)

/-- The enumerated values in force: those of the field, or those of the rules. -/
def choices (a : FieldAttributes) : Option (List Value) :=
  a.ownValues.or ((a.rules?.bind (·.values.value?)).filter (!·.isEmpty))

/-- The schemes that a URL may have, if any are listed. -/
def protocols (a : FieldAttributes) : Option (List String) :=
  (a.rules?.bind (·.allowedProtocols.value?)).filter (!·.isEmpty)

/-- The message that replaces those of the rules, if it is not empty. -/
def ownMessage (a : FieldAttributes) : Option String :=
  (a.rules?.bind (·.errorMessage.value?)).filter (· ≠ "")

end FieldAttributes

end Intake
