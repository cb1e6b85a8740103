import Intake.Report.Detail
import Intake.Validation.Check
import Intake.Validation.Options

/-!
# How checks tell their issues

An issue is told by a check at a path of the data. Its message is the one that the options hold for
the label of the field and the constraint, else the one that the field declares for all its rules,
else the one of the check. Main statement: the message of the options goes first.
-/

namespace Intake

/-- What a check can find broken. -/
inductive Constraint where
  /-- The value must be there. -/
  | required
  /-- The value must have its type. -/
  | type
  /-- The value must be one of the enumerated ones. -/
  | enum
  /-- The text must not be too short. -/
  | minLength
  /-- The text must not be too long. -/
  | maxLength
  /-- The pattern must be found. -/
  | pattern
  /-- The text must have its format. -/
  | format
  /-- The text must be an absolute URL. -/
  | url
  /-- The scheme must be allowed. -/
  | protocol
  /-- The number must not be too small. -/
  | minimum
  /-- The number must not be too great. -/
  | maximum
  /-- The number must be whole. -/
  | integer
  /-- The number must not need too many decimal places. -/
  | precision
  /-- The list must not have too few items. -/
  | minItems
  /-- The list must not have too many items. -/
  | maxItems
  /-- The items must differ. -/
  | uniqueItems
  /-- The point in time must say the right thing of its offset. -/
  | timezone
  /-- The date must not be too early. -/
  | minDate
  /-- The date must not be too late. -/
  | maxDate
  /-- The text must be a time of day. -/
  | time
  /-- The file must not be too large. -/
  | maxFileSize
  /-- The type of the file must be allowed. -/
  | mimeType
  /-- The text must be JSON, and the value must match its JSON Schema. -/
  | json
  deriving DecidableEq

/-- The name of a constraint. -/
def Constraint.name : Constraint → String
  | .required => "required"
  | .type => "type"
  | .enum => "enum"
  | .minLength => "minLength"
  | .maxLength => "maxLength"
  | .pattern => "pattern"
  | .format => "format"
  | .url => "url"
  | .protocol => "protocol"
  | .minimum => "min"
  | .maximum => "max"
  | .integer => "integer"
  | .precision => "precision"
  | .minItems => "minItems"
  | .maxItems => "maxItems"
  | .uniqueItems => "uniqueItems"
  | .timezone => "timezone"
  | .minDate => "minDate"
  | .maxDate => "maxDate"
  | .time => "time"
  | .maxFileSize => "maxFileSize"
  | .mimeType => "mimeType"
  | .json => "json"

/-- Where a check stands: its field, the options and the path in the data. -/
structure Site where
  /-- The field. -/
  subject : Subject
  /-- The options. -/
  options : Options
  /-- The path in the data. -/
  path : DataPath

namespace Site

/-- The message that the options hold for a constraint, if it is not empty. -/
def givenMessage (site : Site) (constraint : Constraint) : Option String :=
  (site.options.messages.lookup (site.subject.label ++ "." ++ constraint.name)).filter (· ≠ "")

/-- The message that the field declares for a constraint; a wrong type is none of its rules. -/
def ownMessage (site : Site) (constraint : Constraint) : Option String :=
  if constraint = .type then none else site.subject.message

/-- The message for a constraint, where the check itself has one. -/
def message (site : Site) (constraint : Constraint) (standard : String) : String :=
  match site.givenMessage constraint with
  | some text => text
  | none => (site.ownMessage constraint).getD standard

/-- A message of the options goes before all others. -/
theorem message_of_given {site : Site} {constraint : Constraint} {text : String}
    (h : site.givenMessage constraint = some text) (standard : String) :
    site.message constraint standard = text := by
  simp [message, h]

/-- The label of the field, as messages begin. -/
def label (site : Site) : String := site.subject.label

/-- An issue. -/
def issue (site : Site) (code : ErrorCode) (constraint : Constraint) (standard : String)
    (value : Value) (expected : String) : Issue where
  path := site.path
  code := code
  message := site.message constraint standard
  value := value
  expected := some expected
  context := none
  secret := site.subject.secret

/-- An issue with more about it. -/
def issueWith (site : Site) (code : ErrorCode) (constraint : Constraint) (standard : String)
    (value : Value) (expected : String) (context : List (String × Value)) : Issue :=
  { site.issue code constraint standard value expected with context := some context }

/-- The issue of a value that has the wrong type. -/
def typeIssue (site : Site) (value : Value) (expected : String) : Issue :=
  site.issue .invalidType .type
    (site.label ++ " must be of type " ++ expected ++ ", got " ++ value.typeName) value expected

end Site

/-- What a check makes of a value: the output, which counts if there are no issues. -/
structure Outcome where
  /-- The output. -/
  output : Value
  /-- The issues. -/
  issues : List Issue

namespace Outcome

/-- A value is accepted. -/
def accept (output : Value) : Outcome := ⟨output, []⟩

/-- A value is refused with one issue. -/
def reject (value : Value) (issue : Issue) : Outcome := ⟨value, [issue]⟩

/-- There are no issues. -/
def isAccepted (o : Outcome) : Bool := o.issues.isEmpty

end Outcome

/-- One issue, if a condition holds. -/
def issueIf (condition : Bool) (issue : Issue) : List Issue := if condition then [issue] else []

end Intake
