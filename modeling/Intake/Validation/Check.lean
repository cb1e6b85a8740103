import Intake.Calendar.Basic
import Intake.Field.Kind
import Intake.Format.Basic
import Intake.Number.Basic
import Intake.Pattern.Basic
import Intake.Value.Basic

/-!
# Checks

A check is a definition made ready: the bounds in force are chosen, the patterns read, the dates of
bounds known. Checks of lists and records hold the checks of their items and properties.
-/

namespace Intake

/-- What is asked of the length and the characters of a text. -/
structure TextRule where
  /-- The least length. -/
  minLength : Option Int
  /-- The greatest length. -/
  maxLength : Option Int
  /-- A pattern that must be found, with its text. -/
  pattern : Option (String × Pattern)
  /-- The format. -/
  format : Option TextFormat
  /-- The text is a key or a secret, which must not be empty. -/
  confidential : Bool

/-- What is asked of a number. -/
structure NumberRule where
  /-- The least number. -/
  minimum : Option Binary64
  /-- The greatest number. -/
  maximum : Option Binary64
  /-- The number must be whole. -/
  integer : Bool
  /-- How many decimal places it may need. -/
  precision : Option Int

/-- What is asked of a list, its items apart. -/
structure ListRule where
  /-- The least number of items. -/
  minItems : Option Int
  /-- The greatest number of items. -/
  maxItems : Option Int
  /-- The items must differ. -/
  unique : Bool

/-- What is asked of a record, its properties apart. -/
structure RecordRule where
  /-- Properties that must be there. -/
  required : List String
  /-- Other properties may be there. -/
  additional : Bool

/-- A bound with the text that declares it. -/
structure DateBound (α : Type) where
  /-- The text. -/
  text : String
  /-- The bound. -/
  value : α

/-- The earliest and the latest date. -/
structure DateRange (α : Type) where
  /-- The earliest date. -/
  earliest : Option (DateBound α)
  /-- The latest date. -/
  latest : Option (DateBound α)

/-- What is asked of a file. -/
structure FileRule where
  /-- The types it may have, if any are listed. -/
  types : Option (List String)
  /-- The greatest size in bytes. -/
  maxSize : Option Int

/-- What is asked of a value without parts that are checked on their own. -/
inductive LeafRule where
  /-- A text, with what happens to it after the checks. -/
  | text (rule : TextRule) (transform : Option Transform)
  /-- An absolute URL, whose scheme may be restricted. -/
  | url (rule : TextRule) (transform : Option Transform) (protocols : Option (List String))
  /-- A number. -/
  | number (rule : NumberRule)
  /-- A truth value. -/
  | boolean
  /-- One of the enumerated values. -/
  | choice (values : List Value)
  /-- A list of anything. -/
  | anyList (rule : ListRule)
  /-- A record of anything. -/
  | anyRecord
  /-- A date. -/
  | date (range : DateRange Date)
  /-- A point in time. -/
  | dateTime (range : DateRange DateTime) (timezone : Option TimezoneRule)
  /-- A time of day. -/
  | time
  /-- The description of a file. -/
  | file (rule : FileRule)
  /-- JSON text or a value, which may have to match a JSON Schema. -/
  | json (schema : Option Value)

/-- What all checks know of their field. -/
structure Subject where
  /-- The path of the declaration. -/
  label : String
  /-- The kind of the field. -/
  kind : FieldKind
  /-- An absent value is a fault. -/
  required : Bool
  /-- The value that stands for an absent one. -/
  fallback : Option Value
  /-- Values must not be shown. -/
  secret : Bool
  /-- The message that replaces those of the rules. -/
  message : Option String
  /-- The enumerated values of a field of another kind. -/
  members : Option (List Value)

/-- A definition made ready. -/
inductive Check where
  /-- A value without parts that are checked on their own. -/
  | leaf (subject : Subject) (rule : LeafRule)
  /-- A list whose items are checked. -/
  | listOf (subject : Subject) (rule : ListRule) (item : Check)
  /-- A record whose properties are checked. -/
  | recordOf (subject : Subject) (rule : RecordRule) (properties : List (String × Check))

/-- What a check knows of its field. -/
def Check.subject : Check → Subject
  | .leaf subject _ => subject
  | .listOf subject _ _ => subject
  | .recordOf subject _ _ => subject

end Intake
