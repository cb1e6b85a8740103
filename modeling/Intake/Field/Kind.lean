import Intake.Format.Basic

/-!
# Kinds of fields

The kinds of values that a field may be declared to hold, and the closed choices among a field's
attributes. Each choice has the name by which declarations write it. Main statement: a choice is
found by its name.
-/

namespace Intake

/-- The kind of value that a field holds. -/
inductive FieldKind where
  /-- A text. -/
  | string
  /-- A number. -/
  | number
  /-- A truth value. -/
  | boolean
  /-- One of the enumerated values. -/
  | enumeration
  /-- A list. -/
  | array
  /-- A record. -/
  | object
  /-- A date. -/
  | date
  /-- A point in time. -/
  | dateTime
  /-- A time of day. -/
  | time
  /-- The description of a file. -/
  | file
  /-- JSON text, or a value as it stands. -/
  | json
  /-- A key for an interface. -/
  | apiKey
  /-- A secret text. -/
  | secret
  /-- An absolute URL. -/
  | url
  deriving DecidableEq

namespace FieldKind

/-- All kinds. -/
def all : List FieldKind :=
  [.string, .number, .boolean, .enumeration, .array, .object, .date, .dateTime, .time, .file,
   .json, .apiKey, .secret, .url]

/-- The name of a kind. -/
def name : FieldKind → String
  | .string => "string"
  | .number => "number"
  | .boolean => "boolean"
  | .enumeration => "enum"
  | .array => "array"
  | .object => "object"
  | .date => "date"
  | .dateTime => "datetime"
  | .time => "time"
  | .file => "file"
  | .json => "json"
  | .apiKey => "apiKey"
  | .secret => "secret"
  | .url => "url"

/-- The kind of a name. -/
def ofName? (name : String) : Option FieldKind := all.find? (·.name == name)

/-- A kind is found by its name. -/
theorem ofName?_name (k : FieldKind) : ofName? k.name = some k := by
  cases k <;> decide

/-- Kinds that only make sense in a configuration; their values are always secret. -/
def isConfigOnly : FieldKind → Bool
  | .apiKey | .secret => true
  | _ => false

end FieldKind

/-- What happens to a text after it has passed all checks. -/
inductive Transform where
  /-- Blanks at the ends are removed. -/
  | trim
  /-- Letters become small. -/
  | lowercase
  /-- Letters become capital. -/
  | uppercase
  /-- Characters are composed. -/
  | normalize
  deriving DecidableEq

namespace Transform

/-- All transforms. -/
def all : List Transform := [.trim, .lowercase, .uppercase, .normalize]

/-- The name of a transform. -/
def name : Transform → String
  | .trim => "trim"
  | .lowercase => "lowercase"
  | .uppercase => "uppercase"
  | .normalize => "normalize"

/-- The transform of a name. -/
def ofName? (name : String) : Option Transform := all.find? (·.name == name)

/-- A transform is found by its name. -/
theorem ofName?_name (t : Transform) : ofName? t.name = some t := by
  cases t <;> decide

end Transform

/-- What a point in time must say about its offset. -/
inductive TimezoneRule where
  /-- It must have an offset. -/
  | required
  /-- It may have an offset. -/
  | optional
  /-- It must have the offset zero. -/
  | utcOnly
  deriving DecidableEq

namespace TimezoneRule

/-- All rules. -/
def all : List TimezoneRule := [.required, .optional, .utcOnly]

/-- The name of a rule. -/
def name : TimezoneRule → String
  | .required => "required"
  | .optional => "optional"
  | .utcOnly => "utc-only"

/-- The rule of a name. -/
def ofName? (name : String) : Option TimezoneRule := all.find? (·.name == name)

/-- A rule is found by its name. -/
theorem ofName?_name (r : TimezoneRule) : ofName? r.name = some r := by
  cases r <;> decide

end TimezoneRule

end Intake
