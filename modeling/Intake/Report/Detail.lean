import Intake.Value.Basic
import Intake.Value.Path

/-!
# Issues and details

A check that fails leaves an issue. What is told of it is a detail, which shows the offending value
unless the field is secret. Main statement: the detail of a secret issue never shows its value.
-/

namespace Intake

/-!
## Codes of faults in data

What is wrong with data has a code, and each code belongs to a class. Main statement: a code is
found by its name.
-/

/-- The classes of faults. -/
inductive ErrorClass where
  /-- Something is missing, of the wrong type or not known. -/
  | structural
  /-- A value breaks a bound, a pattern or a format. -/
  | constraint
  /-- A value is none of the enumerated ones. -/
  | enumMismatch
  /-- A rule across fields is broken. -/
  | ruleBroken
  /-- A rule across fields cannot be evaluated. -/
  | ruleFailed
  /-- The engine failed. -/
  | system
  deriving DecidableEq

/-- The name of a class. -/
def ErrorClass.name : ErrorClass → String
  | .structural => "STRUCTURAL"
  | .constraint => "CONSTRAINT"
  | .enumMismatch => "ENUM_MISMATCH"
  | .ruleBroken => "CROSS_FIELD_VALIDATION_FAILED"
  | .ruleFailed => "CROSS_FIELD_EVALUATION_ERROR"
  | .system => "VALIDATION_SYSTEM_ERROR"

/-- What is wrong with data. -/
inductive ErrorCode where
  /-- A required field is absent. -/
  | required
  /-- A value has the wrong shape. -/
  | invalidType
  /-- A closed record has other keys. -/
  | unrecognizedKeys
  /-- A field is not declared. -/
  | fieldNotFound
  /-- A value, length, count or date is below its bound. -/
  | tooSmall
  /-- A value, length, count or date is above its bound. -/
  | tooBig
  /-- A number is not whole. -/
  | notInteger
  /-- A number needs too many decimal places. -/
  | tooPrecise
  /-- Items of a list are equal. -/
  | notUnique
  /-- A pattern is not found. -/
  | patternMismatch
  /-- A text does not have its format. -/
  | invalidFormat
  /-- A value is no date. -/
  | invalidDate
  /-- A value is no time of day. -/
  | invalidTime
  /-- A point in time says the wrong thing of its offset. -/
  | invalidTimezone
  /-- A text is no URL. -/
  | invalidUrl
  /-- The scheme of a URL is not allowed. -/
  | protocolNotAllowed
  /-- A text is no JSON, or a value does not match its JSON Schema. -/
  | invalidJson
  /-- A file is too large. -/
  | fileTooLarge
  /-- The type of a file is not allowed. -/
  | mimeTypeNotAllowed
  /-- A value is none of the enumerated ones. -/
  | enumMismatch
  /-- A rule across fields is broken. -/
  | ruleBroken
  /-- A rule across fields cannot be evaluated. -/
  | ruleFailed
  /-- The engine failed. -/
  | system
  deriving DecidableEq

namespace ErrorCode

/-- All codes. -/
def all : List ErrorCode :=
  [.required, .invalidType, .unrecognizedKeys, .fieldNotFound, .tooSmall, .tooBig, .notInteger,
   .tooPrecise, .notUnique, .patternMismatch, .invalidFormat, .invalidDate, .invalidTime,
   .invalidTimezone, .invalidUrl, .protocolNotAllowed, .invalidJson, .fileTooLarge,
   .mimeTypeNotAllowed, .enumMismatch, .ruleBroken, .ruleFailed, .system]

/-- The name of a code. -/
def name : ErrorCode → String
  | .required => "REQUIRED"
  | .invalidType => "INVALID_TYPE"
  | .unrecognizedKeys => "UNRECOGNIZED_KEYS"
  | .fieldNotFound => "FIELD_NOT_FOUND"
  | .tooSmall => "TOO_SMALL"
  | .tooBig => "TOO_BIG"
  | .notInteger => "NOT_INTEGER"
  | .tooPrecise => "TOO_PRECISE"
  | .notUnique => "NOT_UNIQUE"
  | .patternMismatch => "PATTERN_MISMATCH"
  | .invalidFormat => "INVALID_FORMAT"
  | .invalidDate => "INVALID_DATE"
  | .invalidTime => "INVALID_TIME"
  | .invalidTimezone => "INVALID_TIMEZONE"
  | .invalidUrl => "INVALID_URL"
  | .protocolNotAllowed => "PROTOCOL_NOT_ALLOWED"
  | .invalidJson => "INVALID_JSON"
  | .fileTooLarge => "FILE_TOO_LARGE"
  | .mimeTypeNotAllowed => "MIME_TYPE_NOT_ALLOWED"
  | .enumMismatch => "ENUM_MISMATCH"
  | .ruleBroken => "CROSS_FIELD_VALIDATION_FAILED"
  | .ruleFailed => "CROSS_FIELD_EVALUATION_ERROR"
  | .system => "VALIDATION_SYSTEM_ERROR"

/-- The code of a name. -/
def ofName? (name : String) : Option ErrorCode := all.find? (·.name == name)

/-- A code is found by its name. -/
theorem ofName?_name (code : ErrorCode) : ofName? code.name = some code := by
  cases code <;> decide

/-- The class of a code. -/
def errorClass : ErrorCode → ErrorClass
  | .required | .invalidType | .unrecognizedKeys | .fieldNotFound => .structural
  | .enumMismatch => .enumMismatch
  | .ruleBroken => .ruleBroken
  | .ruleFailed => .ruleFailed
  | .system => .system
  | _ => .constraint

end ErrorCode

/-! ## Issues and details -/

/-- What is told of one fault in data. -/
structure Detail where
  /-- Where the fault is. -/
  path : DataPath
  /-- What the fault is. -/
  code : ErrorCode
  /-- The fault in words. -/
  message : String
  /-- The offending value, null if it is not told. -/
  value : Value
  /-- What was expected. -/
  expected : Option String
  /-- More about the fault. -/
  context : Option (List (String × Value))

/-- A failed check. -/
structure Issue extends Detail where
  /-- The value must not be shown. -/
  secret : Bool

/-- What is shown in place of a secret. -/
def redactedText : String := "***REDACTED***"

namespace Issue

/-- What is told of an issue: a secret value is replaced, null staying null. -/
def detail (issue : Issue) : Detail :=
  { issue.toDetail with
    value := if issue.secret && !issue.value.isNull then .text redactedText else issue.value }

/-- The detail of a secret issue shows null or the replacement. -/
theorem value_detail_of_secret {issue : Issue} (h : issue.secret = true) :
    issue.detail.value = .null ∨ issue.detail.value = .text redactedText := by
  cases null : issue.value.isNull with
  | false => exact .inr (by simp [detail, h, null])
  | true =>
    refine .inl ?_
    simp only [detail, h, null, Bool.not_true, Bool.and_false, Bool.false_eq_true, if_false]
    cases value : issue.value with
    | null => rfl
    | _ => rw [value] at null; cases null

end Issue

end Intake
