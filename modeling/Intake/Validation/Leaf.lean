import Intake.Json.Reader
import Intake.Json.Writer
import Intake.JsonSchema.Check
import Intake.Pattern.Matching
import Intake.Text.Casing
import Intake.Text.Composition
import Intake.Validation.Issue
import Intake.Validation.Temporal
import Intake.Value.Equality

/-!
# Checks of values without parts

Each rule for a value finds all that is wrong with it, in a fixed order, and makes an output of what
is accepted. Constraints look at the value as it was given; transforms and readings of dates only
shape the output. Main statement: a rule that no bound and no format restricts finds nothing wrong
with a text.
-/

namespace Intake

/-- A text after a transform. -/
def Transform.applyTo (t : Transform) (s : String) : String :=
  match t with
  | .trim => trimText s
  | .lowercase => lowerText s
  | .uppercase => upperText s
  | .normalize => normalizeText s

/-- An integer in a message. -/
def shownInt (n : Int) : String := String.ofList (integerText n)

/-- A bound in a message: a whole one as an integer. -/
def shownBound (x : Binary64) : String :=
  match if x.isIntegral then x.truncate? else none with
  | some n => shownInt n
  | none => String.ofList (x.text messageLayout)

/-- Whether a value is one of several. -/
def isMember (v : Value) (values : List Value) : Bool := values.any v.sameAs

/-- Values in a message, separated by commas. -/
def listedValues (values : List Value) : String := ", ".intercalate (values.map Value.plainText)

/-- The issue of a value that is none of the enumerated ones. -/
def Site.choiceIssue (site : Site) (value : Value) (values : List Value) : Issue :=
  site.issueWith .enumMismatch .enum (site.label ++ " must be one of: " ++ listedValues values)
    value (listedValues values) [("allowed", .list values)]

/-- A finite number. -/
def Value.finite? : Value → Option Number
  | .number n => if n.isFinite then some n else none
  | _ => none

/-- A text. -/
def Value.text? : Value → Option String
  | .text s => some s
  | _ => none

namespace TextRule

/-- What is wrong with a text that is too short. -/
def shortIssue (site : Site) (least : Int) (confidential : Bool) (s : String) : Issue :=
  site.issue .tooSmall .minLength
    (if confidential && least == 1 then site.label ++ " cannot be empty"
      else site.label ++ " must be at least " ++ shownInt least ++ " characters long")
    (.text s) (">= " ++ shownInt least ++ " characters")

/-- What is wrong with a text that is too long. -/
def longIssue (site : Site) (greatest : Int) (s : String) : Issue :=
  site.issue .tooBig .maxLength
    (site.label ++ " must be at most " ++ shownInt greatest ++ " characters long") (.text s)
    ("<= " ++ shownInt greatest ++ " characters")

/-- What is wrong with a text in which a pattern is not found. -/
def patternIssue (site : Site) (pattern : String) (s : String) : Issue :=
  site.issue .patternMismatch .pattern (site.label ++ " does not match required pattern")
    (.text s) pattern

/-- What is wrong with a text that does not have its format. -/
def formatIssue (site : Site) (format : TextFormat) (s : String) : Issue :=
  site.issue .invalidFormat .format (site.label ++ " must be " ++ format.description) (.text s)
    format.name

/-- What is wrong with a text by its pattern. -/
def patternIssues (rule : TextRule) (site : Site) (s : String) : Except Failure (List Issue) :=
  match rule.pattern with
  | some (text, pattern) =>
    match pattern.searchIn s with
    | .found => .ok []
    | .absent => .ok [patternIssue site text s]
    | .crossed => .error .crossedGroup
  | none => .ok []

/-- What is wrong with a text: length, pattern and format, in this order. -/
def issues (rule : TextRule) (site : Site) (s : String) : Except Failure (List Issue) := do
  let byPattern ← rule.patternIssues site s
  return (match rule.minLength with
    | some least => issueIf (s.length < least) (shortIssue site least rule.confidential s)
    | none => []) ++
  (match rule.maxLength with
    | some greatest => issueIf (greatest < s.length) (longIssue site greatest s)
    | none => []) ++
  byPattern ++
  (match rule.format with
    | some format => issueIf (!format.accepts s) (formatIssue site format s)
    | none => [])

/-- A rule that asks for nothing finds nothing wrong. -/
theorem issues_eq_nil (site : Site) (s : String) (confidential : Bool) :
    issues ⟨none, none, none, none, confidential⟩ site s = .ok [] := rfl

end TextRule

/-- The output of a text: transformed, unless the options turn transforms off. -/
def Site.shape (site : Site) (transform : Option Transform) (s : String) : String :=
  match transform with
  | some t => if site.options.transform then t.applyTo s else s
  | none => s

namespace NumberRule

/-- What is wrong with a number: the bounds, a fraction and the decimal places, in this order. -/
def issues (rule : NumberRule) (site : Site) (n : Number) : List Issue :=
  let value := Value.number n
  (match rule.minimum with
    | some least =>
      issueIf (n.lessThan (.float least))
        (site.issue .tooSmall .minimum (site.label ++ " must be at least " ++ shownBound least)
          value (">= " ++ shownBound least))
    | none => []) ++
  (match rule.maximum with
    | some greatest =>
      issueIf ((Number.float greatest).lessThan n)
        (site.issue .tooBig .maximum (site.label ++ " must be at most " ++ shownBound greatest)
          value ("<= " ++ shownBound greatest))
    | none => []) ++
  issueIf (rule.integer && !n.isIntegral)
    (site.issue .notInteger .integer (site.label ++ " must be an integer") value "integer") ++
  (match rule.precision with
    | some places =>
      issueIf (places < n.decimalPlaces)
        (site.issue .tooPrecise .precision
          (site.label ++ " must have at most " ++ shownInt places ++ " decimal places") value
          ("<= " ++ shownInt places ++ " decimal places"))
    | none => [])

end NumberRule

/-- The indices of items whose canonical texts occur before, where the texts seen are given. -/
def repeatedFrom (seen : List (List Char)) (i : Nat) : List Value → List Nat
  | [] => []
  | v :: rest =>
    let key := Json.canonical v
    if seen.contains key then i :: repeatedFrom seen (i + 1) rest
    else repeatedFrom (key :: seen) (i + 1) rest

/-- The indices of items that occur before. -/
def repeatedIndices (items : List Value) : List Nat := repeatedFrom [] 0 items

namespace ListRule

/-- What is wrong with the number of items. -/
def sizeIssues (rule : ListRule) (site : Site) (size : Nat) : List Issue :=
  (match rule.minItems with
    | some least =>
      issueIf (size < least)
        (site.issueWith .tooSmall .minItems
          (site.label ++ " must contain at least " ++ shownInt least ++ " items") .null
          (">= " ++ shownInt least ++ " items") [("size", .int size)])
    | none => []) ++
  (match rule.maxItems with
    | some greatest =>
      issueIf (greatest < size)
        (site.issueWith .tooBig .maxItems
          (site.label ++ " must contain at most " ++ shownInt greatest ++ " items") .null
          ("<= " ++ shownInt greatest ++ " items") [("size", .int size)])
    | none => [])

/-- What is wrong with items that must differ and do not. -/
def repetitionIssues (rule : ListRule) (site : Site) (items : List Value) : List Issue :=
  if rule.unique then
    let repeated := repeatedIndices items
    issueIf (!repeated.isEmpty)
      (site.issueWith .notUnique .uniqueItems
        (site.label ++ " must not contain duplicate items") .null "unique items"
        [("duplicates", .list (repeated.map fun i : Nat => .int i))])
  else []

end ListRule

namespace DateRange

/-- What is wrong with a date that lies outside its range. -/
def issues {α : Type} (range : DateRange α) (isBefore : α → α → Bool) (site : Site) (value : Value)
    (date : α) : List Issue :=
  (match range.earliest with
    | some bound =>
      issueIf (isBefore date bound.value)
        (site.issue .tooSmall .minDate (site.label ++ " must not be before " ++ bound.text) value
          (">= " ++ bound.text))
    | none => []) ++
  (match range.latest with
    | some bound =>
      issueIf (isBefore bound.value date)
        (site.issue .tooBig .maxDate (site.label ++ " must not be after " ++ bound.text) value
          ("<= " ++ bound.text))
    | none => [])

end DateRange

namespace TimezoneRule

/-- What a point in time was asked to be, if it is not. -/
def broken? (rule : TimezoneRule) (t : DateTime) : Option String :=
  match rule, t.time.offset with
  | .optional, _ => none
  | .required, some _ => none
  | .required, none => some "timezone-aware"
  | .utcOnly, some offset => if offset = 0 then none else some "in UTC"
  | .utcOnly, none => some "in UTC"

end TimezoneRule

namespace FileRule

/-- What is wrong with a file of a size and a type. -/
def issues (rule : FileRule) (site : Site) (size : Number) (type : String) : List Issue :=
  (match rule.maxSize with
    | some greatest =>
      issueIf ((Number.int greatest).lessThan size)
        (site.issue .fileTooLarge .maxFileSize
          (site.label ++ " file size must not exceed " ++ shownInt greatest ++ " bytes")
          (.number size) ("<= " ++ shownInt greatest ++ " bytes"))
    | none => []) ++
  (match rule.types with
    | some types =>
      issueIf (!types.contains type)
        (site.issue .mimeTypeNotAllowed .mimeType
          (site.label ++ " must be one of the allowed file types: " ++ ", ".intercalate types)
          (.text type) (", ".intercalate types))
    | none => [])

/-- The size and the type of a file that a value describes: a record with a name, a size and a
type. -/
def parts? (v : Value) : Option (Number × String) := do
  let _ ← (← v.get? "name").text?
  let size ← (← v.get? "size").finite?
  let type ← (← v.get? "type").text?
  return (size, type)

end FileRule

/-- What is wrong with a value that breaks its JSON Schema. -/
def schemaIssue (site : Site) (value : Value) (first : JsonSchema.Violation)
    (all : List JsonSchema.Violation) : Issue :=
  site.issueWith .invalidJson .json
    (site.label ++ " does not match its JSON Schema: " ++ first.message) value
    "json matching schema"
    [("errors", .list (all.map fun violation =>
      .record
        [("path", .texts (violation.path.map fun segment => String.ofList segment.text)),
         ("message", .text violation.message)]))]

/-- The check of what a value holds against a JSON Schema, where there is one. What was read from a
text has one thing that is no number. -/
def checkSchema (site : Site) (schema : Option Value) (isRead : Bool) (value part : Value) :
    Except Failure Outcome :=
  match schema with
  | none => .ok (.accept value)
  | some schema =>
    match JsonSchema.violations schema isRead part with
    | .error failure => .error failure
    | .ok [] => .ok (.accept value)
    | .ok (first :: rest) => .ok (.reject value (schemaIssue site value first (first :: rest)))

namespace LeafRule

/-- The check of a URL that has passed the checks of its text. -/
def checkUrl (site : Site) (protocols : Option (List String)) (s output : String) : Outcome :=
  match urlScheme? s with
  | none =>
    .reject (.text s)
      (site.issue .invalidUrl .url (site.label ++ " must be a valid URL") (.text s) "url")
  | some scheme =>
    match protocols with
    | none => .accept (.text output)
    | some allowed =>
      if allowed.contains scheme then .accept (.text output)
      else
        .reject (.text s)
          (site.issueWith .protocolNotAllowed .protocol
            (site.label ++ " must use one of the allowed protocols: " ++ ", ".intercalate allowed)
            (.text s) (", ".intercalate allowed) [("protocol", .text scheme)])

/-- The check of a value that must be a date. -/
def dateIssue (site : Site) (expected : String) (v : Value) : Issue :=
  site.issue .invalidDate .type (site.label ++ " must be a valid " ++ expected) v expected

/-- The check of a value by a rule. -/
def run (site : Site) (v : Value) : LeafRule → Except Failure Outcome
  | .text rule transform =>
    match v with
    | .text s => (rule.issues site s).map fun issues => ⟨.text (site.shape transform s), issues⟩
    | v => .ok (.reject v (site.typeIssue v "string"))
  | .url rule transform protocols =>
    match v with
    | .text s =>
      match rule.issues site s with
      | .ok [] => .ok (checkUrl site protocols s (site.shape transform s))
      | .ok issues => .ok ⟨v, issues⟩
      | .error failure => .error failure
    | v => .ok (.reject v (site.typeIssue v "string"))
  | .number rule =>
    match v.finite? with
    | some n => .ok ⟨v, rule.issues site n⟩
    | none => .ok (.reject v (site.typeIssue v "number"))
  | .boolean => .ok (if v.isBool then .accept v else .reject v (site.typeIssue v "boolean"))
  | .choice values =>
    .ok (if isMember v values then .accept v else .reject v (site.choiceIssue v values))
  | .anyList rule =>
    match v with
    | .list items =>
      match rule.sizeIssues site items.length with
      | [] => .ok ⟨v, rule.repetitionIssues site items⟩
      | issues => .ok ⟨v, issues⟩
    | v => .ok (.reject v (site.typeIssue v "array"))
  | .anyRecord =>
    match v with
    | .record entries => .ok (.accept (.record entries))
    | v => .ok (.reject v (site.typeIssue v "object"))
  | .date range =>
    match v.date? with
    | some d => .ok ⟨.date d, range.issues Date.isBefore site v d⟩
    | none => .ok (.reject v (dateIssue site "date" v))
  | .dateTime range timezone =>
    match v.dateTime? with
    | some t =>
      match timezone.bind (·.broken? t) with
      | some wanted =>
        .ok (.reject v
          (site.issue .invalidTimezone .timezone (site.label ++ " must be " ++ wanted) v wanted))
      | none => .ok ⟨.dateTime t, range.issues DateTime.isBefore site v t⟩
    | none => .ok (.reject v (dateIssue site "datetime" v))
  | .time =>
    match v with
    | .time t => .ok (.accept (.text (String.ofList t.isoText)))
    | v =>
      if (v.text?.map isClockTimeText).getD false then .ok (.accept v)
      else
        .ok (.reject v
          (site.issue .invalidTime .time (site.label ++ " must be in HH:MM or HH:MM:SS format") v
            "HH:MM[:SS]"))
  | .file rule =>
    match FileRule.parts? v with
    | some (size, type) => .ok ⟨v, rule.issues site size type⟩
    | none =>
      .ok (.reject v
        (site.issue .invalidType .type (site.label ++ " must be a file with name, size and type")
          .null "file"))
  | .json schema =>
    match v with
    | .text s =>
      match Json.read? s with
      | some part => checkSchema site schema true v part
      | none =>
        .ok (.reject v
          (site.issue .invalidJson .json (site.label ++ " must be valid JSON") v "json"))
    | v => checkSchema site schema false v v

end LeafRule

end Intake
