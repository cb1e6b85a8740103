import Intake.Field.Bounds
import Intake.Value.Path

/-!
# Describing fields

A definition is described by a fragment of JSON Schema, with some keywords of its own for what JSON
Schema has no word for. The bounds and the enumerated values told are those in force. Of a secret
field neither the fallback nor the example is told. Main statement: the description of a secret
field does not depend on them.
-/

namespace Intake

/-- The type of a kind's values in transport. -/
def FieldKind.wireType : FieldKind → String
  | .number => "number"
  | .boolean => "boolean"
  | .array => "array"
  | .object | .file | .json => "object"
  | _ => "string"

/-- The format of a kind's values in transport. -/
def FieldKind.wireFormat : FieldKind → Option String
  | .date => some "date"
  | .dateTime => some "date-time"
  | .time => some "time"
  | .url => some "uri"
  | .apiKey | .secret => some "password"
  | _ => none

/-- The keyword of an attribute, if it has a value. -/
def keywordOf {α : Type} (name : String) (write : α → Value) : Option α → List (String × Value)
  | some value => [(name, write value)]
  | none => []

/-- A keyword that is told only if something holds. -/
def keywordIf (condition : Bool) (name : String) (value : Value) : List (String × Value) :=
  if condition then [(name, value)] else []

/-- Texts, if there are any. -/
def someTexts (texts : Option (List String)) : Option (List String) :=
  texts.filter (!·.isEmpty)

/-- A text, if it is not empty. -/
def someText (text : Option String) : Option String := text.filter (· ≠ "")

/-- The step between numbers of so many decimal places. -/
def placesStep (places : Int) : Except Failure Value :=
  if places ≤ 0 then .ok (.int (Nat.pow 10 places.natAbs : Nat))
  else if places < 400 then .ok (.float (.ofDecimal false 1 (-places)))
  else if (Number.int places).toBinary64?.isNone then .error .integerTooLarge
  else .ok (.float (.zero false))

namespace FieldAttributes

/-- The type told of a field. -/
def wireType (a : FieldAttributes) : String :=
  if a.kind = .number && a.integer.getD false then "integer" else a.kind.wireType

/-- The kind of a field is one of texts with lengths, patterns and formats. -/
def isTextual (a : FieldAttributes) : Bool :=
  match a.kind with
  | .string | .url | .apiKey | .secret => true
  | _ => false

/-- The format told of a field: the declared one of a text, or the one of the kind. -/
def wireFormat (a : FieldAttributes) : Option String :=
  (if a.isTextual then a.format.value?.map (·.name) else none).or a.kind.wireFormat

/-- What is told of all fields. -/
def generalKeywords (a : FieldAttributes) : List (String × Value) :=
  [("type", .text a.wireType)] ++ keywordOf "format" .text a.wireFormat ++
    keywordOf "description" .text (someText a.description.value?) ++
    if a.isSecret then []
    else keywordOf "example" id a.sample ++ keywordOf "default" id a.fallback

/-- What is told of texts. -/
def textKeywords (a : FieldAttributes) : Except Failure (List (String × Value)) := do
  let least ← a.leastLength
  let greatest ← a.greatestLength
  return keywordOf "minLength" .int least ++ keywordOf "maxLength" .int greatest ++
    keywordOf "pattern" .text a.searchText ++ keywordOf "x-allowed-protocols" .texts a.protocols

/-- What is told of numbers. -/
def numberKeywords (a : FieldAttributes) : Except Failure (List (String × Value)) := do
  let step ← match a.precision.value? with
    | some places => (placesStep places).map some
    | none => .ok none
  return keywordOf "minimum" .float a.leastNumber ++
    keywordOf "maximum" .float a.greatestNumber ++ keywordOf "multipleOf" id step

/-- What is told of lists, their items apart. -/
def listKeywords (a : FieldAttributes) : List (String × Value) :=
  keywordOf "minItems" .int a.minItems.value? ++ keywordOf "maxItems" .int a.maxItems.value? ++
    keywordIf (a.uniqueItems.getD false) "uniqueItems" (.bool true)

/-- The enumerated values and their names, which are not told of lists. -/
def choiceKeywords (a : FieldAttributes) : List (String × Value) :=
  if a.kind = .array then []
  else
    match a.choices with
    | none => []
    | some values =>
      ("enum", .list values) ::
        keywordOf "x-enum-labels" .texts (someTexts a.labels.value?)

/-- What is told of dates. -/
def dateKeywords (a : FieldAttributes) : List (String × Value) :=
  keywordOf "x-min-date" .text (someText a.minDate.value?) ++
    keywordOf "x-max-date" .text (someText a.maxDate.value?) ++
    keywordOf "x-timezone" (fun rule : TimezoneRule => .text rule.name) a.timezone.value?

/-- What is told of files. -/
def fileKeywords (a : FieldAttributes) : List (String × Value) :=
  [("properties", .record
      [("name", .record [("type", .text "string")]),
       ("size", .record [("type", .text "integer"), ("minimum", .int 0)]),
       ("type", .record [("type", .text "string")])]),
    ("required", .texts ["name", "size", "type"])] ++
    keywordOf "x-allowed-mime-types" .texts (someTexts a.allowedMimeTypes.value?) ++
    keywordOf "x-max-file-size" .int a.maxFileSize.value?

/-- What is told of JSON. -/
def jsonKeywords (a : FieldAttributes) : List (String × Value) :=
  keywordOf "x-json-schema" .record
    ((a.rules?.bind (·.jsonSchema.value?)).filter (!·.isEmpty))

/-- What is told of a field by its kind, its parts apart. -/
def kindKeywords (a : FieldAttributes) : Except Failure (List (String × Value)) :=
  match a.kind with
  | .string | .url | .apiKey | .secret => a.textKeywords
  | .number => a.numberKeywords
  | .array => .ok a.listKeywords
  | .date | .dateTime => .ok a.dateKeywords
  | .file => .ok a.fileKeywords
  | .json => .ok a.jsonKeywords
  | _ => .ok []

/-- The general keywords of a secret field say nothing of its example and its fallback. -/
theorem generalKeywords_of_secret {a : FieldAttributes} (h : a.isSecret = true)
    (sample fallback : Option Value) :
    { a with sample := sample, fallback := fallback }.generalKeywords = a.generalKeywords := by
  have h' : { a with sample := sample, fallback := fallback }.isSecret = true := h
  simp only [generalKeywords, h, h', if_true]
  rfl

end FieldAttributes

/-- Properties that are told to be required: those that say so and those that their record
names. -/
def requiredNames (a : FieldAttributes) (properties : List (String × Definition)) : List String :=
  (properties.filter fun (name, d) =>
    d.isRequired || (a.requiredProperties.value?.getD []).contains name).map (·.1)

namespace Definition

mutual

/-- A field described. -/
def describe (d : Definition) : Except Failure Value :=
  match d with
  | ⟨a, items, properties⟩ => do
    let own ← a.kindKeywords
    let parts ← match a.kind with
      | .array => describeItems items
      | .object => describeProperties a properties
      | _ => .ok []
    return .record (a.generalKeywords ++ parts ++ own ++ a.choiceKeywords)

/-- What is told of the items of a list. -/
def describeItems (items : Slot Definition) : Except Failure (List (String × Value)) :=
  match items with
  | .of item => item.describe.map fun fragment => [("items", fragment)]
  | _ => .ok []

/-- What is told of the properties of a record. -/
def describeProperties (a : FieldAttributes) (properties : Slot (List (String × Definition))) :
    Except Failure (List (String × Value)) :=
  match properties with
  | .of definitions => do
    let fragments ← describeFields definitions
    let required := requiredNames a definitions
    return [("properties", .record fragments)] ++
      keywordIf (!required.isEmpty) "required" (.texts required) ++
      [("additionalProperties", .bool (a.additionalProperties.getD false))]
  | _ => .ok []

/-- Fields described by name. -/
def describeFields (fields : List (String × Definition)) :
    Except Failure (List (String × Value)) :=
  match fields with
  | [] => .ok []
  | (name, d) :: rest => do
    let fragment ← d.describe
    let others ← describeFields rest
    return (name, fragment) :: others

end

end Definition

end Intake
