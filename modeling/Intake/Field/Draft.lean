import Intake.Calendar.Iso
import Intake.Field.Reader
import Intake.Field.Wire
import Intake.Value.Display

/-!
# Drafts of definitions

A draft collects the attributes of a definition step by step, as plain values under their plain
names; they are read when the draft is built, so a step that makes no sense is told then. Only
choices and lists are looked at when a step is taken. A definition inside a draft stands in its plain
form. Main statement: the attribute that a step sets is the one the draft holds.
-/

namespace Intake

/-- Why a step cannot be taken. -/
inductive DraftFault where
  /-- A value is none of the names of a choice. -/
  | notAMember (value : Value) (choice : String)
  /-- A value has no items. -/
  | noItems (value : Value)

namespace DraftFault

/-- The kind of a fault. -/
def kind : DraftFault → String
  | .notAMember _ _ => "ValueError"
  | .noItems _ => "TypeError"

/-- A fault in words. -/
def message : DraftFault → String
  | .notAMember value choice => value.fullText ++ " is not a valid " ++ choice
  | .noItems value => "'" ++ value.operandName ++ "' object is not iterable"

end DraftFault

/-- The attributes of a definition in the making. -/
structure Draft where
  /-- The attributes by their plain names. -/
  attributes : List (String × Value)

/-- A step on the way to a definition. -/
inductive DraftStep where
  /-- The value must be there. -/
  | required
  /-- The value may be absent. -/
  | optional
  /-- What the field is for. -/
  | description (text : Value)
  /-- The value that stands for an absent one. -/
  | fallback (value : Value)
  /-- An example of a value. -/
  | sample (value : Value)
  /-- The value is sensitive. -/
  | sensitive
  /-- The value is to be sanitized. -/
  | sanitize
  /-- What happens to a text after the checks. -/
  | transform (name : Value)
  /-- The least length of a text. -/
  | minLength (length : Value)
  /-- The greatest length of a text. -/
  | maxLength (length : Value)
  /-- A pattern that must be found in a text. -/
  | pattern (pattern : Value)
  /-- The format of a text. -/
  | format (name : Value)
  /-- The least number. -/
  | minimum (bound : Value)
  /-- The greatest number. -/
  | maximum (bound : Value)
  /-- The number must be whole. -/
  | integer
  /-- How many decimal places a number may need. -/
  | precision (places : Value)
  /-- Names for the enumerated values. -/
  | labels (names : Value)
  /-- The least number of items. -/
  | minItems (count : Value)
  /-- The greatest number of items. -/
  | maxItems (count : Value)
  /-- The items must differ. -/
  | unique
  /-- Properties that must be there. -/
  | requiredProperties (names : Value)
  /-- Whether other properties may be there. -/
  | additionalProperties (allowed : Value)
  /-- The earliest date. -/
  | minDate (bound : Value)
  /-- The latest date. -/
  | maxDate (bound : Value)
  /-- What a point in time says about its offset. -/
  | timezone (name : Value)
  /-- The types of a file. -/
  | mimeTypes (types : Value)
  /-- The greatest size of a file. -/
  | maxSize (bytes : Value)
  /-- The value is secret. -/
  | secret
  /-- The environment variable that holds the value. -/
  | envVar (name : Value)
  /-- The group of configuration the field belongs to. -/
  | category (name : Value)
  /-- The value may be replaced while the program runs. -/
  | allowRuntimeOverride
  /-- A message that replaces those of the rules. -/
  | errorMessage (message : Value)
  /-- A pattern, as a rule of a configuration field. -/
  | rulePattern (pattern : Value)
  /-- The least number or length, as a rule of a configuration field. -/
  | ruleMinimum (bound : Value)
  /-- The greatest number or length, as a rule of a configuration field. -/
  | ruleMaximum (bound : Value)
  /-- The schemes that a URL may have. -/
  | protocols (schemes : Value)
  /-- A JSON Schema for the value. -/
  | jsonSchema (schema : Value)

namespace Draft

/-- A draft with an attribute set. -/
def set (draft : Draft) (name : String) (value : Value) : Draft :=
  ⟨insertEntry name value draft.attributes⟩

/-- The rules that a draft holds. -/
def rules (draft : Draft) : List (String × Value) :=
  match draft.attributes.lookup "validation" with
  | some (.record entries) => entries
  | _ => []

/-- A draft with a rule set. -/
def setRule (draft : Draft) (name : String) (value : Value) : Draft :=
  draft.set "validation" (.record (insertEntry name value draft.rules))

/-- An attribute that was set is the one the draft holds. -/
theorem lookup_set (draft : Draft) (name : String) (value : Value) :
    (draft.set name value).attributes.lookup name = some value :=
  lookup_insertEntry name value draft.attributes

/-- The items of a value: those of a list, the characters of a text, the keys of a record. -/
def itemsOf : Value → Except DraftFault Value
  | .list items => .ok (.list items)
  | .text s => .ok (.list (s.toList.map fun c => .text (String.singleton c)))
  | .record entries => .ok (.list (entries.map fun entry => .text entry.1))
  | v => .error (.noItems v)

/-- A value that must be a name of a choice. -/
def member {α : Type} (ofName? : String → Option α) (choice : String) (v : Value) :
    Except DraftFault Value :=
  match v with
  | .text s => if (ofName? s).isSome then .ok v else .error (.notAMember v choice)
  | _ => .error (.notAMember v choice)

/-- A date as the text that declares it. -/
def boundText : Value → Value
  | .date d => .text (String.ofList d.isoText)
  | .dateTime t => .text (String.ofList t.isoText)
  | v => v

/-- A draft of a field of a kind. -/
def ofKind (kind : FieldKind) : Draft := ⟨[("type", .text kind.name)]⟩

/-- A draft of a field with enumerated values. -/
def enumeration (values : Value) : Except DraftFault Draft :=
  (itemsOf values).map ((ofKind .enumeration).set "values")

/-- A draft of a list, whose items have a definition or not. -/
def array (items : Value) : Draft :=
  if items.isNull then ofKind .array else (ofKind .array).set "items" items

/-- A draft of a record, whose properties have definitions or not. -/
def object (properties : Value) : Draft :=
  if properties.isNull then ofKind .object else (ofKind .object).set "properties" properties

/-- A draft of a key or a secret of a configuration. -/
def confidential (kind : FieldKind) : Draft := (ofKind kind).set "secret" (.bool true)

/-- A draft of a configuration field with enumerated values. -/
def configEnumeration (values : Value) : Except DraftFault Draft :=
  (itemsOf values).map fun items => (ofKind .enumeration).setRule "enum" items

/-- A draft of a text that is an address of mail; it is written in small letters. -/
def email : Draft :=
  ((ofKind .string).set "format" (.text "email")).set "transform" (.text "lowercase")

/-- A draft of a text with a format. -/
def formatted (format : TextFormat) : Draft :=
  (ofKind .string).set "format" (.text format.name)

/-- A draft after a step. -/
def take (draft : Draft) : DraftStep → Except DraftFault Draft
  | .required => .ok (draft.set "required" (.bool true))
  | .optional => .ok (draft.set "required" (.bool false))
  | .description text => .ok (draft.set "description" text)
  | .fallback value => .ok ((draft.set "default" value).set "required" (.bool false))
  | .sample value => .ok (draft.set "example" value)
  | .sensitive => .ok (draft.set "sensitive" (.bool true))
  | .sanitize => .ok (draft.set "sanitize" (.bool true))
  | .transform name =>
    (member Transform.ofName? "Transform" name).map (draft.set "transform")
  | .minLength length => .ok (draft.set "min_length" length)
  | .maxLength length => .ok (draft.set "max_length" length)
  | .pattern pattern => .ok (draft.set "pattern" pattern)
  | .format name => (member TextFormat.ofName? "StringFormat" name).map (draft.set "format")
  | .minimum bound => .ok (draft.set "min" bound)
  | .maximum bound => .ok (draft.set "max" bound)
  | .integer => .ok (draft.set "integer" (.bool true))
  | .precision places => .ok (draft.set "precision" places)
  | .labels names => (itemsOf names).map (draft.set "labels")
  | .minItems count => .ok (draft.set "min_items" count)
  | .maxItems count => .ok (draft.set "max_items" count)
  | .unique => .ok (draft.set "unique_items" (.bool true))
  | .requiredProperties names => (itemsOf names).map (draft.set "required_properties")
  | .additionalProperties allowed => .ok (draft.set "additional_properties" allowed)
  | .minDate bound => .ok (draft.set "min_date" (boundText bound))
  | .maxDate bound => .ok (draft.set "max_date" (boundText bound))
  | .timezone name =>
    (member TimezoneRule.ofName? "TimezoneRequirement" name).map (draft.set "timezone")
  | .mimeTypes types => (itemsOf types).map (draft.set "allowed_mime_types")
  | .maxSize bytes => .ok (draft.set "max_file_size" bytes)
  | .secret => .ok (draft.set "secret" (.bool true))
  | .envVar name => .ok (draft.set "env_var" name)
  | .category name => .ok (draft.set "category" name)
  | .allowRuntimeOverride => .ok (draft.set "allow_runtime_override" (.bool true))
  | .errorMessage message => .ok (draft.setRule "error_message" message)
  | .rulePattern pattern => .ok (draft.setRule "pattern" pattern)
  | .ruleMinimum bound => .ok (draft.setRule "min" bound)
  | .ruleMaximum bound => .ok (draft.setRule "max" bound)
  | .protocols schemes => (itemsOf schemes).map (draft.setRule "allowed_protocols")
  | .jsonSchema schema => .ok (draft.setRule "json_schema" schema)

/-- A draft after several steps. -/
def takeAll (draft : Draft) (steps : List DraftStep) : Except DraftFault Draft :=
  steps.foldlM take draft

/-- The definition that a draft declares. -/
def build (draft : Draft) : Reading Definition := Definition.read (.record draft.attributes)

end Draft

end Intake
