import Intake.Field.Kind
import Intake.Value.Basic

/-!
# Field definitions

A definition declares what values a field holds. Each of its attributes may be left out or declared,
and many may be declared null; what was declared is remembered, so that a definition can be written
down again as it was. Attributes of all kinds stand side by side; the kind decides which of them
count.
-/

namespace Intake

/-- An attribute that a declaration may leave out or set to null. -/
inductive Slot (α : Type) where
  /-- The attribute is left out. -/
  | undeclared
  /-- The attribute is declared null. -/
  | null
  /-- The attribute is declared with a value. -/
  | of (value : α)

namespace Slot

/-- The value of an attribute, if it has one. -/
def value? {α : Type} : Slot α → Option α
  | .of value => some value
  | _ => none

/-- Whether an attribute is declared. -/
def isDeclared {α : Type} : Slot α → Bool
  | .undeclared => false
  | _ => true

/-- An attribute with its value replaced. -/
def map {α β : Type} (f : α → β) : Slot α → Slot β
  | .undeclared => .undeclared
  | .null => .null
  | .of value => .of (f value)

/-- The value of an attribute after a map. -/
theorem value?_map {α β : Type} (f : α → β) (s : Slot α) : (s.map f).value? = s.value?.map f := by
  cases s <;> rfl

end Slot

/-- Rules for values of configuration fields. -/
structure ConfigRules where
  /-- The least number or length. -/
  minimum : Slot Binary64
  /-- The greatest number or length. -/
  maximum : Slot Binary64
  /-- A pattern that must be found in the text. -/
  pattern : Slot String
  /-- The enumerated values. -/
  values : Slot (List Value)
  /-- The schemes that a URL may have. -/
  allowedProtocols : Slot (List String)
  /-- A message that replaces those of the rules. -/
  errorMessage : Slot String
  /-- A JSON Schema for the value. -/
  jsonSchema : Slot (List (String × Value))

/-- The attributes of a field apart from the definitions inside it. -/
structure FieldAttributes where
  /-- The kind of value. -/
  kind : FieldKind
  /-- The value must be there. -/
  required : Option Bool
  /-- The value that stands for an absent one. -/
  fallback : Option Value
  /-- An example of a value. -/
  sample : Option Value
  /-- What the field is for. -/
  description : Slot String
  /-- The value is sensitive. -/
  sensitive : Option Bool
  /-- The value is to be sanitized. -/
  sanitize : Option Bool
  /-- What happens to a text after the checks. -/
  transform : Slot Transform
  /-- The least length of a text. -/
  minLength : Slot Int
  /-- The greatest length of a text. -/
  maxLength : Slot Int
  /-- A pattern that must be found in a text. -/
  pattern : Slot String
  /-- The format of a text. -/
  format : Slot TextFormat
  /-- The least number. -/
  minimum : Slot Binary64
  /-- The greatest number. -/
  maximum : Slot Binary64
  /-- The number must be whole. -/
  integer : Option Bool
  /-- How many decimal places a number may need. -/
  precision : Slot Int
  /-- The enumerated values. -/
  values : Slot (List Value)
  /-- Names for the enumerated values. -/
  labels : Slot (List String)
  /-- The least number of items. -/
  minItems : Slot Int
  /-- The greatest number of items. -/
  maxItems : Slot Int
  /-- The items must differ. -/
  uniqueItems : Option Bool
  /-- Properties that must be there. -/
  requiredProperties : Slot (List String)
  /-- Other properties may be there. -/
  additionalProperties : Option Bool
  /-- The earliest date. -/
  minDate : Slot String
  /-- The latest date. -/
  maxDate : Slot String
  /-- What a point in time says about its offset. -/
  timezone : Slot TimezoneRule
  /-- The types of a file. -/
  allowedMimeTypes : Slot (List String)
  /-- The greatest size of a file in bytes. -/
  maxFileSize : Slot Int
  /-- The value is secret. -/
  secret : Option Bool
  /-- The environment variable that holds the value. -/
  envVar : Slot String
  /-- The group of configuration the field belongs to. -/
  category : Slot String
  /-- The value may be replaced while the program runs. -/
  allowRuntimeOverride : Option Bool
  /-- Rules for the value of a configuration field. -/
  rules : Slot ConfigRules

/-- The declaration of a field. -/
structure Definition where
  /-- The attributes. -/
  attributes : FieldAttributes
  /-- The definition of the items of a list. -/
  items : Slot Definition
  /-- The definitions of the properties of a record, in order. -/
  properties : Slot (List (String × Definition))

/-- Definitions by name, in order of declaration. -/
abbrev FieldMap := List (String × Definition)

namespace FieldAttributes

/-- The attributes of a field that declares its kind only. -/
def ofKind (kind : FieldKind) : FieldAttributes where
  kind := kind
  required := none
  fallback := none
  sample := none
  description := .undeclared
  sensitive := none
  sanitize := none
  transform := .undeclared
  minLength := .undeclared
  maxLength := .undeclared
  pattern := .undeclared
  format := .undeclared
  minimum := .undeclared
  maximum := .undeclared
  integer := none
  precision := .undeclared
  values := .undeclared
  labels := .undeclared
  minItems := .undeclared
  maxItems := .undeclared
  uniqueItems := none
  requiredProperties := .undeclared
  additionalProperties := none
  minDate := .undeclared
  maxDate := .undeclared
  timezone := .undeclared
  allowedMimeTypes := .undeclared
  maxFileSize := .undeclared
  secret := none
  envVar := .undeclared
  category := .undeclared
  allowRuntimeOverride := none
  rules := .undeclared

/-- Whether values of the field must never be shown. -/
def isSecret (a : FieldAttributes) : Bool :=
  a.secret.getD false || a.sensitive.getD false || a.kind.isConfigOnly

/-- Whether an absent value is a fault. -/
def isRequired (a : FieldAttributes) : Bool := a.required.getD false

/-- Whether a value for absent ones is declared, null included. -/
def hasFallback (a : FieldAttributes) : Bool := a.fallback.isSome

/-- Whether the field is validated as one of a configuration. -/
def isConfigField (a : FieldAttributes) : Bool :=
  a.kind.isConfigOnly || a.rules.value?.isSome

end FieldAttributes

namespace Definition

/-- The kind of value. -/
def kind (d : Definition) : FieldKind := d.attributes.kind

/-- Whether values of the field must never be shown. -/
def isSecret (d : Definition) : Bool := d.attributes.isSecret

/-- Whether an absent value is a fault. -/
def isRequired (d : Definition) : Bool := d.attributes.isRequired

/-- A definition that declares its kind only. -/
def ofKind (kind : FieldKind) : Definition := ⟨.ofKind kind, .undeclared, .undeclared⟩

end Definition

end Intake
