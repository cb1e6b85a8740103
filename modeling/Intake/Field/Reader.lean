import Intake.Declaration.Scalar
import Intake.Field.Definition
import Intake.Value.Size

/-!
# Reading field definitions

A definition is read from a record. An attribute may be written under its written name or its plain
one; what no attribute is called is passed over. A declared fallback makes the field optional,
whatever the record says of it.
-/

namespace Intake

/-- Reads an attribute that may be left out or null. -/
def readSlot {α : Type} (written plain : String) (reader : Reader α)
    (entries : List (String × Value)) : Reading (Slot α) :=
  match findAttribute written plain entries with
  | none => .read .undeclared
  | some (_, .null) => .read .null
  | some (key, v) => ((reader v).map .of).under (.key key)

/-- Reads an attribute that may be left out. -/
def readOption {α : Type} (written plain : String) (reader : Reader α)
    (entries : List (String × Value)) : Reading (Option α) :=
  match findAttribute written plain entries with
  | none => .read none
  | some (key, v) => ((reader v).map some).under (.key key)

/-- Reads an attribute that must be there. -/
def readNeeded {α : Type} (written plain : String) (reader : Reader α)
    (entries : List (String × Value)) : Reading α :=
  match findAttribute written plain entries with
  | none => (Reading.fault .missing).under (.key written)
  | some (key, v) => (reader v).under (.key key)

/-- Reads the rules of a configuration field. -/
def ConfigRules.read : Reader ConfigRules
  | .record entries =>
    ConfigRules.mk <$> readSlot "min" "min" Reader.float entries
      <*> readSlot "max" "max" Reader.float entries
      <*> readSlot "pattern" "pattern" Reader.text entries
      <*> readSlot "enum" "enum" (Reader.list Reader.any) entries
      <*> readSlot "allowedProtocols" "allowed_protocols" (Reader.list Reader.text) entries
      <*> readSlot "errorMessage" "error_message" Reader.text entries
      <*> readSlot "jsonSchema" "json_schema" Reader.anyRecord entries
  | _ => .fault .modelType

/-- Reads whether a field is required; a declared fallback makes it optional. -/
def readRequired (entries : List (String × Value)) : Reading (Option Bool) :=
  if (entries.lookup "default").isSome then .read (some false)
  else readOption "required" "required" Reader.bool entries

/-- Reads a definition whose inner definitions are read by a given reader. -/
def Definition.readWith (inner : Reader Definition) : Reader Definition
  | .record entries =>
    (fun kind required fallback sample description sensitive sanitize transform minLength maxLength
        pattern format minimum maximum integer precision values labels items minItems maxItems
        uniqueItems properties requiredProperties additionalProperties minDate maxDate timezone
        allowedMimeTypes maxFileSize secret envVar category allowRuntimeOverride rules =>
      Definition.mk
        ⟨kind, required, fallback, sample, description, sensitive, sanitize, transform, minLength,
          maxLength, pattern, format, minimum, maximum, integer, precision, values, labels,
          minItems, maxItems, uniqueItems, requiredProperties, additionalProperties, minDate,
          maxDate, timezone, allowedMimeTypes, maxFileSize, secret, envVar, category,
          allowRuntimeOverride, rules⟩ items properties)
      <$> readNeeded "type" "type" (Reader.choice FieldKind.ofName?) entries
      <*> readRequired entries
      <*> readOption "default" "default" Reader.any entries
      <*> readOption "example" "example" Reader.any entries
      <*> readSlot "description" "description" Reader.text entries
      <*> readOption "sensitive" "sensitive" Reader.bool entries
      <*> readOption "sanitize" "sanitize" Reader.bool entries
      <*> readSlot "transform" "transform" (Reader.choice Transform.ofName?) entries
      <*> readSlot "minLength" "min_length" Reader.int entries
      <*> readSlot "maxLength" "max_length" Reader.int entries
      <*> readSlot "pattern" "pattern" Reader.text entries
      <*> readSlot "format" "format" (Reader.choice TextFormat.ofName?) entries
      <*> readSlot "min" "min" Reader.float entries
      <*> readSlot "max" "max" Reader.float entries
      <*> readOption "integer" "integer" Reader.bool entries
      <*> readSlot "precision" "precision" Reader.int entries
      <*> readSlot "enum" "values" (Reader.list Reader.any) entries
      <*> readSlot "labels" "labels" (Reader.list Reader.text) entries
      <*> readSlot "items" "items" inner entries
      <*> readSlot "minItems" "min_items" Reader.int entries
      <*> readSlot "maxItems" "max_items" Reader.int entries
      <*> readOption "uniqueItems" "unique_items" Reader.bool entries
      <*> readSlot "properties" "properties" (Reader.record inner) entries
      <*> readSlot "requiredProperties" "required_properties" (Reader.list Reader.text) entries
      <*> readOption "additionalProperties" "additional_properties" Reader.bool entries
      <*> readSlot "minDate" "min_date" Reader.text entries
      <*> readSlot "maxDate" "max_date" Reader.text entries
      <*> readSlot "timezone" "timezone" (Reader.choice TimezoneRule.ofName?) entries
      <*> readSlot "allowedMimeTypes" "allowed_mime_types" (Reader.list Reader.text) entries
      <*> readSlot "maxFileSize" "max_file_size" Reader.int entries
      <*> readOption "secret" "secret" Reader.bool entries
      <*> readSlot "envVar" "env_var" Reader.text entries
      <*> readSlot "category" "category" Reader.text entries
      <*> readOption "allowRuntimeOverride" "allow_runtime_override" Reader.bool entries
      <*> readSlot "validation" "validation" ConfigRules.read entries
  | _ => .fault .modelType

/-- Reads a definition within a budget of definitions inside each other. -/
def Definition.readWithin : Nat → Reader Definition
  | 0, _ => .fault .modelType
  | budget + 1, v => readWith (readWithin budget) v

/-- Reads a definition. -/
def Definition.read : Reader Definition := fun v => readWithin v.depth v

/-- Reads definitions by name. -/
def FieldMap.read : Reader FieldMap := Reader.record Definition.read

/-- A value that is no record is no definition. -/
theorem Definition.read_text (s : String) : Definition.read (.text s) = .fault .modelType := rfl

end Intake
