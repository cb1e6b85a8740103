import Intake.Calendar.Iso
import Intake.Field.Definition

/-!
# The written form of definitions

A definition is written down as a record of the attributes it declares, under their written names.
For transport, the values inside it that may be anything are brought into JSON: dates and times
become texts, and doubles that are not finite become null. The plain form keeps them as they are.
Main statements: values without dates, times and such doubles are JSON already; so is what a value
is brought into.
-/

namespace Intake

namespace Value

mutual

/-- A value as JSON. -/
def jsonForm (v : Value) : Value :=
  match v with
  | .number (.float x) => if x.isFinite then v else .null
  | .list items => .list (itemsJsonForm items)
  | .record entries => .record (entriesJsonForm entries)
  | .date d => .text (String.ofList d.isoText)
  | .dateTime t => .text (String.ofList t.wireText)
  | .time t => .text (String.ofList t.wireText)
  | _ => v

/-- Items as JSON. -/
def itemsJsonForm (items : List Value) : List Value :=
  match items with
  | [] => []
  | item :: rest => jsonForm item :: itemsJsonForm rest

/-- Entries as JSON. -/
def entriesJsonForm (entries : List (String × Value)) : List (String × Value) :=
  match entries with
  | [] => []
  | (key, value) :: rest => (key, jsonForm value) :: entriesJsonForm rest

end

mutual

/-- Neither dates nor times nor doubles that are not finite occur in a value. -/
def isJson (v : Value) : Bool :=
  match v with
  | .number n => n.isFinite
  | .list items => itemsAreJson items
  | .record entries => entriesAreJson entries
  | .date _ | .dateTime _ | .time _ => false
  | _ => true

/-- All items are JSON. -/
def itemsAreJson (items : List Value) : Bool :=
  match items with
  | [] => true
  | item :: rest => isJson item && itemsAreJson rest

/-- All entries are JSON. -/
def entriesAreJson (entries : List (String × Value)) : Bool :=
  match entries with
  | [] => true
  | (_, value) :: rest => isJson value && entriesAreJson rest

end

mutual

/-- A JSON value is its own JSON form. -/
theorem jsonForm_of_isJson (v : Value) (h : v.isJson = true) : v.jsonForm = v := by
  match v with
  | .null | .bool _ | .text _ => rfl
  | .number (.int _) => rfl
  | .number (.float x) =>
    simp only [isJson, Number.isFinite] at h
    simp [jsonForm, h]
  | .list items =>
    simp only [isJson] at h
    simp [jsonForm, itemsJsonForm_of_itemsAreJson items h]
  | .record entries =>
    simp only [isJson] at h
    simp [jsonForm, entriesJsonForm_of_entriesAreJson entries h]

/-- JSON items are their own JSON form. -/
theorem itemsJsonForm_of_itemsAreJson (items : List Value) (h : itemsAreJson items = true) :
    itemsJsonForm items = items := by
  match items with
  | [] => rfl
  | item :: rest =>
    simp only [itemsAreJson, Bool.and_eq_true] at h
    simp [itemsJsonForm, jsonForm_of_isJson item h.1, itemsJsonForm_of_itemsAreJson rest h.2]

/-- JSON entries are their own JSON form. -/
theorem entriesJsonForm_of_entriesAreJson (entries : List (String × Value))
    (h : entriesAreJson entries = true) : entriesJsonForm entries = entries := by
  match entries with
  | [] => rfl
  | (key, value) :: rest =>
    simp only [entriesAreJson, Bool.and_eq_true] at h
    simp [entriesJsonForm, jsonForm_of_isJson value h.1,
      entriesJsonForm_of_entriesAreJson rest h.2]

end

mutual

/-- The JSON form of a value is JSON. -/
theorem isJson_jsonForm (v : Value) : v.jsonForm.isJson = true := by
  match v with
  | .null | .bool _ | .text _ | .number (.int _) | .date _ | .dateTime _ | .time _ => rfl
  | .number (.float x) =>
    rw [jsonForm]
    split
    · simpa only [isJson, Number.isFinite] using ‹x.isFinite = true›
    · rfl
  | .list items => simpa only [jsonForm, isJson] using itemsAreJson_itemsJsonForm items
  | .record entries => simpa only [jsonForm, isJson] using entriesAreJson_entriesJsonForm entries

/-- The JSON forms of items are JSON. -/
theorem itemsAreJson_itemsJsonForm (items : List Value) :
    itemsAreJson (itemsJsonForm items) = true := by
  match items with
  | [] => rfl
  | item :: rest =>
    simp only [itemsJsonForm, itemsAreJson, isJson_jsonForm item, itemsAreJson_itemsJsonForm rest,
      Bool.and_true]

/-- The JSON forms of entries are JSON. -/
theorem entriesAreJson_entriesJsonForm (entries : List (String × Value)) :
    entriesAreJson (entriesJsonForm entries) = true := by
  match entries with
  | [] => rfl
  | (key, value) :: rest =>
    simp only [entriesJsonForm, entriesAreJson, isJson_jsonForm value,
      entriesAreJson_entriesJsonForm rest, Bool.and_true]

end

end Value

/-- The entry that writes an attribute down, if it is declared. -/
def Slot.entry {α : Type} (name : String) (write : α → Value) : Slot α → List (String × Value)
  | .undeclared => []
  | .null => [(name, .null)]
  | .of value => [(name, write value)]

/-- The entry that writes down an attribute that is never null, if it is declared. -/
def entryOf {α : Type} (name : String) (write : α → Value) : Option α → List (String × Value)
  | none => []
  | some value => [(name, write value)]

/-- Rules of a configuration field as a record. -/
def ConfigRules.written (form : Value → Value) (r : ConfigRules) : Value :=
  .record
    (r.minimum.entry "min" .float ++ r.maximum.entry "max" .float ++
      r.pattern.entry "pattern" .text ++
      r.values.entry "enum" (fun values => .list (values.map form)) ++
      r.allowedProtocols.entry "allowedProtocols" .texts ++
      r.errorMessage.entry "errorMessage" .text ++
      r.jsonSchema.entry "jsonSchema" fun schema =>
        .record (schema.map fun (key, value) => (key, form value)))

/-- The entries of the attributes that are declared. -/
def FieldAttributes.written (form : Value → Value) (a : FieldAttributes) :
    List (String × Value) :=
  [("type", .text a.kind.name)] ++ entryOf "required" .bool a.required ++
    entryOf "default" form a.fallback ++ entryOf "example" form a.sample ++
    a.description.entry "description" .text ++ entryOf "sensitive" .bool a.sensitive ++
    entryOf "sanitize" .bool a.sanitize ++
    a.transform.entry "transform" (fun t => .text t.name) ++
    a.minLength.entry "minLength" .int ++ a.maxLength.entry "maxLength" .int ++
    a.pattern.entry "pattern" .text ++ a.format.entry "format" (fun f => .text f.name) ++
    a.minimum.entry "min" .float ++ a.maximum.entry "max" .float ++
    entryOf "integer" .bool a.integer ++ a.precision.entry "precision" .int ++
    a.values.entry "enum" (fun values => .list (values.map form)) ++
    a.labels.entry "labels" .texts ++ a.minItems.entry "minItems" .int ++
    a.maxItems.entry "maxItems" .int ++ entryOf "uniqueItems" .bool a.uniqueItems ++
    a.requiredProperties.entry "requiredProperties" .texts ++
    entryOf "additionalProperties" .bool a.additionalProperties ++
    a.minDate.entry "minDate" .text ++ a.maxDate.entry "maxDate" .text ++
    a.timezone.entry "timezone" (fun rule => .text rule.name) ++
    a.allowedMimeTypes.entry "allowedMimeTypes" .texts ++
    a.maxFileSize.entry "maxFileSize" .int ++ entryOf "secret" .bool a.secret ++
    a.envVar.entry "envVar" .text ++ a.category.entry "category" .text ++
    entryOf "allowRuntimeOverride" .bool a.allowRuntimeOverride ++
    a.rules.entry "validation" (·.written form)

namespace Definition

mutual

/-- A definition as a record of what it declares; `form` is applied to values that may be
anything. -/
def written (form : Value → Value) (d : Definition) : Value :=
  match d with
  | ⟨attributes, items, properties⟩ =>
    .record (attributes.written form ++ writtenItems form items ++
      writtenProperties form properties)

/-- The entry of the definition of items. -/
def writtenItems (form : Value → Value) (items : Slot Definition) : List (String × Value) :=
  match items with
  | .undeclared => []
  | .null => [("items", .null)]
  | .of d => [("items", written form d)]

/-- The entry of the definitions of properties. -/
def writtenProperties (form : Value → Value) (properties : Slot (List (String × Definition))) :
    List (String × Value) :=
  match properties with
  | .undeclared => []
  | .null => [("properties", .null)]
  | .of definitions => [("properties", .record (writtenFields form definitions))]

/-- Definitions by name, as records by name. -/
def writtenFields (form : Value → Value) (fields : List (String × Definition)) :
    List (String × Value) :=
  match fields with
  | [] => []
  | (name, d) :: rest => (name, written form d) :: writtenFields form rest

end

/-- The form of a definition for transport. -/
def wire (d : Definition) : Value := d.written Value.jsonForm

/-- The form of a definition with all values as they are. -/
def plain (d : Definition) : Value := d.written id

end Definition

end Intake
