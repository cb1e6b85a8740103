import Intake.Proofs.Field.Place

/-!
# Definitions at every depth

A definition stands inside another one if it is the other, or stands inside the definition of its
items or of one of its properties, whatever the kind of the other is. The values that a definition
holds may be brought into JSON at every depth. Main statements: the form of a definition for
transport is the plain form of the definition in JSON, and a definition that holds JSON values only
is itself in JSON.
-/

namespace Intake

namespace Slot

variable {α β : Type}

/-- A map that changes no value of an attribute changes nothing. -/
theorem map_eq_self {f : α → α} {s : Slot α} (h : ∀ x, s = .of x → f x = x) : s.map f = s := by
  cases s with
  | undeclared => rfl
  | null => rfl
  | of x => rw [map, h x rfl]

/-- What is written of a changed attribute. -/
theorem entry_map (name : String) (f : α → β) (write : β → Value) (s : Slot α) :
    (s.map f).entry name write = s.entry name fun x => write (f x) := by
  cases s <;> rfl

/-- What is written of an attribute depends on what is written of its value alone. -/
theorem entry_congr {name : String} {write write' : α → Value} {s : Slot α}
    (h : ∀ x, s = .of x → write x = write' x) : s.entry name write = s.entry name write' := by
  cases s with
  | undeclared => rfl
  | null => rfl
  | of x => rw [entry, entry, h x rfl]

theorem map_eq_of {f : α → β} {s : Slot α} {y : β} :
    s.map f = .of y ↔ ∃ x, s = .of x ∧ f x = y := by
  cases s <;> simp [map]

end Slot

/-- What is written of a changed attribute that is never null. -/
theorem entryOf_map {α β : Type} (name : String) (f : α → β) (write : β → Value) (o : Option α) :
    entryOf name write (o.map f) = entryOf name (fun x => write (f x)) o := by
  cases o <;> rfl

/-- A map that changes no item changes no list. -/
theorem map_eq_self_of_mem {α : Type} {f : α → α} {xs : List α} (h : ∀ x ∈ xs, f x = x) :
    xs.map f = xs :=
  (List.map_congr_left h).trans (List.map_id xs)

section

variable {o : Option Value} {s : Slot (List Value)}

/-- A JSON value that may be declared is in JSON. -/
theorem map_jsonForm_eq_self (h : ∀ v, o = some v → v.isJson = true) : o.map Value.jsonForm = o := by
  cases o with
  | none => rfl
  | some v => rw [Option.map_some, v.jsonForm_of_isJson (h v rfl)]

/-- A value in JSON that may be declared is JSON. -/
theorem isJson_of_map_jsonForm {v : Value} (h : o.map Value.jsonForm = some v) : v.isJson = true := by
  obtain ⟨v', -, rfl⟩ := Option.map_eq_some_iff.mp h
  exact v'.isJson_jsonForm

namespace Slot

/-- JSON values that may be declared are in JSON. -/
theorem map_jsonForm_eq_self (h : ∀ vs, s = .of vs → ∀ v ∈ vs, v.isJson = true) :
    s.map (List.map Value.jsonForm) = s :=
  map_eq_self fun vs hvs => map_eq_self_of_mem fun v hv => v.jsonForm_of_isJson (h vs hvs v hv)

/-- Values in JSON that may be declared are JSON. -/
theorem isJson_of_map_jsonForm {vs : List Value} (h : s.map (List.map Value.jsonForm) = .of vs) :
    ∀ v ∈ vs, v.isJson = true := by
  intro v hv
  obtain ⟨vs', -, rfl⟩ := map_eq_of.mp h
  obtain ⟨v', -, rfl⟩ := List.mem_map.mp hv
  exact v'.isJson_jsonForm

end Slot

end

namespace ConfigRules

/-- Rules with their values in JSON. -/
def inJson (r : ConfigRules) : ConfigRules :=
  { r with
    values := r.values.map (List.map Value.jsonForm)
    jsonSchema := r.jsonSchema.map (List.map fun entry => (entry.1, entry.2.jsonForm)) }

/-- Rules hold JSON values only. -/
structure HoldsJson (r : ConfigRules) : Prop where
  /-- The enumerated values are JSON. -/
  values : ∀ vs, r.values = .of vs → ∀ v ∈ vs, v.isJson = true
  /-- The values in the JSON Schema are JSON. -/
  jsonSchema : ∀ es, r.jsonSchema = .of es → ∀ entry ∈ es, entry.2.isJson = true

theorem HoldsJson.inJson_eq {r : ConfigRules} (h : r.HoldsJson) : r.inJson = r := by
  have hschema : r.jsonSchema.map (List.map fun entry => (entry.1, entry.2.jsonForm)) =
      r.jsonSchema :=
    Slot.map_eq_self fun es hes => map_eq_self_of_mem fun entry hm =>
      Prod.ext rfl (entry.2.jsonForm_of_isJson (h.jsonSchema es hes entry hm))
  rw [inJson, Slot.map_jsonForm_eq_self h.values, hschema]

theorem holdsJson_inJson (r : ConfigRules) : r.inJson.HoldsJson where
  values := fun _ => Slot.isJson_of_map_jsonForm
  jsonSchema := by
    intro es hes entry hm
    obtain ⟨es', -, rfl⟩ := Slot.map_eq_of.mp hes
    obtain ⟨entry', -, rfl⟩ := List.mem_map.mp hm
    exact entry'.2.isJson_jsonForm

/-- Rules are written for transport as their values in JSON are written. -/
theorem written_jsonForm (r : ConfigRules) : r.written Value.jsonForm = r.inJson.written id := by
  simp only [written, inJson, Slot.entry_map, List.map_map, Function.comp_def, id]

end ConfigRules

namespace FieldAttributes

/-- Attributes with their values in JSON. -/
def inJson (a : FieldAttributes) : FieldAttributes :=
  { a with
    fallback := a.fallback.map Value.jsonForm
    sample := a.sample.map Value.jsonForm
    values := a.values.map (List.map Value.jsonForm)
    rules := a.rules.map ConfigRules.inJson }

/-- Attributes hold JSON values only. -/
structure HoldsJson (a : FieldAttributes) : Prop where
  /-- The value that stands for an absent one is JSON. -/
  fallback : ∀ v, a.fallback = some v → v.isJson = true
  /-- The example is JSON. -/
  sample : ∀ v, a.sample = some v → v.isJson = true
  /-- The enumerated values are JSON. -/
  values : ∀ vs, a.values = .of vs → ∀ v ∈ vs, v.isJson = true
  /-- The rules hold JSON values only. -/
  rules : ∀ r, a.rules = .of r → r.HoldsJson

theorem HoldsJson.inJson_eq {a : FieldAttributes} (h : a.HoldsJson) : a.inJson = a := by
  have hrules : a.rules.map ConfigRules.inJson = a.rules :=
    Slot.map_eq_self fun r hr => (h.rules r hr).inJson_eq
  rw [inJson, map_jsonForm_eq_self h.fallback, map_jsonForm_eq_self h.sample,
    Slot.map_jsonForm_eq_self h.values, hrules]

theorem holdsJson_inJson (a : FieldAttributes) : a.inJson.HoldsJson where
  fallback := fun _ => isJson_of_map_jsonForm
  sample := fun _ => isJson_of_map_jsonForm
  values := fun _ => Slot.isJson_of_map_jsonForm
  rules := by
    intro r hr
    obtain ⟨r', -, rfl⟩ := Slot.map_eq_of.mp hr
    exact r'.holdsJson_inJson

/-- Attributes are written for transport as their values in JSON are written. -/
theorem written_jsonForm (a : FieldAttributes) : a.written Value.jsonForm = a.inJson.written id := by
  have hoption (name : String) (o : Option Value) :
      entryOf name Value.jsonForm o = entryOf name id (o.map Value.jsonForm) :=
    (entryOf_map name Value.jsonForm id o).symm
  have hvalues : (a.values.entry "enum" fun values => .list (values.map Value.jsonForm)) =
      (a.values.map (List.map Value.jsonForm)).entry "enum" fun values => .list (values.map id) := by
    simp only [Slot.entry_map, List.map_id]
  have hrules : a.rules.entry "validation" (·.written Value.jsonForm) =
      (a.rules.map ConfigRules.inJson).entry "validation" (·.written id) := by
    simp only [Slot.entry_map, ConfigRules.written_jsonForm]
  unfold written
  simp only [inJson]
  rw [hoption, hoption, hvalues, hrules]

end FieldAttributes

namespace Definition

mutual

/-- A definition with its values in JSON at every depth. -/
def inJson (d : Definition) : Definition :=
  match d with
  | ⟨attributes, items, properties⟩ =>
    ⟨attributes.inJson, itemsInJson items, propertiesInJson properties⟩

/-- The definition of items with its values in JSON. -/
def itemsInJson (items : Slot Definition) : Slot Definition :=
  match items with
  | .undeclared => .undeclared
  | .null => .null
  | .of d => .of (inJson d)

/-- The definitions of properties with their values in JSON. -/
def propertiesInJson (properties : Slot (List (String × Definition))) :
    Slot (List (String × Definition)) :=
  match properties with
  | .undeclared => .undeclared
  | .null => .null
  | .of definitions => .of (fieldsInJson definitions)

/-- Definitions by name with their values in JSON. -/
def fieldsInJson (fields : List (String × Definition)) : List (String × Definition) :=
  match fields with
  | [] => []
  | (name, d) :: rest => (name, inJson d) :: fieldsInJson rest

end

theorem fieldsInJson_eq_map (fields : FieldMap) :
    fieldsInJson fields = fields.map fun field => (field.1, field.2.inJson) := by
  induction fields with
  | nil => rfl
  | cons field rest ih =>
    obtain ⟨name, d⟩ := field
    rw [fieldsInJson, ih, List.map_cons]

/-- Definitions in JSON are those of definitions by the same names. -/
theorem exists_of_mem_fieldsInJson {fields : FieldMap} {name : String} {d : Definition}
    (h : (name, d) ∈ fieldsInJson fields) : ∃ p, (name, p) ∈ fields ∧ p.inJson = d := by
  rw [fieldsInJson_eq_map] at h
  obtain ⟨field, hm, heq⟩ := List.mem_map.mp h
  cases heq
  exact ⟨field.2, hm, rfl⟩

/-- Definitions of which each is in JSON are in JSON. -/
theorem fieldsInJson_eq_self {fields : FieldMap}
    (h : ∀ name p, (name, p) ∈ fields → p.inJson = p) : fieldsInJson fields = fields := by
  rw [fieldsInJson_eq_map]
  exact map_eq_self_of_mem fun field hm => Prod.ext rfl (h field.1 field.2 hm)

/-- Definitions are written for transport as they are written in JSON, if each is. -/
theorem map_wire_eq_writtenFields {fields : FieldMap}
    (h : ∀ name p, (name, p) ∈ fields → p.wire = p.inJson.plain) :
    fields.map (fun field => (field.1, field.2.wire)) = writtenFields id (fieldsInJson fields) := by
  rw [writtenFields_eq_map, fieldsInJson_eq_map, List.map_map]
  exact List.map_congr_left fun field hm => Prod.ext rfl (h field.1 field.2 hm)

theorem inJson_eq (d : Definition) :
    d.inJson = ⟨d.attributes.inJson, d.items.map inJson, d.properties.map fieldsInJson⟩ := by
  obtain ⟨a, items, properties⟩ := d
  have hitems : itemsInJson items = items.map inJson := by
    cases items <;> simp only [itemsInJson, Slot.map]
  have hproperties : propertiesInJson properties = properties.map fieldsInJson := by
    cases properties <;> simp only [propertiesInJson, Slot.map]
  rw [inJson, hitems, hproperties]

/-- The form for transport is the plain form of the definition in JSON. -/
theorem wire_eq_plain_inJson (d : Definition) : d.wire = d.inJson.plain := by
  induction d using nested_induction with
  | step d items properties =>
    have hitems : d.items.entry "items" (written Value.jsonForm) =
        (d.items.map inJson).entry "items" plain := by
      rw [Slot.entry_map]
      exact Slot.entry_congr items
    have hproperties :
        (d.properties.entry "properties" fun fields => .record (writtenFields Value.jsonForm fields)) =
          (d.properties.map fieldsInJson).entry "properties" fieldsRecord := by
      rw [Slot.entry_map]
      refine Slot.entry_congr fun fields hfields => ?_
      rw [fieldsRecord, ← map_wire_eq_writtenFields (properties fields hfields),
        writtenFields_eq_map]
      rfl
    rw [wire, written_eq, FieldAttributes.written_jsonForm, hitems, hproperties, inJson_eq, plain_eq]

/-- A definition stands inside another one, or is the other. -/
inductive Within (e : Definition) : Definition → Prop where
  /-- A definition stands where it stands. -/
  | here : Within e e
  /-- It stands inside the definition of items. -/
  | items {d item : Definition} (hi : d.items = .of item) (h : Within e item) : Within e d
  /-- It stands inside the definition of a property. -/
  | property {d p : Definition} {fields : FieldMap} {name : String}
      (hp : d.properties = .of fields) (hm : (name, p) ∈ fields) (h : Within e p) : Within e d

/-- A condition holds of the attributes at every depth. -/
def Throughout (P : FieldAttributes → Prop) (d : Definition) : Prop :=
  ∀ e, Within e d → P e.attributes

/-- A definition holds JSON values only, at every depth. -/
def HoldsJson (d : Definition) : Prop := d.Throughout FieldAttributes.HoldsJson

variable {P : FieldAttributes → Prop} {d : Definition}

/-- What holds at every depth holds of the attributes themselves. -/
theorem Throughout.here (h : d.Throughout P) : P d.attributes := h d .here

/-- What holds at every depth holds at every depth of the items. -/
theorem Throughout.items (h : d.Throughout P) {item : Definition} (hi : d.items = .of item) :
    item.Throughout P :=
  fun e he => h e (.items hi he)

/-- What holds at every depth holds at every depth of the properties. -/
theorem Throughout.property (h : d.Throughout P) {fields : FieldMap} (hp : d.properties = .of fields)
    {name : String} {p : Definition} (hm : (name, p) ∈ fields) : p.Throughout P :=
  fun e he => h e (.property hp hm he)

/-- What holds of the attributes, and at every depth of the items and the properties, holds at every
depth. -/
theorem throughout_of (here : P d.attributes)
    (items : ∀ item, d.items = .of item → item.Throughout P)
    (properties : ∀ fields, d.properties = .of fields →
      ∀ name p, (name, p) ∈ fields → p.Throughout P) : d.Throughout P := by
  intro e he
  cases he with
  | here => exact here
  | items hi h => exact items _ hi e h
  | property hp hm h => exact properties _ hp _ _ hm e h

/-- What follows for attributes with their values in JSON holds at every depth of the definition in
JSON. -/
theorem Throughout.inJson {Q : FieldAttributes → Prop} (hPQ : ∀ a, P a → Q a.inJson)
    (h : d.Throughout P) : d.inJson.Throughout Q := by
  induction d using nested_induction with
  | step d items properties =>
    rw [Definition.inJson_eq]
    refine throughout_of (hPQ _ h.here) (fun item hi => ?_) fun fields hp name p hm => ?_
    · obtain ⟨item', hi', rfl⟩ := Slot.map_eq_of.mp hi
      exact items item' hi' (h.items hi')
    · obtain ⟨fields', hp', rfl⟩ := Slot.map_eq_of.mp hp
      obtain ⟨p', hm', rfl⟩ := exists_of_mem_fieldsInJson hm
      exact properties fields' hp' name p' hm' (h.property hp' hm')

/-- A definition with its values in JSON holds JSON values only. -/
theorem holdsJson_inJson (d : Definition) : d.inJson.HoldsJson :=
  Throughout.inJson (P := fun _ => True) (fun a _ => a.holdsJson_inJson) fun _ _ => trivial

/-- A definition that holds JSON values only is in JSON. -/
theorem HoldsJson.inJson_eq (h : d.HoldsJson) : d.inJson = d := by
  induction d using nested_induction with
  | step d items properties =>
    have hitems : d.items.map inJson = d.items :=
      Slot.map_eq_self fun item hi => items item hi (h.items hi)
    have hproperties : d.properties.map fieldsInJson = d.properties :=
      Slot.map_eq_self fun fields hp => fieldsInJson_eq_self fun name p hm =>
        properties fields hp name p hm (h.property hp hm)
    rw [Definition.inJson_eq, hitems, hproperties, h.here.inJson_eq]
    cases d
    rfl

/-- The form for transport of the definition in JSON is that of the definition. -/
theorem wire_inJson (d : Definition) : d.inJson.wire = d.wire := by
  rw [wire_eq_plain_inJson, d.holdsJson_inJson.inJson_eq, wire_eq_plain_inJson]

end Definition

end Intake
