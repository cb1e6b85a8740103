import Intake.Proofs.Field.Written

/-!
# Definitions at the same place

Two definitions are compared place by place: as they are, at their items and at the properties of the
same name. Only places that are looked at when data is checked count, which are the items of lists
and the properties of records. Main statement: definitions with the same text have the same
attributes at the same place, up to samples and as far as the text tells the values in them. The
names of properties are the same up to their order, which the text hides.
-/

namespace Intake

open Json

namespace Slot

variable {α : Type}

/-- Attributes with the same texts have values with the same text. -/
theorem exists_of_texts_eq {write : α → Value} {s s' : Slot α} {value : α}
    (hshown : ∀ value, IsShown (write value)) (h : s.texts write = s'.texts write)
    (hs : s = .of value) :
    ∃ value', s' = .of value' ∧ canonical (write value) = canonical (write value') := by
  subst hs
  cases s' with
  | undeclared => cases h
  | null =>
    have hnull : canonical (write value) = canonical .null := (List.cons.inj h).1
    exact absurd (typeName_eq (hshown value).1 id hnull) (hshown value).2
  | of value' => exact ⟨value', rfl, (List.cons.inj h).1⟩

end Slot

namespace Definition

/-- A record of definitions as it is written down. -/
def fieldsRecord (fields : FieldMap) : Value := .record (writtenFields id fields)

variable (form : Value → Value)

theorem writtenItems_eq (items : Slot Definition) :
    writtenItems form items = items.entry "items" (written form) := by
  cases items <;> simp only [writtenItems, Slot.entry]

theorem writtenProperties_eq (properties : Slot FieldMap) :
    writtenProperties form properties =
      properties.entry "properties" fun fields => .record (writtenFields form fields) := by
  cases properties <;> simp only [writtenProperties, Slot.entry]

theorem writtenFields_eq_map (fields : FieldMap) :
    writtenFields form fields = fields.map fun (name, d) => (name, d.written form) := by
  induction fields with
  | nil => simp only [writtenFields, List.map_nil]
  | cons field rest ih =>
    obtain ⟨name, d⟩ := field
    simp only [writtenFields, List.map_cons, ih]

/-- What is written of a definition are its attributes, its items and its properties. -/
theorem written_eq (d : Definition) :
    d.written form = .record (d.attributes.written form ++ d.items.entry "items" (written form) ++
      d.properties.entry "properties" fun fields => .record (writtenFields form fields)) := by
  obtain ⟨a, items, properties⟩ := d
  rw [written, writtenItems_eq, writtenProperties_eq]

theorem plain_eq (d : Definition) :
    d.plain = .record (d.attributes.written id ++ d.items.entry "items" plain ++
      d.properties.entry "properties" fieldsRecord) :=
  written_eq id d

theorem isShown_plain (d : Definition) : IsShown d.plain := by
  simp [plain_eq, IsShown, Value.IsTemporal, Value.typeName]

theorem isShown_fieldsRecord (fields : FieldMap) : IsShown (fieldsRecord fields) := by
  simp [fieldsRecord, IsShown, Value.IsTemporal, Value.typeName]

/-- The names of attributes are neither of the two under which definitions are nested. -/
theorem not_mem_shown (a : FieldAttributes) :
    "items" ∉ a.shown.map Prod.fst ∧ "properties" ∉ a.shown.map Prod.fst := by
  simp [FieldAttributes.shown]

variable {d d' : Definition}

/-- Definitions with the same text have the same texts under each name. -/
theorem textsUnder_plain_eq (h : canonical d.plain = canonical d'.plain) (key : String) :
    textsUnder key (d.attributes.written id) ++
        (if "items" = key then d.items.texts plain else []) ++
        (if "properties" = key then d.properties.texts fieldsRecord else []) =
      textsUnder key (d'.attributes.written id) ++
        (if "items" = key then d'.items.texts plain else []) ++
        (if "properties" = key then d'.properties.texts fieldsRecord else []) := by
  rw [plain_eq, plain_eq] at h
  have hkey := textsUnder_eq h key
  rwa [textsUnder_append, textsUnder_append, Slot.textsUnder_entry, Slot.textsUnder_entry,
    textsUnder_append, textsUnder_append, Slot.textsUnder_entry, Slot.textsUnder_entry] at hkey

/-- Definitions with the same text have the same attributes, as far as it tells the values. -/
theorem unsampled_eq (h : canonical d.plain = canonical d'.plain)
    (ha : d.attributes.ValuesAlike d'.attributes) :
    d.attributes.unsampled = d'.attributes.unsampled := by
  obtain ⟨hitems, hproperties⟩ := not_mem_shown d.attributes
  refine FieldAttributes.unsampled_eq ha fun key hm => ?_
  have hi : "items" ≠ key := fun heq => hitems (heq ▸ hm)
  have hp : "properties" ≠ key := fun heq => hproperties (heq ▸ hm)
  have hkey := textsUnder_plain_eq h key
  rwa [if_neg hi, if_neg hp, if_neg hi, if_neg hp, List.append_nil, List.append_nil,
    List.append_nil, List.append_nil] at hkey

/-- Definitions with the same text have items with the same text. -/
theorem exists_items (h : canonical d.plain = canonical d'.plain) {item : Definition}
    (hi : d.items = .of item) :
    ∃ item', d'.items = .of item' ∧ canonical item.plain = canonical item'.plain := by
  have hkey := textsUnder_plain_eq h "items"
  rw [FieldAttributes.textsUnder_written, partsUnder_eq_nil (not_mem_shown _).1,
    FieldAttributes.textsUnder_written, partsUnder_eq_nil (not_mem_shown _).1] at hkey
  simp only [String.reduceEq, if_true, if_false, List.nil_append, List.append_nil] at hkey
  exact Slot.exists_of_texts_eq isShown_plain hkey hi

/-- Definitions with the same text have properties with the same text. -/
theorem exists_properties (h : canonical d.plain = canonical d'.plain) {fields : FieldMap}
    (hp : d.properties = .of fields) :
    ∃ fields', d'.properties = .of fields' ∧
      canonical (fieldsRecord fields) = canonical (fieldsRecord fields') := by
  have hkey := textsUnder_plain_eq h "properties"
  rw [FieldAttributes.textsUnder_written, partsUnder_eq_nil (not_mem_shown _).2,
    FieldAttributes.textsUnder_written, partsUnder_eq_nil (not_mem_shown _).2] at hkey
  simp only [String.reduceEq, if_true, if_false, List.nil_append] at hkey
  exact Slot.exists_of_texts_eq isShown_fieldsRecord hkey hp

end Definition

namespace FieldMap

theorem canonicalEntries_writtenFields (fields : FieldMap) :
    canonicalEntries (Definition.writtenFields id fields) =
      fields.map fun field => (field.1, canonical field.2.plain) := by
  rw [Definition.writtenFields_eq_map]
  induction fields with
  | nil => rfl
  | cons field rest ih =>
    obtain ⟨name, d⟩ := field
    rw [List.map_cons, canonicalEntries, ih, List.map_cons, Definition.plain]

variable {fields fields' : FieldMap}

/-- Fields with the same text have the same texts, up to their order. -/
theorem perm_texts
    (h : canonical (Definition.fieldsRecord fields) = canonical (Definition.fieldsRecord fields')) :
    (fields.map fun field => (field.1, canonical field.2.plain)).Perm
      (fields'.map fun field => (field.1, canonical field.2.plain)) := by
  rw [← canonicalEntries_writtenFields, ← canonicalEntries_writtenFields]
  exact (List.mergeSort_perm _ keyAtMost).symm.trans
    ((sortedEntries_eq h) ▸ List.mergeSort_perm _ keyAtMost)

/-- Fields with the same text have the same names, up to their order. -/
theorem perm_names
    (h : canonical (Definition.fieldsRecord fields) = canonical (Definition.fieldsRecord fields')) :
    (fields.map (·.1)).Perm (fields'.map (·.1)) := by
  have hperm := (perm_texts h).map Prod.fst
  rwa [List.map_map, List.map_map] at hperm

/-- Fields with the same text have a field with the same text under each name. -/
theorem exists_field
    (h : canonical (Definition.fieldsRecord fields) = canonical (Definition.fieldsRecord fields'))
    {name : String} {d : Definition} (hm : (name, d) ∈ fields) :
    ∃ d', (name, d') ∈ fields' ∧ canonical d.plain = canonical d'.plain := by
  have hmem := (perm_texts h).mem_iff.mp (List.mem_map_of_mem hm)
  obtain ⟨⟨name', d'⟩, hm', heq⟩ := List.mem_map.mp hmem
  obtain ⟨rfl, htext⟩ := Prod.mk.inj heq
  exact ⟨d', hm', htext.symm⟩

/-- Fields of the same name have the same text, if the texts of all fields are the same and no name
stands twice. -/
theorem text_eq_of_mem
    (h : canonical (Definition.fieldsRecord fields) = canonical (Definition.fieldsRecord fields'))
    (hnames : (fields'.map (·.1)).Nodup) {name : String} {d d' : Definition}
    (hm : (name, d) ∈ fields) (hm' : (name, d') ∈ fields') :
    canonical d.plain = canonical d'.plain := by
  obtain ⟨other, hother, htext⟩ := exists_field h hm
  have heq := List.inj_on_of_nodup_map hnames hother hm' rfl
  cases heq
  exact htext

/-- Fields with the same text and the same names in the same order have the same texts in the same
order. -/
theorem texts_eq_of_names_eq
    (h : canonical (Definition.fieldsRecord fields) = canonical (Definition.fieldsRecord fields'))
    (hnames : fields.map (·.1) = fields'.map (·.1)) :
    (fields.map fun field => (field.1, canonical field.2.plain)) =
      fields'.map fun field => (field.1, canonical field.2.plain) := by
  refine eq_of_filter_eq ?_ fun key => ?_
  · rwa [List.map_map, List.map_map]
  · rw [← canonicalEntries_writtenFields, ← canonicalEntries_writtenFields, ← filter_mergeSort,
      sortedEntries_eq h, filter_mergeSort]

end FieldMap

namespace Definition

/-- The names of the properties that are declared, in order. -/
def propertyNames (d : Definition) : List String :=
  match d.properties with
  | .of fields => fields.map (·.1)
  | _ => []

/-- Two definitions stand at the same place in two others. -/
inductive SamePlace : Definition → Definition → Definition → Definition → Prop where
  /-- Each stands where it starts. -/
  | here (d d' : Definition) : SamePlace d d' d d'
  /-- Both stand in the definitions of the items of lists. -/
  | items {d d' item item' e e' : Definition} (hk : d.kind = .array) (hi : d.items = .of item)
      (hi' : d'.items = .of item') (h : SamePlace item item' e e') : SamePlace d d' e e'
  /-- Both stand in the definitions of properties of the same name. -/
  | property {d d' p p' e e' : Definition} {fields fields' : FieldMap} {name : String}
      (hk : d.kind = .object) (hp : d.properties = .of fields) (hp' : d'.properties = .of fields')
      (hm : (name, p) ∈ fields) (hm' : (name, p') ∈ fields') (h : SamePlace p p' e e') :
      SamePlace d d' e e'

/-- The values that two definitions hold are alike, those of definitions in them apart. -/
def AlikeHere (e e' : Definition) : Prop := e.attributes.ValuesAlike e'.attributes

/-- Two definitions of records declare properties of the same names in the same order. -/
def OrderedHere (e e' : Definition) : Prop :=
  e.kind = .object → e.propertyNames = e'.propertyNames

/-- A definition of records declares no property twice. -/
def DistinctHere (e _ : Definition) : Prop := e.kind = .object → e.propertyNames.Nodup

/-- A relation holds of the definitions at every place that two definitions share. -/
def Everywhere (R : Definition → Definition → Prop) (d d' : Definition) : Prop :=
  ∀ e e', SamePlace d d' e e' → R e e'

end Definition

namespace FieldMap

/-- A relation holds of the definitions at every place that fields of the same name share. -/
def Everywhere (R : Definition → Definition → Prop) (fields fields' : FieldMap) : Prop :=
  ∀ name d d', (name, d) ∈ fields → (name, d') ∈ fields' → Definition.Everywhere R d d'

/-- The values that definitions at the same place hold are alike. -/
def ValuesAlike : FieldMap → FieldMap → Prop := Everywhere Definition.AlikeHere

/-- Records at the same place declare properties of the same names in the same order. -/
def SameOrder : FieldMap → FieldMap → Prop := Everywhere Definition.OrderedHere

/-- Records at the same place declare no property twice. -/
def NamesDistinct : FieldMap → FieldMap → Prop := Everywhere Definition.DistinctHere

end FieldMap

namespace Definition

variable {R : Definition → Definition → Prop} {d d' : Definition}

/-- What holds everywhere holds of the definitions as they are. -/
theorem Everywhere.here (h : Everywhere R d d') : R d d' := h d d' (.here d d')

/-- What holds everywhere holds everywhere in the items. -/
theorem Everywhere.items (h : Everywhere R d d') {item item' : Definition} (hk : d.kind = .array)
    (hi : d.items = .of item) (hi' : d'.items = .of item') : Everywhere R item item' :=
  fun e e' hplace => h e e' (.items hk hi hi' hplace)

/-- What holds everywhere holds everywhere in the properties. -/
theorem Everywhere.properties (h : Everywhere R d d') {fields fields' : FieldMap}
    (hk : d.kind = .object) (hp : d.properties = .of fields) (hp' : d'.properties = .of fields') :
    FieldMap.Everywhere R fields fields' :=
  fun _ _ _ hm hm' e e' hplace => h e e' (.property hk hp hp' hm hm' hplace)

/-- What holds of the definitions as they are, in the items and in the properties holds
everywhere. -/
theorem everywhere_of (here : R d d')
    (items : ∀ item item', d.kind = .array → d.items = .of item → d'.items = .of item' →
      Everywhere R item item')
    (properties : ∀ fields fields', d.kind = .object → d.properties = .of fields →
      d'.properties = .of fields' → FieldMap.Everywhere R fields fields') : Everywhere R d d' := by
  intro e e' hplace
  cases hplace with
  | here => exact here
  | items hk hi hi' hrest => exact items _ _ hk hi hi' e e' hrest
  | property hk hp hp' hm hm' hrest => exact properties _ _ hk hp hp' _ _ _ hm hm' e e' hrest

/-- No definition in a definition is looked at when data is checked. -/
structure IsWhole (d : Definition) : Prop where
  /-- It is no list whose items have a definition. -/
  items : d.kind = .array → ∀ item, d.items ≠ .of item
  /-- It is no record whose properties have definitions. -/
  properties : d.kind = .object → ∀ fields, d.properties ≠ .of fields

/-- Where no definition is looked at, no properties are declared. -/
theorem IsWhole.propertyNames_eq (hw : d.IsWhole) (hk : d.kind = .object) :
    d.propertyNames = [] := by
  unfold propertyNames
  split
  · exact absurd ‹_› (hw.properties hk _)
  · rfl

/-- Definitions with the same text have the same kind. -/
theorem kind_eq (h : canonical d.plain = canonical d'.plain) (ha : d.AlikeHere d') :
    d.kind = d'.kind :=
  (FieldAttributes.mk.inj (unsampled_eq h ha)).1

/-- Fields with the same text have a field of the same kind under each name. -/
theorem exists_kind {fields fields' : FieldMap}
    (h : canonical (fieldsRecord fields) = canonical (fieldsRecord fields'))
    (ha : FieldMap.Everywhere AlikeHere fields fields') {name : String} {p' : Definition}
    (hm' : (name, p') ∈ fields') : ∃ p, (name, p) ∈ fields ∧ p.kind = p'.kind := by
  obtain ⟨p, hm, heq⟩ := FieldMap.exists_field h.symm hm'
  exact ⟨p, hm, kind_eq heq.symm (ha name p p' hm hm').here⟩

/-- A definition has one of three shapes. -/
theorem shape (d : Definition) :
    (d.kind = .array ∧ ∃ item, d.items = .of item) ∨
      (d.kind = .object ∧ ∃ fields, d.properties = .of fields) ∨ d.IsWhole := by
  by_cases hitems : d.kind = .array ∧ ∃ item, d.items = .of item
  · exact .inl hitems
  by_cases hproperties : d.kind = .object ∧ ∃ fields, d.properties = .of fields
  · exact .inr (.inl hproperties)
  · exact .inr (.inr ⟨fun hk item hi => hitems ⟨hk, item, hi⟩,
      fun hk fields hp => hproperties ⟨hk, fields, hp⟩⟩)

/-- The shapes that two definitions with the same text can have. -/
inductive SameShape (d d' : Definition) : Prop where
  /-- Both are lists whose items have definitions with the same text. -/
  | list {item item' : Definition} (hk : d.kind = .array) (hk' : d'.kind = .array)
      (hi : d.items = .of item) (hi' : d'.items = .of item')
      (htext : canonical item.plain = canonical item'.plain)
  /-- Both are records whose properties have definitions with the same text. -/
  | record {fields fields' : FieldMap} (hk : d.kind = .object) (hk' : d'.kind = .object)
      (hp : d.properties = .of fields) (hp' : d'.properties = .of fields')
      (htext : canonical (fieldsRecord fields) = canonical (fieldsRecord fields'))
  /-- In neither is a definition looked at. -/
  | whole (hw : d.IsWhole) (hw' : d'.IsWhole)

/-- Definitions with the same text have the same shape. -/
theorem sameShape (h : canonical d.plain = canonical d'.plain) (ha : d.AlikeHere d') :
    SameShape d d' := by
  have hkind := kind_eq h ha
  rcases shape d with ⟨hk, item, hi⟩ | ⟨hk, fields, hp⟩ | hw
  · obtain ⟨item', hi', htext⟩ := exists_items h hi
    exact .list hk (hkind ▸ hk) hi hi' htext
  · obtain ⟨fields', hp', htext⟩ := exists_properties h hp
    exact .record hk (hkind ▸ hk) hp hp' htext
  · refine .whole hw ⟨fun hk' item' hi' => ?_, fun hk' fields' hp' => ?_⟩
    · obtain ⟨item, hi, -⟩ := exists_items h.symm hi'
      exact hw.items (hkind.trans hk') item hi
    · obtain ⟨fields, hp, -⟩ := exists_properties h.symm hp'
      exact hw.properties (hkind.trans hk') fields hp

/-- Induction over the definitions that are nested in a definition. -/
theorem nested_induction {motive : Definition → Prop}
    (step : ∀ d : Definition, (∀ item, d.items = .of item → motive item) →
      (∀ fields, d.properties = .of fields → ∀ name p, (name, p) ∈ fields → motive p) → motive d)
    (d : Definition) : motive d :=
  step d (fun item _ => nested_induction step item)
    fun fields _ _ p _ => nested_induction step p
termination_by sizeOf d
decreasing_by
  · rename_i hi
    obtain ⟨a, items, properties⟩ := d
    cases hi
    decreasing_tactic
  · rename_i hp _ hm
    obtain ⟨a, items, properties⟩ := d
    cases hp
    have := List.sizeOf_lt_of_mem hm
    simp at this ⊢
    omega

end Definition

end Intake
