import Intake.Proofs.Declaration.Rereading
import Intake.Proofs.Field.Nested

/-!
# Definitions are read back

A definition that was read is optional wherever a value for absent ones is declared, since the reader
makes it so at every depth. Main statements: the plain form of a definition that is so is read back
as the definition; its form for transport is read back as the definition with its values in JSON.
-/

namespace Intake

open Reading

namespace ConfigRules

/-- The parts of the plain form of rules. -/
def parts (r : ConfigRules) : List (String × Option Value) :=
  [("min", r.minimum.written? .float), ("max", r.maximum.written? .float),
   ("pattern", r.pattern.written? .text),
   ("enum", r.values.written? fun values => .list (values.map id)),
   ("allowedProtocols", r.allowedProtocols.written? .texts),
   ("errorMessage", r.errorMessage.written? .text),
   ("jsonSchema", r.jsonSchema.written? fun schema =>
     .record (schema.map fun (key, value) => (key, id value)))]

theorem parts_nodup (r : ConfigRules) : (r.parts.map Prod.fst).Nodup := by
  simp [parts]

theorem written_eq (r : ConfigRules) : r.written id = .record (entriesOf r.parts) := by
  unfold written
  simp only [Slot.entry_eq, ← entriesOf_append, List.cons_append, List.nil_append]
  rfl

/-- Rules are read back from their plain form. -/
theorem rereads (r : ConfigRules) : Rereads ConfigRules.read (·.written id) r where
  read := by
    have hnames := r.parts_nodup
    rw [written_eq, ConfigRules.read, eq_read_iff]
    simp only [gives_map, gives_seq]
    exact ⟨_, readSlot_entriesOf hnames rfl (.inl rfl) fun x _ => .float x,
      _, readSlot_entriesOf hnames rfl (.inl rfl) fun x _ => .float x,
      _, readSlot_entriesOf hnames rfl (.inl rfl) fun s _ => .text s,
      _, readSlot_entriesOf hnames rfl (.inl rfl) fun vs _ => .values vs,
      _, readSlot_entriesOf hnames rfl (.inr rfl) fun names _ => .texts names,
      _, readSlot_entriesOf hnames rfl (.inr rfl) fun s _ => .text s,
      _, readSlot_entriesOf hnames rfl (.inr rfl) fun schema _ => .anyRecord schema, rfl⟩
  shown := Value.noConfusion

end ConfigRules

namespace FieldAttributes

/-- The parts of the plain form of attributes. -/
def parts (a : FieldAttributes) : List (String × Option Value) :=
  [("type", some (.text a.kind.name)), ("required", a.required.map .bool),
   ("default", a.fallback.map id), ("example", a.sample.map id),
   ("description", a.description.written? .text), ("sensitive", a.sensitive.map .bool),
   ("sanitize", a.sanitize.map .bool), ("transform", a.transform.written? fun t => .text t.name),
   ("minLength", a.minLength.written? .int), ("maxLength", a.maxLength.written? .int),
   ("pattern", a.pattern.written? .text), ("format", a.format.written? fun f => .text f.name),
   ("min", a.minimum.written? .float), ("max", a.maximum.written? .float),
   ("integer", a.integer.map .bool), ("precision", a.precision.written? .int),
   ("enum", a.values.written? fun values => .list (values.map id)),
   ("labels", a.labels.written? .texts), ("minItems", a.minItems.written? .int),
   ("maxItems", a.maxItems.written? .int), ("uniqueItems", a.uniqueItems.map .bool),
   ("requiredProperties", a.requiredProperties.written? .texts),
   ("additionalProperties", a.additionalProperties.map .bool),
   ("minDate", a.minDate.written? .text), ("maxDate", a.maxDate.written? .text),
   ("timezone", a.timezone.written? fun rule => .text rule.name),
   ("allowedMimeTypes", a.allowedMimeTypes.written? .texts),
   ("maxFileSize", a.maxFileSize.written? .int), ("secret", a.secret.map .bool),
   ("envVar", a.envVar.written? .text), ("category", a.category.written? .text),
   ("allowRuntimeOverride", a.allowRuntimeOverride.map .bool),
   ("validation", a.rules.written? (·.written id))]

theorem written_eq (a : FieldAttributes) : a.written id = entriesOf a.parts := by
  unfold written
  simp only [Slot.entry_eq, entryOf_eq, ← entriesOf_singleton, ← entriesOf_append, List.cons_append,
    List.nil_append]
  rfl

/-- A value that is declared for absent ones makes the field optional. -/
def FallbackOptional (a : FieldAttributes) : Prop :=
  a.fallback.isSome = true → a.required = some false

/-- Values in JSON are declared where values are. -/
theorem FallbackOptional.inJson {a : FieldAttributes} (h : a.FallbackOptional) :
    a.inJson.FallbackOptional := by
  intro hsome
  refine h ?_
  rwa [FieldAttributes.inJson, Option.isSome_map] at hsome

end FieldAttributes

namespace Definition

/-- The parts of the plain form of a definition. -/
def parts (d : Definition) : List (String × Option Value) :=
  d.attributes.parts ++
    [("items", d.items.written? plain), ("properties", d.properties.written? fieldsRecord)]

theorem parts_nodup (d : Definition) : (d.parts.map Prod.fst).Nodup := by
  simp [parts, FieldAttributes.parts]

theorem plain_eq_record (d : Definition) : d.plain = .record (entriesOf d.parts) := by
  rw [plain_eq, FieldAttributes.written_eq, Slot.entry_eq, Slot.entry_eq, ← entriesOf_append,
    ← entriesOf_append, List.append_assoc]
  rfl

variable {inner : Reader Definition} {d : Definition}

/-- Whether a field is required is read back, if a declared value for absent ones makes it
optional. -/
theorem readRequired_parts (h : d.attributes.FallbackOptional) :
    readRequired (entriesOf d.parts) = .read d.attributes.required := by
  have hpart : d.parts.lookup "default" = some (d.attributes.fallback.map id) := rfl
  have hfallback : (entriesOf d.parts).lookup "default" = d.attributes.fallback.map id := by
    rw [lookup_entriesOf d.parts_nodup, hpart, Option.join_some]
  rw [readRequired, hfallback, Option.isSome_map]
  split
  · rw [h ‹_›]
  · exact readOption_entriesOf d.parts_nodup rfl (.inl rfl) fun b _ => (Rereads.bool b).read

/-- A definition nested in another is read back from what stands for it. -/
theorem rereads_plain (h : inner d.plain = .read d) : Rereads inner plain d where
  read := h
  shown := by
    rw [plain_eq_record]
    exact Value.noConfusion

/-- Properties are read back, if their definitions are. -/
theorem rereads_fieldsRecord {fields : FieldMap}
    (h : ∀ name p, (name, p) ∈ fields → inner p.plain = .read p) :
    Rereads (Reader.record inner) fieldsRecord fields where
  read := by
    rw [fieldsRecord, writtenFields_eq_map, Reader.record_eq_read, List.map_map]
    refine List.map_congr_left fun field hm => ?_
    exact map_eq_read.mpr ⟨field.2, h field.1 field.2 hm, rfl⟩
  shown := Value.noConfusion

/-- A definition is read back from its plain form, if the definitions in it are. -/
theorem readWith_plain (h : d.attributes.FallbackOptional)
    (hitems : ∀ item, d.items = .of item → inner item.plain = .read item)
    (hproperties : ∀ fields, d.properties = .of fields →
      ∀ name p, (name, p) ∈ fields → inner p.plain = .read p) :
    readWith inner d.plain = .read d := by
  have hnames := d.parts_nodup
  rw [plain_eq_record, readWith, eq_read_iff]
  simp only [gives_map, gives_seq]
  exact ⟨d.attributes.kind,
      readNeeded_entriesOf hnames rfl (.inl rfl) (.choice FieldKind.ofName?_name _),
    _, readRequired_parts h,
    _, readOption_entriesOf hnames rfl (.inl rfl) fun _ _ => rfl,
    _, readOption_entriesOf hnames rfl (.inl rfl) fun _ _ => rfl,
    _, readSlot_entriesOf hnames rfl (.inl rfl) fun s _ => .text s,
    _, readOption_entriesOf hnames rfl (.inl rfl) fun b _ => (Rereads.bool b).read,
    _, readOption_entriesOf hnames rfl (.inl rfl) fun b _ => (Rereads.bool b).read,
    _, readSlot_entriesOf hnames rfl (.inl rfl) fun t _ => .choice Transform.ofName?_name t,
    _, readSlot_entriesOf hnames rfl (.inr rfl) fun n _ => .int n,
    _, readSlot_entriesOf hnames rfl (.inr rfl) fun n _ => .int n,
    _, readSlot_entriesOf hnames rfl (.inl rfl) fun s _ => .text s,
    _, readSlot_entriesOf hnames rfl (.inl rfl) fun f _ => .choice TextFormat.ofName?_name f,
    _, readSlot_entriesOf hnames rfl (.inl rfl) fun x _ => .float x,
    _, readSlot_entriesOf hnames rfl (.inl rfl) fun x _ => .float x,
    _, readOption_entriesOf hnames rfl (.inl rfl) fun b _ => (Rereads.bool b).read,
    _, readSlot_entriesOf hnames rfl (.inl rfl) fun n _ => .int n,
    _, readSlot_entriesOf hnames rfl (.inr rfl) fun vs _ => .values vs,
    _, readSlot_entriesOf hnames rfl (.inl rfl) fun names _ => .texts names,
    _, readSlot_entriesOf hnames rfl (.inl rfl) fun item hi => rereads_plain (hitems item hi),
    _, readSlot_entriesOf hnames rfl (.inr rfl) fun n _ => .int n,
    _, readSlot_entriesOf hnames rfl (.inr rfl) fun n _ => .int n,
    _, readOption_entriesOf hnames rfl (.inr rfl) fun b _ => (Rereads.bool b).read,
    _, readSlot_entriesOf hnames rfl (.inl rfl) fun fields hp =>
        rereads_fieldsRecord (hproperties fields hp),
    _, readSlot_entriesOf hnames rfl (.inr rfl) fun names _ => .texts names,
    _, readOption_entriesOf hnames rfl (.inr rfl) fun b _ => (Rereads.bool b).read,
    _, readSlot_entriesOf hnames rfl (.inr rfl) fun s _ => .text s,
    _, readSlot_entriesOf hnames rfl (.inr rfl) fun s _ => .text s,
    _, readSlot_entriesOf hnames rfl (.inl rfl) fun r _ => .choice TimezoneRule.ofName?_name r,
    _, readSlot_entriesOf hnames rfl (.inr rfl) fun types _ => .texts types,
    _, readSlot_entriesOf hnames rfl (.inr rfl) fun n _ => .int n,
    _, readOption_entriesOf hnames rfl (.inl rfl) fun b _ => (Rereads.bool b).read,
    _, readSlot_entriesOf hnames rfl (.inr rfl) fun s _ => .text s,
    _, readSlot_entriesOf hnames rfl (.inl rfl) fun s _ => .text s,
    _, readOption_entriesOf hnames rfl (.inr rfl) fun b _ => (Rereads.bool b).read,
    _, readSlot_entriesOf hnames rfl (.inl rfl) fun r _ => r.rereads, by cases d; rfl⟩

/-- What a definition was read from: whether it is required, its value for absent ones, and the
definitions in it. -/
structure ReadFrom (inner : Reader Definition) (entries : List (String × Value)) (d : Definition) :
    Prop where
  /-- Whether a value is required was read. -/
  required : readRequired entries = .read d.attributes.required
  /-- The value for absent ones was read. -/
  fallback : readOption "default" "default" Reader.any entries = .read d.attributes.fallback
  /-- The definition of items was read. -/
  items : readSlot "items" "items" inner entries = .read d.items
  /-- The definitions of properties were read. -/
  properties : readSlot "properties" "properties" (Reader.record inner) entries = .read d.properties

theorem readFrom_of_readWith {v : Value} (h : readWith inner v = .read d) :
    ∃ entries, v = .record entries ∧ ReadFrom inner entries d := by
  cases v with
  | record entries =>
    rw [readWith, eq_read_iff] at h
    simp only [gives_map, gives_seq] at h
    -- the readings one after the other, in the order of the attributes
    refine h.elim fun _ _ h => h.elim fun _ hrequired h => h.elim fun _ hfallback h => ?_
    refine h.elim fun _ _ h => h.elim fun _ _ h => h.elim fun _ _ h => h.elim fun _ _ h => ?_
    refine h.elim fun _ _ h => h.elim fun _ _ h => h.elim fun _ _ h => h.elim fun _ _ h => ?_
    refine h.elim fun _ _ h => h.elim fun _ _ h => h.elim fun _ _ h => h.elim fun _ _ h => ?_
    refine h.elim fun _ _ h => h.elim fun _ _ h => h.elim fun _ _ h => ?_
    refine h.elim fun _ hitems h => h.elim fun _ _ h => h.elim fun _ _ h => h.elim fun _ _ h => ?_
    refine h.elim fun _ hproperties h => h.elim fun _ _ h => h.elim fun _ _ h => ?_
    refine h.elim fun _ _ h => h.elim fun _ _ h => h.elim fun _ _ h => h.elim fun _ _ h => ?_
    refine h.elim fun _ _ h => h.elim fun _ _ h => h.elim fun _ _ h => h.elim fun _ _ h => ?_
    refine h.elim fun _ _ h => h.elim fun _ _ h => ?_
    subst h
    exact ⟨entries, rfl, hrequired, hfallback, hitems, hproperties⟩
  | _ => cases h

/-- A definition that was read is optional if a value for absent ones is declared. -/
theorem ReadFrom.fallbackOptional {entries : List (String × Value)}
    (h : ReadFrom inner entries d) : d.attributes.FallbackOptional := by
  intro hsome
  have hfallback := h.fallback
  have hrequired := h.required
  cases hdefault : entries.lookup "default" with
  | none =>
    rw [readOption, findAttribute, hdefault] at hfallback
    rw [← Reading.read.inj hfallback] at hsome
    cases hsome
  | some v =>
    rw [readRequired, hdefault, Option.isSome_some, if_pos rfl] at hrequired
    exact (Reading.read.inj hrequired).symm

/-- A definition that was read is optional at every depth where a value for absent ones is
declared. -/
theorem fallbackOptional_of_readWithin {budget : Nat} {v : Value}
    (h : readWithin budget v = .read d) : d.Throughout FieldAttributes.FallbackOptional := by
  induction budget generalizing v d with
  | zero => cases h
  | succ budget ih =>
    obtain ⟨entries, -, hfrom⟩ := readFrom_of_readWith h
    refine throughout_of hfrom.fallbackOptional (fun item hi => ?_) fun fields hp name p hm => ?_
    · obtain ⟨w, hw⟩ := exists_of_readSlot (hi ▸ hfrom.items)
      exact ih hw
    · obtain ⟨w, hw⟩ := exists_of_readSlot (hp ▸ hfrom.properties)
      obtain ⟨w', hw'⟩ := Reader.exists_of_record hw hm
      exact ih hw'

/-- The plain form of the items is less deep than that of the definition. -/
theorem depth_items_lt {item : Definition} (hi : d.items = .of item) :
    item.plain.depth < d.plain.depth := by
  have hmem : ("items", item.plain) ∈ d.attributes.written id ++ d.items.entry "items" plain ++
      d.properties.entry "properties" fieldsRecord := by
    simp [hi, Slot.entry]
  have hle := Value.depth_le_entriesDepth hmem
  rw [plain_eq d, Value.depth]
  omega

/-- The plain form of a property is less deep than that of the definition. -/
theorem depth_property_lt {fields : FieldMap} (hp : d.properties = .of fields) {name : String}
    {p : Definition} (hm : (name, p) ∈ fields) : p.plain.depth < d.plain.depth := by
  have hmem : ("properties", fieldsRecord fields) ∈ d.attributes.written id ++
      d.items.entry "items" plain ++ d.properties.entry "properties" fieldsRecord := by
    simp [hp, Slot.entry]
  have hfield : (name, p.plain) ∈ writtenFields id fields := by
    rw [writtenFields_eq_map]
    exact List.mem_map_of_mem (f := fun field => (field.1, field.2.written id)) hm
  have houter := Value.depth_le_entriesDepth hmem
  have hinner := Value.depth_le_entriesDepth hfield
  rw [fieldsRecord, Value.depth] at houter
  rw [plain_eq d, Value.depth]
  omega

/-- A definition is read back from its plain form within a budget that reaches to its depth. -/
theorem readWithin_plain (h : d.Throughout FieldAttributes.FallbackOptional) {budget : Nat}
    (hbudget : d.plain.depth ≤ budget) : readWithin budget d.plain = .read d := by
  induction d using nested_induction generalizing budget with
  | step d items properties =>
    cases budget with
    | zero =>
      rw [plain_eq, Value.depth] at hbudget
      omega
    | succ budget =>
      refine readWith_plain h.here (fun item hi => ?_) fun fields hp name p hm => ?_
      · have hlt := depth_items_lt hi
        exact items item hi (h.items hi) (by omega)
      · have hlt := depth_property_lt hp hm
        exact properties fields hp name p hm (h.property hp hm) (by omega)

/-- A definition is read back from its plain form. -/
theorem read_plain (h : d.Throughout FieldAttributes.FallbackOptional) :
    Definition.read d.plain = .read d :=
  readWithin_plain h le_rfl

/-- A definition that was read is read back from its form for transport, with its values in JSON. -/
theorem read_wire {v : Value} (h : Definition.read v = .read d) :
    Definition.read d.wire = .read d.inJson := by
  rw [wire_eq_plain_inJson]
  exact read_plain ((fallbackOptional_of_readWithin h).inJson fun _ ha => ha.inJson)

end Definition

end Intake
