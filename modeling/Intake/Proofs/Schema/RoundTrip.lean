import Intake.Proofs.Field.RoundTrip
import Intake.Schema.Basic
import Mathlib

/-!
# Schemas are read back

A rule holds only a condition that was read and paths that were checked, so every rule is read back
from what is written of it. Main statement: a schema is read back from its dump with the same fields
in the same order, their values in JSON, and the same rules.
-/

namespace Intake

open Reading

/-- The text of a condition is read as the condition. -/
theorem checkCondition_text (c : DeclaredCondition) : checkCondition c.text = .ok c := by
  unfold checkCondition
  split
  · rename_i tree h
    obtain ⟨text, tree', hread⟩ := c
    cases Except.ok.inj (hread.symm.trans h)
    rfl
  · rename_i h
    rw [c.read_text] at h
    cases h

/-- A path that a rule may name passes its check. -/
theorem checkPath_val (p : RulePath) : checkPath p.val = .ok p := by
  rw [checkPath, dif_pos p.property]

/-- The values of an attribute pass their check, if each does. -/
theorem Slot.check_map {α β : Type} {f : α → Except RuleFault β} {g : β → α}
    (h : ∀ y, f (g y) = .ok y) (s : Slot β) : (s.map g).check f = .ok s := by
  cases s with
  | undeclared => rfl
  | null => rfl
  | of y => rw [map, check, h]; rfl

/-- Paths that a rule may name pass their check. -/
theorem checkPaths_val (paths : Option (List RulePath)) :
    checkPaths (paths.map (List.map (·.val))) = .ok paths := by
  cases paths with
  | none => rfl
  | some paths =>
    have hpaths : (paths.map (·.val)).mapM checkPath = .ok paths := by
      induction paths with
      | nil => rfl
      | cons p rest ih => rw [List.map_cons, List.mapM_cons, checkPath_val, ih]; rfl
    rw [Option.map_some, checkPaths, hpaths]
    rfl

/-- The parts of what is written of a rule. -/
def RuleDraft.parts (draft : RuleDraft) : List (String × Option Value) :=
  [("kind", some (.text draft.kind.name)), ("name", draft.name.written? .text),
   ("condition", draft.condition.written? .text), ("requires", draft.requires.map .texts),
   ("forbids", draft.forbids.map .texts), ("trigger", draft.trigger.written? .text),
   ("fields", draft.fields.map .texts), ("error_message", draft.errorMessage.written? .text),
   ("description", draft.description.written? .text)]

/-- A rule is read back before its condition and its paths are checked. -/
theorem RuleDraft.read_parts (draft : RuleDraft) :
    RuleDraft.read (.record (entriesOf draft.parts)) = .read draft := by
  have hnames : (draft.parts.map Prod.fst).Nodup := by simp [parts]
  rw [RuleDraft.read, eq_read_iff]
  simp only [gives_map, gives_seq]
  exact ⟨draft.kind, readNeeded_entriesOf hnames rfl (.inl rfl) (.choice RuleKind.ofName?_name _),
    _, readSlot_entriesOf hnames rfl (.inl rfl) fun s _ => .text s,
    _, readSlot_entriesOf hnames rfl (.inl rfl) fun s _ => .text s,
    _, readOption_entriesOf hnames rfl (.inl rfl) fun names _ => (Rereads.texts names).read,
    _, readOption_entriesOf hnames rfl (.inl rfl) fun names _ => (Rereads.texts names).read,
    _, readSlot_entriesOf hnames rfl (.inl rfl) fun s _ => .text s,
    _, readOption_entriesOf hnames rfl (.inl rfl) fun names _ => (Rereads.texts names).read,
    _, readSlot_entriesOf hnames rfl (.inl rfl) fun s _ => .text s,
    _, readSlot_entriesOf hnames rfl (.inl rfl) fun s _ => .text s, rfl⟩

namespace Rule

/-- A rule with the texts of its condition and its paths. -/
def draft (r : Rule) : RuleDraft where
  kind := r.kind
  name := r.name
  condition := r.condition.map (·.text)
  requires := r.requires.map (List.map (·.val))
  forbids := r.forbids.map (List.map (·.val))
  trigger := r.trigger.map (·.val)
  fields := r.fields.map (List.map (·.val))
  errorMessage := r.errorMessage
  description := r.description

theorem check_draft (r : Rule) : r.draft.check = .ok r := by
  have hcondition : r.draft.condition.check checkCondition = .ok r.condition :=
    Slot.check_map checkCondition_text r.condition
  have hrequires : checkPaths r.draft.requires = .ok r.requires := checkPaths_val r.requires
  have hforbids : checkPaths r.draft.forbids = .ok r.forbids := checkPaths_val r.forbids
  have hfields : checkPaths r.draft.fields = .ok r.fields := checkPaths_val r.fields
  have htrigger : r.draft.trigger.check checkPath = .ok r.trigger :=
    Slot.check_map checkPath_val r.trigger
  rw [RuleDraft.check, hcondition, hrequires, hforbids, hfields, htrigger]
  rfl

theorem written_eq (r : Rule) : r.written = .record (entriesOf r.draft.parts) := by
  have hpaths (name : String) (paths : Option (List RulePath)) :
      entryOf name pathList paths =
        entriesOf [(name, (paths.map (List.map (·.val))).map .texts)] := by
    rw [← entryOf_eq, entryOf_map]
    rfl
  have hcondition : (r.condition.entry "condition" fun c => .text c.text) =
      entriesOf [("condition", r.draft.condition.written? .text)] := by
    rw [← Slot.entry_eq, draft, Slot.entry_map]
  have htrigger : (r.trigger.entry "trigger" fun p => .text p.val) =
      entriesOf [("trigger", r.draft.trigger.written? .text)] := by
    rw [← Slot.entry_eq, draft, Slot.entry_map]
  unfold written
  rw [hcondition, htrigger, hpaths, hpaths, hpaths]
  simp only [Slot.entry_eq, ← entriesOf_singleton, ← entriesOf_append, List.cons_append,
    List.nil_append]
  rfl

/-- Every rule is read back from what is written of it. -/
theorem read_written (r : Rule) : Rule.read r.written = .ok (.read r) := by
  rw [written_eq, Rule.read, RuleDraft.read_parts]
  simp only [check_draft]

end Rule

/-- Fields of which each is optional where a value for absent ones is declared are read back. -/
theorem FieldMap.read_fieldsRecord {fields : FieldMap}
    (h : ∀ name d, (name, d) ∈ fields → d.Throughout FieldAttributes.FallbackOptional) :
    FieldMap.read (Definition.fieldsRecord fields) = .read fields :=
  (Definition.rereads_fieldsRecord fun name d hm => Definition.read_plain (h name d hm)).read

namespace Schema

variable {s : Schema}

/-- A schema that is read from a record, or is built from definitions that were read. -/
inductive Accepted : Schema → Prop where
  /-- The schema is read. -/
  | read {v : Value} {s : Schema} (h : Schema.read v = .ok (.read s)) : Accepted s
  /-- The schema is built. -/
  | built {draft : SchemaDraft}
      (h : ∀ side name d, (name, d) ∈ draft.build.fields side → ∃ v, Definition.read v = .read d) :
      Accepted draft.build

/-- The fields of a schema hold JSON values only. -/
def HoldsJson (s : Schema) : Prop := ∀ side name d, (name, d) ∈ s.fields side → d.HoldsJson

/-- A schema with the values of its fields in JSON; names, order and rules are the same. -/
def inJson (s : Schema) : Schema :=
  { s with
    declaredInput := s.declaredInput.map Definition.fieldsInJson
    declaredConfig := s.declaredConfig.map Definition.fieldsInJson }

theorem fields_inJson (s : Schema) (side : Side) :
    s.inJson.fields side = Definition.fieldsInJson (s.fields side) := by
  have hgetD (o : Option FieldMap) :
      (o.map Definition.fieldsInJson).getD [] = Definition.fieldsInJson (o.getD []) := by
    cases o <;> rfl
  cases side with
  | input => exact hgetD s.declaredInput
  | config => exact hgetD s.declaredConfig

/-- A schema that holds JSON values only is in JSON. -/
theorem HoldsJson.inJson_eq (h : s.HoldsJson) : s.inJson = s := by
  have hfields (o : Option FieldMap) (ho : ∀ name d, (name, d) ∈ o.getD [] → d.HoldsJson) :
      o.map Definition.fieldsInJson = o := by
    cases o with
    | none => rfl
    | some fields =>
      exact congrArg some (Definition.fieldsInJson_eq_self fun name d hm => (ho name d hm).inJson_eq)
  rw [inJson, hfields s.declaredInput (h .input), hfields s.declaredConfig (h .config)]

/-- A definition of a schema that was read was read. -/
theorem exists_read_of_read {v : Value} (h : Schema.read v = .ok (.read s)) {side : Side}
    {name : String} {d : Definition} (hm : (name, d) ∈ s.fields side) :
    ∃ w, Definition.read w = .read d := by
  cases v with
  | record entries =>
    have hfield {written plain : String} {o : Option FieldMap}
        (ho : readOption written plain FieldMap.read entries = .read o) (hm : (name, d) ∈ o.getD []) :
        ∃ w, Definition.read w = .read d := by
      cases o with
      | none => cases hm
      | some fields =>
        obtain ⟨w, hw⟩ := exists_of_readOption ho
        exact Reader.exists_of_record hw hm
    rw [Schema.read] at h
    cases hrules : readRules entries with
    | error fault =>
      rw [hrules] at h
      cases h
    | ok rules =>
      rw [hrules] at h
      have hread := eq_read_iff.mp (Except.ok.inj h)
      simp only [gives_map, gives_seq] at hread
      obtain ⟨input, hinput, config, hconfig, declaredRules, -, rfl⟩ := hread
      cases side with
      | input => exact hfield hinput hm
      | config => exact hfield hconfig hm
  | _ => cases h

/-- A definition of an accepted schema was read. -/
theorem Accepted.exists_read (h : s.Accepted) {side : Side} {name : String} {d : Definition}
    (hm : (name, d) ∈ s.fields side) : ∃ v, Definition.read v = .read d := by
  cases h with
  | read h => exact exists_read_of_read h hm
  | built h => exact h side name d hm

/-- The parts of what is written of a schema with its values in JSON. -/
def parts (s : Schema) : List (String × Option Value) :=
  [("input", s.declaredInput.map Definition.fieldsRecord),
   ("config", s.declaredConfig.map Definition.fieldsRecord),
   ("rules", s.declaredRules.map fun rules => .list (rules.map Rule.written))]

theorem written_eq (s : Schema) : s.written = .record (entriesOf s.inJson.parts) := by
  have hwritten (fields : FieldMap) :
      writtenFields fields = Definition.fieldsRecord (Definition.fieldsInJson fields) :=
    congrArg Value.record
      (Definition.map_wire_eq_writtenFields fun _ p _ => p.wire_eq_plain_inJson)
  have hfields (name : String) (o : Option FieldMap) : entryOf name writtenFields o =
      entriesOf [(name, (o.map Definition.fieldsInJson).map Definition.fieldsRecord)] := by
    rw [← entryOf_eq, entryOf_map, funext hwritten]
  rw [written, hfields, hfields, entryOf_eq, ← entriesOf_append, ← entriesOf_append]
  rfl

/-- Rules are read back in their order. -/
theorem readRulesFrom_written (i : Nat) (rules : List Rule) :
    readRulesFrom i (rules.map Rule.written) = .ok (.read rules) := by
  induction rules generalizing i with
  | nil => rfl
  | cons r rest ih =>
    rw [List.map_cons, readRulesFrom, Rule.read_written, ih]
    rfl

/-- A schema is read back from its parts. -/
theorem read_parts (h : ∀ side name d, (name, d) ∈ s.fields side →
      d.Throughout FieldAttributes.FallbackOptional) :
    Schema.read (.record (entriesOf s.parts)) = .ok (.read s) := by
  have hnames : (s.parts.map Prod.fst).Nodup := by simp [parts]
  have hrules : readRules (entriesOf s.parts) = .ok (.read s.declaredRules) := by
    have hpart : s.parts.lookup "rules" =
        some (s.declaredRules.map fun rules => .list (rules.map Rule.written)) := rfl
    have hlookup : (entriesOf s.parts).lookup "rules" =
        s.declaredRules.map fun rules => .list (rules.map Rule.written) := by
      rw [lookup_entriesOf hnames, hpart, Option.join_some]
    rw [readRules, hlookup]
    cases s.declaredRules with
    | none => rfl
    | some rules =>
      simp only [Option.map_some, readRulesFrom_written]
      rfl
  rw [Schema.read, hrules]
  refine congrArg Except.ok (eq_read_iff.mpr ?_)
  simp only [gives_map, gives_seq]
  refine ⟨s.declaredInput, readOption_entriesOf hnames rfl (.inl rfl) fun fields hf => ?_,
    s.declaredConfig, readOption_entriesOf hnames rfl (.inl rfl) fun fields hf => ?_,
    s.declaredRules, rfl, rfl⟩
  · exact FieldMap.read_fieldsRecord fun name d hm => h .input name d (by rwa [Schema.fields, input, hf])
  · exact FieldMap.read_fieldsRecord fun name d hm => h .config name d (by rwa [Schema.fields, config, hf])

/-- An accepted schema is read back from its dump, with its values in JSON. -/
theorem Accepted.read_written (h : s.Accepted) : Schema.read s.written = .ok (.read s.inJson) := by
  rw [written_eq]
  refine read_parts fun side name d hm => ?_
  rw [fields_inJson] at hm
  obtain ⟨p, hp, rfl⟩ := Definition.exists_of_mem_fieldsInJson hm
  obtain ⟨v, hv⟩ := h.exists_read hp
  exact (Definition.fallbackOptional_of_readWithin hv).inJson fun _ ha => ha.inJson

theorem holdsJson_inJson (s : Schema) : s.inJson.HoldsJson := by
  intro side name d hm
  rw [fields_inJson] at hm
  obtain ⟨p, -, rfl⟩ := Definition.exists_of_mem_fieldsInJson hm
  exact p.holdsJson_inJson

/-- The dump of the schema in JSON is that of the schema. -/
theorem written_inJson (s : Schema) : s.inJson.written = s.written := by
  rw [written_eq, s.holdsJson_inJson.inJson_eq, written_eq]

end Schema

/-- What is written for transport of a definition that was read, and of an accepted schema, is read
back with the same attributes declared at every depth, the values in JSON, and is written the same
again; a definition or a schema that holds JSON values only is read back as it is. -/
theorem wire_roundTrip :
    (∀ v d, Definition.read v = .read d →
      Definition.read d.wire = .read d.inJson ∧ d.inJson.wire = d.wire ∧
        (d.HoldsJson → Definition.read d.wire = .read d)) ∧
    ∀ s : Schema, s.Accepted →
      Schema.read s.written = .ok (.read s.inJson) ∧ s.inJson.written = s.written ∧
        (s.HoldsJson → Schema.read s.written = .ok (.read s)) := by
  refine ⟨fun v d hread => ⟨Definition.read_wire hread, d.wire_inJson, fun hjson => ?_⟩,
    fun s haccepted => ⟨haccepted.read_written, s.written_inJson, fun hjson => ?_⟩⟩
  · have hback := Definition.read_wire hread
    rwa [hjson.inJson_eq] at hback
  · have hback := haccepted.read_written
    rwa [hjson.inJson_eq] at hback

/-- A parcel as it may be declared: with plain names, with texts for numbers and truth values, and
required although a value for absent ones is declared. -/
def parcelRecord : Value :=
  .record
    [("type", .text "object"), ("required", .bool true),
     ("default", .record [("sizes", .list [])]), ("additional_properties", .text "no"),
     ("properties", .record
       [("sizes", .record
          [("type", .text "array"), ("min_items", .text "1"),
           ("items", .record
             [("type", .text "enum"), ("values", .list [.int 1, .text "x", .null])])]),
        ("key", .record
          [("type", .text "apiKey"), ("env_var", .text "KEY"), ("description", .null),
           ("validation", .record
             [("enum", .list [.bool true]),
              ("json_schema", .record [("type", .text "string")])])])])]

/-- The declared parcel. -/
def parcel : Definition where
  attributes :=
    { FieldAttributes.ofKind .object with
      required := some false
      fallback := some (.record [("sizes", .list [])])
      additionalProperties := some false }
  items := .undeclared
  properties := .of
    [("sizes",
      { attributes := { FieldAttributes.ofKind .array with minItems := .of 1 }
        items := .of
          { attributes :=
              { FieldAttributes.ofKind .enumeration with
                values := .of [.int 1, .text "x", .null] }
            items := .undeclared
            properties := .undeclared }
        properties := .undeclared }),
     ("key",
      { attributes :=
          { FieldAttributes.ofKind .apiKey with
            envVar := .of "KEY"
            description := .null
            rules := .of
              { minimum := .undeclared
                maximum := .undeclared
                pattern := .undeclared
                values := .of [.bool true]
                allowedProtocols := .undeclared
                errorMessage := .undeclared
                jsonSchema := .of [("type", .text "string")] } }
        items := .undeclared
        properties := .undeclared })]

/-- A schema that asks for a parcel and says what it depends on. -/
def parcelSchemaRecord : Value :=
  .record
    [("rules", .list
       [.record
         [("kind", .text "dependency"), ("trigger", .text "input.parcel"),
          ("requires", .list [.text "config.key"])]]),
     ("input", .record [("parcel", parcelRecord)])]

/-- The declared schema. -/
def parcelSchema : Schema where
  declaredInput := some [("parcel", parcel)]
  declaredConfig := none
  declaredRules := some
    [{ kind := .dependency
       name := .undeclared
       condition := .undeclared
       requires := some [⟨"config.key", by decide⟩]
       forbids := none
       trigger := .of ⟨"input.parcel", by decide⟩
       fields := none
       errorMessage := .undeclared
       description := .undeclared }]

/-- The parcel and its schema are read back as they are. -/
theorem wire_roundTrip_parcel :
    (Definition.read parcelRecord = .read parcel ∧ parcel.HoldsJson ∧
      Definition.read parcel.wire = .read parcel) ∧
    Schema.read parcelSchemaRecord = .ok (.read parcelSchema) ∧ parcelSchema.HoldsJson ∧
      Schema.read parcelSchema.written = .ok (.read parcelSchema) := by
  have hread : Definition.read parcelRecord = .read parcel := by cbv
  have hjson : parcel.HoldsJson := parcel.holdsJson_inJson
  have hschema : Schema.read parcelSchemaRecord = .ok (.read parcelSchema) := by cbv
  have hholds : parcelSchema.HoldsJson := parcelSchema.holdsJson_inJson
  exact ⟨⟨hread, hjson, (wire_roundTrip.1 parcelRecord parcel hread).2.2 hjson⟩, hschema, hholds,
    (wire_roundTrip.2 parcelSchema (.read hschema)).2.2 hholds⟩

end Intake
