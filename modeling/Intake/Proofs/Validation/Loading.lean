import Intake.Proofs.Field.Environment
import Intake.Proofs.JsonSchema.Agreement
import Intake.Proofs.Validation.Acceptance
import Intake.Proofs.Validation.Parts

/-!
# JSON that comes from the environment

A field of JSON values takes a text for the value that is read from it, and a text that comes from the
environment is read before validation sees it. Main statement: a text that validation accepts is
accepted from the environment as well, null apart, if and only if the value that is read from it is no
text, or one that can be read again, and is enumerated if values are.
-/

namespace Intake

/-- All keys are declared exactly if nothing is found under another key. -/
theorem keys_declared_iff {entries : List (String × Value)} {names : List String} :
    (∀ entry ∈ entries, entry.1 ∈ names) ↔
      ∀ key, key ∉ names → entries.lookup key = none := by
  simp only [List.lookup_eq_none_iff, bne_iff_ne]
  constructor
  · rintro h key hkey entry hm rfl
    exact hkey (h entry hm)
  · intro h entry hm
    by_contra hkey
    exact h entry.1 hkey entry hm rfl

/-- A record that differs from an accepted one under the name of one field only is accepted if and
only if what stands there conforms to the field. -/
theorem Validator.accepts_iff_of_accepts {options : Options} {label : String} {fields : FieldMap}
    {validator : Validator} (hc : compile options label fields = .ok validator)
    {entries others : List (String × Value)} {name : String} {d : Definition} {v : Value}
    (hnames : (fields.map (·.1)).Nodup) (hm : (name, d) ∈ fields)
    (hsame : ∀ key, key ≠ name → others.lookup key = entries.lookup key)
    (hv : present? name others = some v)
    (haccepts : ∃ output, validator.validate (.record entries) = .ok (.accepted output)) :
    (∃ output, validator.validate (.record others) = .ok (.accepted output)) ↔ d.Admits v := by
  have hpresent (key : String) (hne : key ≠ name) : present? key others = present? key entries := by
    rw [present?, present?, hsame key hne]
  obtain ⟨hfields, hdeclared⟩ := (validateRecord_accepts_iff hc entries).mp haccepts
  refine (validateRecord_accepts_iff hc others).trans ?_
  rw [fieldsConform_iff] at hfields ⊢
  constructor
  · rintro ⟨hothers, -⟩
    have hfield := hothers (name, d) hm
    rwa [hv] at hfield
  · intro hadmits
    refine ⟨fun field hfield => ?_, fun hstrip => keys_declared_iff.mpr fun key hkey => ?_⟩
    · by_cases hne : field.1 = name
      · cases List.inj_on_of_nodup_map hnames hfield hm hne
        rwa [hv]
      · rw [hpresent field.1 hne]
        exact hfields field hfield
    · have hne : key ≠ name := fun heq => hkey (heq ▸ List.mem_map_of_mem (f := (·.1)) hm)
      rw [hsame key hne]
      exact keys_declared_iff.mp (hdeclared hstrip) key hkey

namespace Definition

/-- A field takes a value that was read from a text which it takes. -/
structure TakesRead (d : Definition) (w : Value) : Prop where
  /-- A text can be read again, and what is read from it satisfies the schema. -/
  text : ∀ s, w = .text s → ∃ inner, Json.read? s = some inner ∧
    ∀ schema ∈ d.attributes.declaredSchema,
      JsonSchema.violations (.record schema) true inner = .ok []
  /-- The value is enumerated, if values are. -/
  values : ∀ values ∈ d.attributes.ownValues, FieldAttributes.Matches values w

variable {d : Definition}

theorem admits_json_iff (hk : d.kind = .json) {v : Value} :
    d.Admits v ↔ d.attributes.AdmitsWhole v ∧ ∀ values ∈ d.attributes.ownValues,
      FieldAttributes.Matches values v := by
  obtain ⟨a, items, properties⟩ := d
  have hkind : a.kind = .json := hk
  simp [Admits, FieldAttributes.AdmitsMember, hkind]

/-- The value that is read from a text which a field admits is admitted if and only if the field takes
a value that was read. -/
theorem admits_read_iff (hk : d.kind = .json) {raw : String} (hraw : d.Admits (.text raw)) :
    ∃ w, Json.read? raw = some w ∧
      ((d.attributes.declaredSchema.isSome = true → w.hasNaN = false) →
        (d.Admits w ↔ d.TakesRead w)) := by
  have hkind : d.attributes.kind = .json := hk
  rw [admits_json_iff hk, FieldAttributes.AdmitsWhole, hkind] at hraw
  obtain ⟨⟨isRead, w, hpart, hschema⟩, -⟩ := hraw
  obtain ⟨w', hread, heq⟩ := Option.map_eq_some_iff.mp hpart
  cases heq
  refine ⟨w, hread, fun hnumbers => ?_⟩
  rw [admits_json_iff hk, FieldAttributes.AdmitsWhole, hkind]
  constructor
  · rintro ⟨⟨isRead, part, hpart, hschema⟩, hvalues⟩
    refine ⟨fun s hs => ?_, hvalues⟩
    subst hs
    obtain ⟨inner, hinner, heq⟩ := Option.map_eq_some_iff.mp hpart
    cases heq
    exact ⟨part, hinner, hschema⟩
  · rintro ⟨htext, hvalues⟩
    refine ⟨?_, hvalues⟩
    by_cases hs : ∃ s, w = .text s
    · obtain ⟨s, rfl⟩ := hs
      obtain ⟨inner, hread, hinner⟩ := htext s rfl
      exact ⟨true, inner, by rw [Value.jsonPart?, hread]; rfl, hinner⟩
    · have hpart : w.jsonPart? = some (false, w) := by
        cases w with
        | text s => exact absurd ⟨s, rfl⟩ hs
        | _ => rfl
      refine ⟨false, w, hpart, fun schema hsome => ?_⟩
      have hdeclared : d.attributes.declaredSchema.isSome = true :=
        Option.isSome_of_mem hsome
      rw [JsonSchema.violations_eq (hnumbers hdeclared) (.record schema) false true]
      exact hschema schema hsome

end Definition

section Loading

variable {fields : FieldMap} {environment : List (String × String)}
  {config direct : List (String × Value)} {name source raw : String} {d : Definition}
  {options : Options} {label : String} {validator : Validator}

/-- A text that validation accepts in a field of JSON values is read from the environment, and unless
null is read, what is loaded is accepted if and only if the field takes the value that was read. -/
theorem loaded_accepted_iff (hnames : (fields.map (·.1)).Nodup) (hm : (name, d) ∈ fields)
    (hk : d.kind = .json) (hsource : d.attributes.envVar.value? = some source)
    (hset : environment.lookup source = some raw) (hopen : LeavesOpen config name)
    (hc : Validator.compile options label fields = .ok validator)
    (htext : direct.lookup name = some (.text raw))
    (hsame : ∀ key, key ≠ name →
      direct.lookup key = (fillFromEnvironment fields environment config).lookup key)
    (haccepts : ∃ output, validator.validate (.record direct) = .ok (.accepted output)) :
    ∃ w, Json.read? raw = some w ∧
      (fillFromEnvironment fields environment config).lookup name = some w ∧
      (w ≠ .null → (d.attributes.declaredSchema.isSome = true → w.hasNaN = false) →
        ((∃ output, validator.validate
            (.record (fillFromEnvironment fields environment config)) = .ok (.accepted output)) ↔
          d.TakesRead w)) := by
  have hpresent : present? name direct = some (.text raw) :=
    present?_eq_some_iff.mpr ⟨htext, rfl⟩
  have hraw : d.Admits (.text raw) :=
    (Validator.accepts_iff_of_accepts hc hnames hm (fun _ _ => rfl) hpresent haccepts).mp haccepts
  obtain ⟨w, hread, hadmits⟩ := Definition.admits_read_iff hk hraw
  have hloaded : (fillFromEnvironment fields environment config).lookup name = some w := by
    rw [(fillFromEnvironment_fills hnames).set name source raw d hm hopen hsource hset, hk]
    exact congrArg some (congrArg (Option.getD · _) hread)
  refine ⟨w, hread, hloaded, fun hnull hnumbers => ?_⟩
  have hthere : present? name (fillFromEnvironment fields environment config) = some w := by
    refine present?_eq_some_iff.mpr ⟨hloaded, ?_⟩
    cases w <;> first | rfl | exact absurd rfl hnull
  exact (Validator.accepts_iff_of_accepts hc hnames hm (fun key hne => (hsame key hne).symm) hthere
    haccepts).trans (hadmits hnumbers)

end Loading

/-- JSON that names a variable, and that may have to satisfy a schema. -/
def documentDefinition (schema : Slot (List (String × Value))) : Definition where
  attributes :=
    { FieldAttributes.ofKind .json with
      envVar := .of "DOCUMENT"
      rules := .of
        { minimum := .undeclared
          maximum := .undeclared
          pattern := .undeclared
          values := .undeclared
          allowedProtocols := .undeclared
          errorMessage := .undeclared
          jsonSchema := schema } }
  items := .undeclared
  properties := .undeclared

/-- The only field of a configuration. -/
def documentField (schema : Slot (List (String × Value))) : FieldMap :=
  [("document", documentDefinition schema)]

section Document

variable {schema : Slot (List (String × Value))} {v w : Value} {raw : String}

theorem names_documentField : ((documentField schema).map (·.1)).Nodup := List.nodup_singleton _

theorem mem_documentField : ("document", documentDefinition schema) ∈ documentField schema :=
  List.mem_cons_self

theorem accepts_document_iff {validator : Validator}
    (hc : Validator.compile .standard "Config" (documentField schema) = .ok validator) :
    (∃ output, validator.validate (.record [("document", .text raw)]) = .ok (.accepted output)) ↔
      ∃ w, Json.read? raw = some w ∧ ∀ declared ∈ schema.value?,
        JsonSchema.violations (.record declared) true w = .ok [] := by
  have hadmits : (documentDefinition schema).Admits (.text raw) ↔ ∃ isRead w,
      (Value.text raw).jsonPart? = some (isRead, w) ∧ ∀ declared ∈ schema.value?,
        JsonSchema.violations (.record declared) isRead w = .ok [] :=
    (Definition.admits_json_iff rfl).trans (and_iff_left fun _ hm => by cases hm)
  have hpresent : present? "document" [("document", .text raw)] = some (.text raw) :=
    present?_eq_some_iff.mpr ⟨List.lookup_cons_self, rfl⟩
  rw [Validator.validate_accepts_iff hc]
  simp [Value.entries?, documentField, hpresent, Options.standard, hadmits, Value.jsonPart?]

/-- What is loaded is what is read from the variable. -/
theorem fill_document (h : Json.read? raw = some w) :
    fillFromEnvironment (documentField schema) [("DOCUMENT", raw)] [] = [("document", w)] := by
  have hvalue : (documentDefinition schema).environmentValue [("DOCUMENT", raw)] = some w :=
    (Definition.environmentValue_eq rfl rfl).trans
      (congrArg (fun read : Option Value => some (read.getD (.text raw))) h)
  simp [fillFromEnvironment, documentField, fillField, hvalue, insertEntry]

theorem lookup_fill_document_of_ne (h : Json.read? raw = some w) {key : String}
    (hne : key ≠ "document") :
    [("document", v)].lookup key =
      (fillFromEnvironment (documentField schema) [("DOCUMENT", raw)] []).lookup key := by
  rw [fill_document h, List.lookup_cons, List.lookup_cons, beq_false_of_ne hne]

end Document

/-- A text in quotes, written as JSON, satisfies the schema of texts both times: given directly, and
from the environment. -/
theorem accepts_loaded_quotation :
    ∃ validator, Validator.compile .standard "Config"
        (documentField (.of [("type", .text "string")])) = .ok validator ∧
      (∃ output, validator.validate (.record [("document", .text "\"\\\"a\\\"\"")]) =
        .ok (.accepted output)) ∧
      fillFromEnvironment (documentField (.of [("type", .text "string")]))
        [("DOCUMENT", "\"\\\"a\\\"\"")] [] = [("document", .text "\"a\"")] ∧
      ∃ output, validator.validate (.record [("document", .text "\"a\"")]) =
        .ok (.accepted output) := by
  have hcompiles : (Validator.compile .standard "Config"
      (documentField (.of [("type", .text "string")]))).isOk = true := by decide +kernel
  have hread : Json.read? "\"\\\"a\\\"\"" = some (.text "\"a\"") := by rfl
  have hagain : Json.read? "\"a\"" = some (.text "a") := by rfl
  have hloaded : fillFromEnvironment (documentField (.of [("type", .text "string")]))
      [("DOCUMENT", "\"\\\"a\\\"\"")] [] = [("document", .text "\"a\"")] := fill_document hread
  cases hc : Validator.compile .standard "Config"
      (documentField (.of [("type", .text "string")])) with
  | error e =>
    rw [hc] at hcompiles
    cases hcompiles
  | ok validator =>
    have hdirect := (accepts_document_iff hc).mpr
      ⟨_, hread, fun declared hdeclared => by
        cases hdeclared
        rfl⟩
    have hopen : LeavesOpen [] "document" := fun _ h => by cases h
    obtain ⟨w, -, hw, haccepts⟩ := loaded_accepted_iff names_documentField mem_documentField rfl rfl
      rfl hopen hc rfl (fun _ => lookup_fill_document_of_ne hread) hdirect
    rw [hloaded] at hw haccepts
    cases hw
    have htakes : (documentDefinition (.of [("type", .text "string")])).TakesRead
        (.text "\"a\"") := by
      refine ⟨fun s hs => ?_, fun _ hm => by cases hm⟩
      cases hs
      refine ⟨.text "a", hagain, fun declared hdeclared => ?_⟩
      cases hdeclared
      rfl
    have hnull : Value.text "\"a\"" ≠ .null := Value.noConfusion
    exact ⟨validator, rfl, hdirect, hloaded, (haccepts hnull fun _ => rfl).mpr htakes⟩

/-- A text that stands for another one is accepted, and refused when it comes from the environment:
what is read from it there would be read again. -/
theorem not_accepted_loaded_text :
    ¬ ∀ (fields : FieldMap) (environment : List (String × String))
      (config direct : List (String × Value)) (name source raw : String) (d : Definition)
      (options : Options) (label : String) (validator : Validator) (w : Value),
      (fields.map (·.1)).Nodup → (name, d) ∈ fields → d.kind = .json →
      d.attributes.envVar.value? = some source → environment.lookup source = some raw →
      LeavesOpen config name → Validator.compile options label fields = .ok validator →
      direct.lookup name = some (.text raw) →
      (∀ key, key ≠ name →
        direct.lookup key = (fillFromEnvironment fields environment config).lookup key) →
      (∃ output, validator.validate (.record direct) = .ok (.accepted output)) →
      Json.read? raw = some w → w ≠ .null →
      ∃ output, validator.validate (.record (fillFromEnvironment fields environment config)) =
        .ok (.accepted output) := by
  intro h
  have hread : Json.read? "\"hello\"" = some (.text "hello") := by rfl
  have hagain : Json.read? "hello" = none := by rfl
  have hloaded : fillFromEnvironment (documentField .undeclared) [("DOCUMENT", "\"hello\"")] [] =
      [("document", .text "hello")] := fill_document hread
  obtain ⟨validator, hc⟩ : ∃ validator,
      Validator.compile .standard "Config" (documentField .undeclared) = .ok validator := ⟨_, rfl⟩
  have hdirect := (accepts_document_iff hc).mpr ⟨_, hread, fun _ hm => by cases hm⟩
  have hopen : LeavesOpen [] "document" := fun _ h => by cases h
  have hnull : Value.text "hello" ≠ .null := Value.noConfusion
  have haccepts := h _ [("DOCUMENT", "\"hello\"")] [] _ _ _ _ _ _ _ _ _ names_documentField
    mem_documentField rfl rfl rfl hopen hc rfl (fun _ => lookup_fill_document_of_ne hread) hdirect
    hread hnull
  rw [hloaded] at haccepts
  obtain ⟨inner, hinner, -⟩ := (accepts_document_iff hc).mp haccepts
  rw [hagain] at hinner
  cases hinner

end Intake
