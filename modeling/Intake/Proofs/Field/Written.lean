import Intake.Field.Wire
import Intake.Proofs.Json.Alike

/-!
# What the text of a definition tells

The plain form of a definition shows every attribute that it declares under the attribute's own name.
Main statement: definitions whose plain forms have the same text have the same attributes, up to the
sample and as far as the text tells the values in them. The order of properties is hidden, and so are
dates.
-/

namespace Intake

namespace Json

theorem canonicalEntries_append (entries others : List (String × Value)) :
    canonicalEntries (entries ++ others) = canonicalEntries entries ++ canonicalEntries others := by
  induction entries with
  | nil => rfl
  | cons entry rest ih =>
    obtain ⟨key, v⟩ := entry
    rw [List.cons_append, canonicalEntries, canonicalEntries, ih, List.cons_append]

theorem textsUnder_append (key : String) (entries others : List (String × Value)) :
    textsUnder key (entries ++ others) = textsUnder key entries ++ textsUnder key others := by
  simp only [textsUnder, canonicalEntries_append, List.filter_append, List.map_append]

theorem textsUnder_singleton (key name : String) (v : Value) :
    textsUnder key [(name, v)] = if name = key then [canonical v] else [] := by
  simp only [textsUnder, canonicalEntries, List.filter_cons, List.filter_nil, decide_eq_true_eq]
  split <;> rfl

theorem stringText_injective : Function.Injective stringText := fun _ _ h =>
  (stringText_append_injective (congrArg (· ++ []) h)).1

theorem canonicalItems_map_text (names : List String) :
    canonicalItems (names.map Value.text) = names.map stringText := by
  induction names with
  | nil => rfl
  | cons name rest ih => rw [List.map_cons, canonicalItems, ih, List.map_cons, canonical]

/-- What stands under a key in a sequence of named parts. -/
def partsUnder {α : Type} (key : String) (parts : List (String × List α)) : List α :=
  parts.flatMap fun part => if part.1 = key then part.2 else []

theorem partsUnder_cons {α : Type} (key : String) (part : String × List α)
    (rest : List (String × List α)) :
    partsUnder key (part :: rest) = (if part.1 = key then part.2 else []) ++ partsUnder key rest :=
  List.flatMap_cons

theorem partsUnder_eq_nil {α : Type} {key : String} {parts : List (String × List α)}
    (h : key ∉ parts.map Prod.fst) : partsUnder key parts = [] := by
  refine List.flatMap_eq_nil_iff.mpr fun part hm => ?_
  rw [if_neg]
  rintro rfl
  exact h (List.mem_map_of_mem hm)

/-- Parts with distinct names in the same order are the same, if what stands under each name is. -/
theorem eq_of_partsUnder_eq {α : Type} {parts parts' : List (String × List α)}
    (hnames : parts.map Prod.fst = parts'.map Prod.fst) (hdistinct : (parts.map Prod.fst).Nodup)
    (h : ∀ key ∈ parts.map Prod.fst, partsUnder key parts = partsUnder key parts') :
    parts = parts' := by
  induction parts generalizing parts' with
  | nil =>
    cases parts' with
    | nil => rfl
    | cons part' rest' => cases hnames
  | cons part rest ih =>
    cases parts' with
    | nil => cases hnames
    | cons part' rest' =>
      obtain ⟨hname, hrest⟩ := List.cons.inj hnames
      obtain ⟨hnot, hdistinct⟩ := List.nodup_cons.mp hdistinct
      have hhead := h part.1 List.mem_cons_self
      rw [partsUnder_cons, partsUnder_cons, if_pos rfl, if_pos hname.symm, partsUnder_eq_nil hnot,
        partsUnder_eq_nil (hrest ▸ hnot), List.append_nil, List.append_nil] at hhead
      rw [Prod.ext hname hhead, ih hrest hdistinct fun key hm => ?_]
      have hne : part.1 ≠ key := fun heq => hnot (heq ▸ hm)
      have hkey := h key (List.mem_cons_of_mem _ hm)
      rwa [partsUnder_cons, partsUnder_cons, if_neg hne, if_neg (hname ▸ hne)] at hkey

end Json

open Json

/-- A value that is neither null nor a date or a time. -/
def IsShown (v : Value) : Prop := ¬ v.IsTemporal ∧ v.typeName ≠ "null"

namespace Slot

variable {α : Type}

/-- The texts with which an attribute is written down. -/
def texts (write : α → Value) : Slot α → List (List Char)
  | .undeclared => []
  | .null => [canonical .null]
  | .of value => [canonical (write value)]

theorem textsUnder_entry (key name : String) (write : α → Value) (s : Slot α) :
    textsUnder key (s.entry name write) = if name = key then s.texts write else [] := by
  cases s with
  | undeclared => simp [entry, texts, textsUnder, canonicalEntries]
  | null => exact textsUnder_singleton key name .null
  | of value => exact textsUnder_singleton key name (write value)

/-- An attribute is known by its texts, if its value is known by its text. -/
theorem eq_of_texts {write : α → Value} {s s' : Slot α} (hshown : ∀ value, IsShown (write value))
    (hvalue : ∀ value value', s = .of value → s' = .of value' →
      canonical (write value) = canonical (write value') → value = value')
    (h : s.texts write = s'.texts write) : s = s' := by
  have hnull (value : α) : canonical .null ≠ canonical (write value) := fun heq =>
    (hshown value).2 (typeName_eq id (hshown value).1 heq).symm
  cases s with
  | undeclared =>
    cases s' with
    | undeclared => rfl
    | null => cases h
    | of value' => cases h
  | null =>
    cases s' with
    | undeclared => cases h
    | null => rfl
    | of value' => exact absurd (List.cons.inj h).1 (hnull value')
  | of value =>
    cases s' with
    | undeclared => cases h
    | null => exact absurd (List.cons.inj h).1.symm (hnull value)
    | of value' => rw [hvalue value value' rfl rfl (List.cons.inj h).1]

end Slot

/-- The texts with which an attribute that is never null is written down. -/
def optionTexts {α : Type} (write : α → Value) (o : Option α) : List (List Char) :=
  o.toList.map fun value => canonical (write value)

theorem textsUnder_entryOf {α : Type} (key name : String) (write : α → Value) (o : Option α) :
    textsUnder key (entryOf name write o) = if name = key then optionTexts write o else [] := by
  cases o with
  | none => simp [entryOf, optionTexts, textsUnder, canonicalEntries]
  | some value => exact textsUnder_singleton key name (write value)

/-- An attribute that is never null is known by its texts, if its value is known by its text. -/
theorem eq_of_optionTexts {α : Type} {write : α → Value} {o o' : Option α}
    (hvalue : ∀ value value', o = some value → o' = some value' →
      canonical (write value) = canonical (write value') → value = value')
    (h : optionTexts write o = optionTexts write o') : o = o' := by
  cases o with
  | none =>
    cases o' with
    | none => rfl
    | some value' => cases h
  | some value =>
    cases o' with
    | none => cases h
    | some value' => rw [hvalue value value' rfl rfl (List.cons.inj h).1]

/-- A way of writing values that lets them be known by their texts. -/
structure Tells {α : Type} (write : α → Value) : Prop where
  /-- What is written is neither null nor a date or a time. -/
  shown : ∀ value, IsShown (write value)
  /-- Values with the same text are the same. -/
  injective : ∀ value value', canonical (write value) = canonical (write value') → value = value'

namespace Tells

theorem bool : Tells Value.bool where
  shown _ := by simp [IsShown, Value.IsTemporal, Value.typeName]
  injective _ _ := bool_injective

theorem text : Tells Value.text where
  shown _ := by simp [IsShown, Value.IsTemporal, Value.typeName]
  injective _ _ h := stringText_injective h

theorem int : Tells Value.int where
  shown _ := by simp [IsShown, Value.int, Value.IsTemporal, Value.typeName]
  injective n n' h := Number.int.inj (text_number_injective h)

theorem float : Tells Value.float where
  shown _ := by simp [IsShown, Value.float, Value.IsTemporal, Value.typeName]
  injective x x' h := Number.float.inj (text_number_injective h)

theorem texts : Tells Value.texts where
  shown _ := by simp [IsShown, Value.texts, Value.IsTemporal, Value.typeName]
  injective names names' h := by
    have hitems := canonicalItems_eq h
    rw [canonicalItems_map_text, canonicalItems_map_text] at hitems
    exact stringText_injective.list_map hitems

/-- A choice that is known by its name is known by the text of its name. -/
theorem name {α : Type} {name : α → String} {ofName? : String → Option α}
    (hname : ∀ a, ofName? (name a) = some a) : Tells fun a => Value.text (name a) where
  shown _ := by simp [IsShown, Value.IsTemporal, Value.typeName]
  injective a a' h := by
    have heq := text.injective _ _ h
    rw [← Option.some_inj, ← hname a, ← hname a', heq]

/-- An attribute is known by its texts, if its values are known by theirs. -/
theorem eq_of_slot {α : Type} {write : α → Value} (hw : Tells write) {s s' : Slot α}
    (h : s.texts write = s'.texts write) : s = s' :=
  Slot.eq_of_texts hw.shown (fun value value' _ _ => hw.injective value value') h

/-- An attribute that is never null is known by its texts, if its values are known by theirs. -/
theorem eq_of_option {α : Type} {write : α → Value} (hw : Tells write) {o o' : Option α}
    (h : optionTexts write o = optionTexts write o') : o = o' :=
  eq_of_optionTexts (fun value value' _ _ => hw.injective value value') h

end Tells

/-- Two groups of rules agree in what the texts of their values hide. -/
structure ConfigRules.ValuesAlike (r r' : ConfigRules) : Prop where
  /-- The enumerated values are alike. -/
  values : ∀ vs vs', r.values = .of vs → r'.values = .of vs' → itemsAlike vs vs'
  /-- The JSON Schemas are alike. -/
  jsonSchema : ∀ es es', r.jsonSchema = .of es → r'.jsonSchema = .of es' → entriesAlike es es'

/-- Two fields agree in what the texts of their values hide. -/
structure FieldAttributes.ValuesAlike (a a' : FieldAttributes) : Prop where
  /-- The values that stand for absent ones are alike. -/
  fallback : ∀ v v', a.fallback = some v → a'.fallback = some v' → v.Alike v'
  /-- The enumerated values are alike. -/
  values : ∀ vs vs', a.values = .of vs → a'.values = .of vs' → itemsAlike vs vs'
  /-- The rules agree. -/
  rules : ∀ r r', a.rules = .of r → a'.rules = .of r' → r.ValuesAlike r'

/-- Enumerated values are known by their texts, if they are alike. -/
theorem Slot.eq_of_valueTexts {s s' : Slot (List Value)}
    (ha : ∀ vs vs', s = .of vs → s' = .of vs' → itemsAlike vs vs')
    (h : s.texts (fun values => .list (values.map id)) =
      s'.texts fun values => .list (values.map id)) : s = s' := by
  simp only [List.map_id] at h
  refine eq_of_texts (fun vs => by simp [IsShown, Value.IsTemporal, Value.typeName])
    (fun vs vs' hs hs' heq => ?_) h
  exact eq_of_itemsAlike vs vs' (ha vs vs' hs hs') (canonicalItems_eq heq)

/-- A JSON Schema is known by its text, if it is alike. -/
theorem Slot.eq_of_schemaTexts {s s' : Slot (List (String × Value))}
    (ha : ∀ es es', s = .of es → s' = .of es' → entriesAlike es es')
    (h : s.texts (fun schema => .record (schema.map fun (key, value) => (key, id value))) =
      s'.texts fun schema => .record (schema.map fun (key, value) => (key, id value))) :
    s = s' := by
  have hid (es : List (String × Value)) : es.map (fun (key, value) => (key, id value)) = es :=
    List.map_id es
  simp only [hid] at h
  refine eq_of_texts (fun es => by simp [IsShown, Value.IsTemporal, Value.typeName])
    (fun es es' hs hs' heq => ?_) h
  have halike := ha es es' hs hs'
  exact eq_of_entriesAlike es es' halike (canonicalEntries_eq_of_alike halike heq)

/-- Rules are known by their text, as far as it tells the values in them. -/
theorem ConfigRules.eq_of_canonical {r r' : ConfigRules} (ha : r.ValuesAlike r')
    (h : canonical (r.written id) = canonical (r'.written id)) : r = r' := by
  have hunder := textsUnder_eq h
  simp only [textsUnder_append] at hunder
  simp only [Slot.textsUnder_entry] at hunder
  have hmin := hunder "min"
  have hmax := hunder "max"
  have hpattern := hunder "pattern"
  have henum := hunder "enum"
  have hprotocols := hunder "allowedProtocols"
  have hmessage := hunder "errorMessage"
  have hschema := hunder "jsonSchema"
  simp only [String.reduceEq, if_true, if_false, List.nil_append, List.append_nil]
    at hmin hmax hpattern henum hprotocols hmessage hschema
  have hvalues := Slot.eq_of_valueTexts ha.values henum
  have hjson := Slot.eq_of_schemaTexts ha.jsonSchema hschema
  cases r
  cases r'
  simp only [ConfigRules.mk.injEq]
  exact ⟨Tells.float.eq_of_slot hmin, Tells.float.eq_of_slot hmax, Tells.text.eq_of_slot hpattern,
    hvalues, Tells.texts.eq_of_slot hprotocols, Tells.text.eq_of_slot hmessage, hjson⟩

namespace FieldAttributes

/-- The attributes of a field without its sample, which counts for nothing when data is checked. -/
def unsampled (a : FieldAttributes) : FieldAttributes := { a with sample := none }

/-- The texts of the attributes by their names. -/
def shown (a : FieldAttributes) : List (String × List (List Char)) :=
  [("type", [canonical (.text a.kind.name)]), ("required", optionTexts .bool a.required),
   ("default", optionTexts id a.fallback), ("example", optionTexts id a.sample),
   ("description", a.description.texts .text), ("sensitive", optionTexts .bool a.sensitive),
   ("sanitize", optionTexts .bool a.sanitize),
   ("transform", a.transform.texts fun t => .text t.name),
   ("minLength", a.minLength.texts .int), ("maxLength", a.maxLength.texts .int),
   ("pattern", a.pattern.texts .text), ("format", a.format.texts fun f => .text f.name),
   ("min", a.minimum.texts .float), ("max", a.maximum.texts .float),
   ("integer", optionTexts .bool a.integer), ("precision", a.precision.texts .int),
   ("enum", a.values.texts fun values => .list (values.map id)),
   ("labels", a.labels.texts .texts), ("minItems", a.minItems.texts .int),
   ("maxItems", a.maxItems.texts .int), ("uniqueItems", optionTexts .bool a.uniqueItems),
   ("requiredProperties", a.requiredProperties.texts .texts),
   ("additionalProperties", optionTexts .bool a.additionalProperties),
   ("minDate", a.minDate.texts .text), ("maxDate", a.maxDate.texts .text),
   ("timezone", a.timezone.texts fun rule => .text rule.name),
   ("allowedMimeTypes", a.allowedMimeTypes.texts .texts),
   ("maxFileSize", a.maxFileSize.texts .int), ("secret", optionTexts .bool a.secret),
   ("envVar", a.envVar.texts .text), ("category", a.category.texts .text),
   ("allowRuntimeOverride", optionTexts .bool a.allowRuntimeOverride),
   ("validation", a.rules.texts (·.written id))]

/-- No two attributes have the same name. -/
theorem shown_nodup (a : FieldAttributes) : (a.shown.map Prod.fst).Nodup := by
  simp [shown]

/-- What is written down shows the texts of the attributes under their names. -/
theorem textsUnder_written (key : String) (a : FieldAttributes) :
    textsUnder key (a.written id) = partsUnder key a.shown := by
  unfold written
  simp only [textsUnder_append]
  simp only [textsUnder_singleton]
  simp only [textsUnder_entryOf]
  simp only [Slot.textsUnder_entry]
  simp only [partsUnder, shown, List.flatMap_cons, List.flatMap_nil, List.append_assoc, List.append_nil]

/-- Attributes are known by the texts under their names, as far as these tell the values. -/
theorem unsampled_eq {a a' : FieldAttributes} (ha : a.ValuesAlike a')
    (h : ∀ key ∈ a.shown.map Prod.fst,
      textsUnder key (a.written id) = textsUnder key (a'.written id)) :
    a.unsampled = a'.unsampled := by
  have hshown : a.shown = a'.shown := by
    refine eq_of_partsUnder_eq rfl a.shown_nodup fun key hm => ?_
    rw [← textsUnder_written, ← textsUnder_written]
    exact h key hm
  simp only [shown, List.cons.injEq, Prod.mk.injEq, true_and, and_true] at hshown
  obtain ⟨hkind, hrequired, hfallback, -, hdescription, hsensitive, hsanitize, htransform,
    hminLength, hmaxLength, hpattern, hformat, hmin, hmax, hinteger, hprecision, henum, hlabels,
    hminItems, hmaxItems, hunique, hneeded, hadditional, hminDate, hmaxDate, htimezone, htypes,
    hsize, hsecret, hvariable, hcategory, hoverride, hrules⟩ := hshown
  have hname : Tells fun k : FieldKind => .text k.name := .name FieldKind.ofName?_name
  have hvalue : a.fallback = a'.fallback :=
    eq_of_optionTexts (fun v v' hv hv' heq => eq_of_alike v v' (ha.fallback v v' hv hv') heq)
      hfallback
  have hvalues : a.values = a'.values := Slot.eq_of_valueTexts ha.values henum
  have hrule : a.rules = a'.rules :=
    Slot.eq_of_texts (fun r => by simp [IsShown, ConfigRules.written, Value.IsTemporal,
      Value.typeName]) (fun r r' hr hr' heq => ConfigRules.eq_of_canonical (ha.rules r r' hr hr') heq)
      hrules
  simp only [unsampled, FieldAttributes.mk.injEq]
  exact ⟨hname.injective _ _ hkind, Tells.bool.eq_of_option hrequired, hvalue,
    trivial, Tells.text.eq_of_slot hdescription, Tells.bool.eq_of_option hsensitive,
    Tells.bool.eq_of_option hsanitize, (Tells.name Transform.ofName?_name).eq_of_slot htransform,
    Tells.int.eq_of_slot hminLength, Tells.int.eq_of_slot hmaxLength,
    Tells.text.eq_of_slot hpattern, (Tells.name TextFormat.ofName?_name).eq_of_slot hformat,
    Tells.float.eq_of_slot hmin, Tells.float.eq_of_slot hmax, Tells.bool.eq_of_option hinteger,
    Tells.int.eq_of_slot hprecision, hvalues, Tells.texts.eq_of_slot hlabels,
    Tells.int.eq_of_slot hminItems, Tells.int.eq_of_slot hmaxItems,
    Tells.bool.eq_of_option hunique, Tells.texts.eq_of_slot hneeded,
    Tells.bool.eq_of_option hadditional, Tells.text.eq_of_slot hminDate,
    Tells.text.eq_of_slot hmaxDate, (Tells.name TimezoneRule.ofName?_name).eq_of_slot htimezone,
    Tells.texts.eq_of_slot htypes, Tells.int.eq_of_slot hsize, Tells.bool.eq_of_option hsecret,
    Tells.text.eq_of_slot hvariable, Tells.text.eq_of_slot hcategory,
    Tells.bool.eq_of_option hoverride, hrule⟩

end FieldAttributes

end Intake
