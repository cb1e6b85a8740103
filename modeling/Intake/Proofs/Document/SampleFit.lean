import Intake.Proofs.Document.Sample
import Intake.Proofs.Field.Location
import Intake.Proofs.Validation.Acceptance
import Intake.Proofs.Validation.Order

/-!
# Which examples fit their definitions

Of a definition without declared examples and fallbacks, formats and patterns, an example is always
made. Whether the example conforms is told from the definition: by recursion on it, as conformance is,
from what is declared and not from running the check. Main statement: the check of the definition
passes the example exactly if it fits. What can go wrong: lengths that only the rules of a text
declare, items other than texts that must differ, values that a list enumerates, an enumerated value
that breaks another bound, and parts without a value where one is made up.
-/

namespace Intake

/-- The kinds of fields of which an example is made up of fixed texts and declared bounds. -/
def FieldKind.isPlain : FieldKind → Bool
  | .string | .boolean | .enumeration | .array | .object | .file | .time => true
  | .number | .date | .dateTime | .json | .apiKey | .secret | .url => false

/-- A field of which an example is made up, of a text without a format or a pattern if of a text. -/
structure FieldAttributes.IsPlain (a : FieldAttributes) : Prop where
  /-- An example is made up of fixed texts and declared bounds. -/
  kind : a.kind.isPlain = true
  /-- No example is declared. -/
  sample : a.sample = none
  /-- No fallback is declared. -/
  fallback : a.fallback = none
  /-- A text needs no format. -/
  format : a.kind = .string → a.format.value? = none
  /-- A text needs no pattern. -/
  pattern : a.kind = .string → a.searchText = none

/-- All the fields that a definition is built of are plain, and no property is declared twice. -/
def Definition.IsPlain (d : Definition) : Prop :=
  ∀ path e, d.At path e → e.attributes.IsPlain ∧ e.NamesUnique

/-- The definitions of fields are plain, and no field is declared twice. -/
structure FieldMap.IsPlain (fields : FieldMap) : Prop where
  /-- No field is declared twice. -/
  names : (fields.map (·.1)).Nodup
  /-- The definitions are plain. -/
  plain : ∀ name d, (name, d) ∈ fields → d.IsPlain

mutual

/-- The example of a plain definition fits: an enumerated value that is taken conforms, the lengths
that only the rules of a text declare are kept, a list may have some size, its enumerated values have
the example among them, and examples of parts fit. -/
def Definition.SampleFits (d : Definition) : Prop :=
  match d with
  | ⟨a, items, properties⟩ =>
    match a.declaredSample with
    | some v => Definition.Admits ⟨a, items, properties⟩ v
    | none =>
      match a.kind with
      | .string => (∃ size, IsBetween a.shortest a.longest size) ∧ a.KeepsRuleLengths
      | .enumeration => False
      | .array =>
        (∃ size, IsBetween a.minItems.value? a.maxItems.value? size) ∧
          (∀ values ∈ a.ownValues, ∀ v, Definition.sample ⟨a, items, properties⟩ = .ok v →
            FieldAttributes.Matches values v) ∧ ItemsFit a items
      | .object => PropertiesFit a properties
      | _ => True

/-- The example of an item fits if there is an item; and several that must differ are texts, of which
those with a number conform as well. -/
def ItemsFit (a : FieldAttributes) (items : Slot Definition) : Prop :=
  match items with
  | .of item =>
    0 < a.sampleSize → item.SampleFits ∧ (a.uniqueItems.getD false = true → 1 < a.sampleSize →
      ∃ s, item.sample = .ok (.text s) ∧
        ∀ i, 0 < i → i < a.sampleSize → item.Admits (.text (FieldAttributes.numbered s i)))
  | _ => True

/-- The examples of properties fit. -/
def PropertiesFit (a : FieldAttributes) (properties : Slot FieldMap) : Prop :=
  match properties with
  | .of fields => FieldsFit (a.requiredProperties.value?.getD []) fields
  | _ => True

/-- Every field has null as an example and is not required, or an example that fits. -/
def FieldsFit (required : List String) (fields : FieldMap) : Prop :=
  match fields with
  | [] => True
  | (name, d) :: rest =>
    ((d.sample = .ok .null → d.isRequired = false ∧ name ∉ required) ∧
      (d.sample ≠ .ok .null → d.SampleFits)) ∧ FieldsFit required rest

end

/-- Examples of fields fit one by one. -/
theorem fieldsFit_iff (required : List String) (fields : FieldMap) :
    FieldsFit required fields ↔ ∀ field ∈ fields,
      (field.2.sample = .ok .null → field.2.isRequired = false ∧ field.1 ∉ required) ∧
        (field.2.sample ≠ .ok .null → field.2.SampleFits) := by
  induction fields with
  | nil => simp [FieldsFit]
  | cons field rest ih =>
    obtain ⟨name, d⟩ := field
    rw [FieldsFit, ih, List.forall_mem_cons]

namespace FieldAttributes

variable {a : FieldAttributes}

/-- Only a list has enumerated values of its own and no example among them. -/
theorem ownValues_of_declaredSample (hkind : a.kind ≠ .array) (h : a.declaredSample = none) :
    a.ownValues = none := by
  cases hown : a.ownValues with
  | none => rfl
  | some values =>
    have hne : values ≠ [] := by
      rintro rfl
      simp [ownValues, Option.filter_eq_some_iff] at hown
    obtain ⟨v, rest, rfl⟩ := List.exists_cons_of_ne_nil hne
    simp [declaredSample, choices, hown, hkind] at h

/-- The items of a made-up list differ and conform if the given one does, and if several that must
differ are texts of which those with a number conform. -/
theorem sampleItems_fit_iff (item : Value) (P : Value → Prop) :
    ((a.uniqueItems.getD false = true → ((a.sampleItems item).map Json.canonical).Nodup) ∧
        ∀ part ∈ a.sampleItems item, P part) ↔
      (0 < a.sampleSize → P item ∧ (a.uniqueItems.getD false = true → 1 < a.sampleSize →
        ∃ s, item = .text s ∧ ∀ i, 0 < i → i < a.sampleSize → P (.text (numbered s i)))) := by
  rw [nodup_sampleItems_iff, forall_sampleItems_iff]
  constructor
  · rintro ⟨htexts, hparts⟩ hpos
    obtain ⟨hitem, hlater⟩ := hparts hpos
    refine ⟨hitem, fun hunique hmany => ?_⟩
    obtain ⟨s, rfl⟩ := htexts hunique hmany
    exact ⟨s, rfl, hlater hunique s rfl⟩
  · intro h
    refine ⟨fun hunique hmany => ?_, fun hpos => ⟨(h hpos).1, fun hunique s hs i hi hsize => ?_⟩⟩
    · obtain ⟨s, hs, -⟩ := (h (Nat.zero_lt_of_lt hmany)).2 hunique hmany
      exact ⟨s, hs⟩
    · obtain ⟨s', hs', hnumbered⟩ := (h hpos).2 hunique (by omega)
      cases hs.symm.trans hs'
      exact hnumbered i hi hsize

theorem admitsItems_iff (a : FieldAttributes) (items : List Value) :
    a.AdmitsItems items ↔ IsBetween a.minItems.value? a.maxItems.value? items.length ∧
      (a.uniqueItems.getD false = true → (items.map Json.canonical).Nodup) :=
  ⟨fun h => ⟨h.size, h.distinct⟩, fun h => ⟨h.1, h.2⟩⟩

theorem admitsWhole_list_iff (hkind : a.kind = .array) (items : List Value) :
    a.AdmitsWhole (.list items) ↔ a.AdmitsItems items := by
  rw [AdmitsWhole, hkind]
  simp

theorem admitsWhole_record (hkind : a.kind = .object) (entries : List (String × Value)) :
    a.AdmitsWhole (.record entries) := by
  rw [AdmitsWhole, hkind]
  exact ⟨entries, rfl⟩

/-- Without enumerated values of its own every value is a member. -/
theorem admitsMember_of_ownValues (h : a.ownValues = none) (v : Value) : a.AdmitsMember v := by
  intro _ values hm
  rw [h] at hm
  cases hm

end FieldAttributes

namespace Definition

variable {d : Definition} {v : Value}

theorem admits_iff (d : Definition) (v : Value) :
    d.Admits v ↔ d.attributes.AdmitsWhole v ∧ d.attributes.AdmitsMember v ∧
      (d.kind = .array → ItemsConform d.items v) ∧
      (d.kind = .object → PropertiesConform d.attributes d.properties v) := by
  obtain ⟨a, items, properties⟩ := d
  rw [Admits]
  rfl

/-- A declared example or an enumerated value is the example. -/
theorem sample_of_declared (h : d.attributes.declaredSample = some v) : d.sample = .ok v := by
  obtain ⟨a, items, properties⟩ := d
  rw [sample]
  dsimp only at h
  rw [h]

theorem sample_of_items {item : Definition} (hkind : d.kind = .array) (hi : d.items = .of item)
    (h : d.attributes.declaredSample = none) :
    d.sample = item.sample.map d.attributes.sampleList := by
  obtain ⟨a, items, properties⟩ := d
  change a.kind = .array at hkind
  dsimp only at h hi
  rw [sample, h, hi]
  dsimp only
  rw [hkind]
  dsimp only
  rw [sampleOfItems]

theorem sample_of_properties {fields : FieldMap} (hkind : d.kind = .object)
    (hp : d.properties = .of fields) (h : d.attributes.declaredSample = none) :
    d.sample = (sampleFields fields).map .record := by
  obtain ⟨a, items, properties⟩ := d
  change a.kind = .object at hkind
  dsimp only at h hp
  rw [sample, h, hp]
  dsimp only
  rw [hkind]
  dsimp only
  rw [sampleOfProperties]

theorem sample_of_whole (hw : d.IsWhole) (h : d.attributes.declaredSample = none) :
    d.sample = d.attributes.madeUpSample := by
  obtain ⟨a, items, properties⟩ := d
  dsimp only at h
  rw [sample, h]
  dsimp only
  split
  · rename_i hkind
    rw [sampleOfItems]
    exact fun item hi => hw.items hkind item hi
  · rename_i hkind
    rw [sampleOfProperties]
    exact fun fields hp => hw.properties hkind fields hp
  · rfl

/-- An example is made, and it conforms exactly if it fits. -/
def Exemplifies (d : Definition) : Prop :=
  ∃ v, d.sample = .ok v ∧ (d.Admits v ↔ d.SampleFits)

theorem exemplifies_of_declared (h : d.attributes.declaredSample = some v) : d.Exemplifies := by
  refine ⟨v, sample_of_declared h, ?_⟩
  obtain ⟨a, items, properties⟩ := d
  dsimp only at h
  rw [SampleFits, h]

/-- The example of a list fits if a list can have some size, the enumerated values have it among them,
and the examples of its items fit. -/
theorem sampleFits_list_iff (hkind : d.kind = .array) (h : d.attributes.declaredSample = none)
    (hsample : d.sample = .ok v) :
    d.SampleFits ↔
      (∃ size, IsBetween d.attributes.minItems.value? d.attributes.maxItems.value? size) ∧
        (∀ values ∈ d.attributes.ownValues, FieldAttributes.Matches values v) ∧
        ItemsFit d.attributes d.items := by
  obtain ⟨a, items, properties⟩ := d
  change a.kind = .array at hkind
  dsimp only at h hsample ⊢
  rw [SampleFits, h, hsample]
  dsimp only
  rw [hkind]
  simp only [Except.ok.injEq, forall_eq']

/-- The example of a record fits if those of its properties do. -/
theorem sampleFits_record_iff (hkind : d.kind = .object) (h : d.attributes.declaredSample = none) :
    d.SampleFits ↔ PropertiesFit d.attributes d.properties := by
  obtain ⟨a, items, properties⟩ := d
  change a.kind = .object at hkind
  dsimp only at h ⊢
  rw [SampleFits, h]
  dsimp only
  rw [hkind]

/-- A made-up list exemplifies its definition if its items do, whatever they are taken from. -/
theorem exemplifies_list {item : Value} (hkind : d.kind = .array)
    (h : d.attributes.declaredSample = none)
    (hsample : d.sample = .ok (d.attributes.sampleList item))
    (hitems : ((d.attributes.uniqueItems.getD false = true →
          ((d.attributes.sampleItems item).map Json.canonical).Nodup) ∧
        ItemsConform d.items (.list (d.attributes.sampleItems item))) ↔
      ItemsFit d.attributes d.items) : d.Exemplifies := by
  refine ⟨_, hsample, ?_⟩
  have hkind' : d.attributes.kind = .array := hkind
  rw [admits_iff, sampleFits_list_iff hkind h hsample, FieldAttributes.sampleList_eq,
    FieldAttributes.admitsWhole_list_iff hkind', FieldAttributes.admitsItems_iff,
    FieldAttributes.length_sampleItems, FieldAttributes.isBetween_sampleSize_iff,
    FieldAttributes.AdmitsMember, ← hitems]
  simp only [hkind, hkind', ne_eq, reduceCtorEq, not_false_eq_true, forall_const, false_imp_iff,
    and_true]
  tauto

theorem exemplifies_items {item : Definition} (hkind : d.kind = .array) (hi : d.items = .of item)
    (h : d.attributes.declaredSample = none) (hitem : item.Exemplifies) : d.Exemplifies := by
  obtain ⟨w, hw, hadmits⟩ := hitem
  have hsample : d.sample = .ok (d.attributes.sampleList w) := by
    rw [sample_of_items hkind hi h, hw]
    rfl
  refine exemplifies_list hkind h hsample ?_
  rw [hi, ItemsFit, ← hadmits, hw]
  simp only [ItemsConform, Value.list.injEq, forall_eq', Except.ok.injEq]
  exact FieldAttributes.sampleItems_fit_iff w item.Admits

/-- Examples of fields exemplify a record, in their order. -/
theorem exists_sampleFields {fields : FieldMap}
    (h : ∀ name p, (name, p) ∈ fields → ∃ v, p.sample = .ok v) :
    ∃ entries, sampleFields fields = .ok entries ∧
      entries.map (·.1) = fields.map (·.1) ∧
      ∀ name p v, (name, p) ∈ fields → p.sample = .ok v → (name, v) ∈ entries := by
  induction fields with
  | nil => exact ⟨[], rfl, rfl, fun _ _ _ hm => absurd hm List.not_mem_nil⟩
  | cons field rest ih =>
    obtain ⟨name, p⟩ := field
    obtain ⟨v, hv⟩ := h name p List.mem_cons_self
    obtain ⟨entries, hentries, hnames, hmem⟩ := ih fun n q hm => h n q (List.mem_cons_of_mem _ hm)
    refine ⟨(name, v) :: entries, ?_, by simp [hnames], fun n q w hm hw => ?_⟩
    · rw [sampleFields, hv, hentries]
      rfl
    · rcases List.mem_cons.mp hm with heq | hm
      · cases heq
        cases hv.symm.trans hw
        exact List.mem_cons_self
      · exact List.mem_cons_of_mem _ (hmem n q w hm hw)

/-- A record of examples conforms exactly if the examples of its fields fit. -/
theorem exists_sampleFields_conform_iff {fields : FieldMap} (hnames : (fields.map (·.1)).Nodup)
    (h : ∀ name p, (name, p) ∈ fields → p.Exemplifies) :
    ∃ entries, sampleFields fields = .ok entries ∧ entries.map (·.1) = fields.map (·.1) ∧
      ∀ required, FieldsConform required fields entries ↔ FieldsFit required fields := by
  obtain ⟨entries, hentries, hkeys, hmem⟩ := exists_sampleFields fun name p hm => by
    obtain ⟨v, hv, -⟩ := h name p hm
    exact ⟨v, hv⟩
  refine ⟨entries, hentries, hkeys, fun required => ?_⟩
  rw [fieldsConform_iff, fieldsFit_iff]
  refine forall₂_congr fun ⟨name, p⟩ hm => ?_
  obtain ⟨v, hv, hadmits⟩ := h name p hm
  have hlookup : entries.lookup name = some v :=
    lookup_of_mem (hkeys ▸ hnames) (hmem name p v hm hv)
  dsimp only
  rw [hv, present?, hlookup]
  -- Null under a name counts as nothing there.
  by_cases hnull : v = .null
  · subst hnull
    simp [Option.filter, Value.isNull]
  · have hpresent : v.isNull = false := by
      cases v with
      | null => exact absurd rfl hnull
      | _ => rfl
    simp [Option.filter, hpresent, hnull, hadmits]

theorem exemplifies_properties {fields : FieldMap} (hkind : d.kind = .object)
    (hp : d.properties = .of fields) (h : d.attributes.declaredSample = none)
    (hnames : (fields.map (·.1)).Nodup) (hfields : ∀ name p, (name, p) ∈ fields → p.Exemplifies) :
    d.Exemplifies := by
  obtain ⟨entries, hentries, hkeys, hconform⟩ := exists_sampleFields_conform_iff hnames hfields
  have hsample : d.sample = .ok (.record entries) := by
    rw [sample_of_properties hkind hp h, hentries]
    rfl
  refine ⟨_, hsample, ?_⟩
  have hkind' : d.attributes.kind = .object := hkind
  have hmember := FieldAttributes.admitsMember_of_ownValues
    (FieldAttributes.ownValues_of_declaredSample (by simp [hkind']) h) (.record entries)
  have hdeclared : ∀ entry ∈ entries, entry.1 ∈ fields.map (·.1) := fun entry hm =>
    hkeys ▸ List.mem_map_of_mem hm
  have hproperties : PropertiesConform d.attributes d.properties (.record entries) ↔
      PropertiesFit d.attributes d.properties := by
    rw [hp, PropertiesConform, PropertiesFit, ← hconform]
    exact ⟨fun h => (h entries rfl).1, fun h _ heq => by
      cases heq
      exact ⟨h, fun _ => hdeclared⟩⟩
  rw [admits_iff, sampleFits_record_iff hkind h, ← hproperties]
  simp only [FieldAttributes.admitsWhole_record hkind', hmember, hkind, reduceCtorEq, false_imp_iff,
    true_and, forall_const]

/-- A made-up text conforms if a text can, and the lengths that only the rules declare are kept. -/
theorem admitsText_sampleText_iff {a : FieldAttributes} (hk : a.kind = .string) (plain : a.IsPlain) :
    a.AdmitsText a.sampleText ↔
      (∃ size, IsBetween a.shortest a.longest size) ∧ a.KeepsRuleLengths := by
  rw [← a.isBetween_sampleText_iff hk (plain.format hk)]
  refine ⟨fun h => h.length, fun h => ⟨h, ?_, ?_⟩⟩
  · rw [plain.pattern hk]
    exact fun _ hm => absurd hm (Option.not_mem_none _)
  · rw [plain.format hk]
    exact fun _ hm => absurd hm (Option.not_mem_none _)

/-- A list of which no definition of items is looked at is made up of texts. -/
theorem exemplifies_texts (hw : d.IsWhole) (hkind : d.kind = .array)
    (h : d.attributes.declaredSample = none) : d.Exemplifies := by
  have hmade : d.attributes.madeUpSample = .ok (d.attributes.sampleList (.text "item")) := by
    rw [FieldAttributes.madeUpSample, show d.attributes.kind = .array from hkind]
  refine exemplifies_list hkind h ((sample_of_whole hw h).trans hmade) ?_
  have hconform (v : Value) : ItemsConform d.items v := by
    rw [ItemsConform]
    · trivial
    · exact hw.items hkind
  have hfit : ItemsFit d.attributes d.items := by
    rw [ItemsFit]
    · trivial
    · exact hw.items hkind
  have hdiffer := (d.attributes.nodup_sampleItems_iff (.text "item")).mpr fun _ _ => ⟨_, rfl⟩
  exact iff_of_true ⟨hdiffer, hconform _⟩ hfit

/-- A made-up value of which no part is looked at exemplifies its definition. -/
theorem exemplifies_whole (hw : d.IsWhole) (h : d.attributes.declaredSample = none)
    (plain : d.attributes.IsPlain) : d.Exemplifies := by
  by_cases harray : d.kind = .array
  · exact exemplifies_texts hw harray h
  have hsample := sample_of_whole hw h
  have hmember := FieldAttributes.admitsMember_of_ownValues
    (FieldAttributes.ownValues_of_declaredSample harray h)
  obtain ⟨a, items, properties⟩ := d
  unfold Exemplifies
  simp only [admits_iff, hmember, true_and]
  dsimp only at h hsample plain ⊢
  rw [SampleFits, h, hsample]
  unfold FieldAttributes.madeUpSample FieldAttributes.AdmitsWhole Definition.kind
  have hkind := plain.kind
  cases hk : a.kind with
  | string =>
    refine ⟨_, rfl, ?_⟩
    rw [← admitsText_sampleText_iff hk plain]
    simp
  | boolean => exact ⟨_, rfl, by simp⟩
  | enumeration =>
    -- An enumeration without values has no value at all.
    have hnone : a.choices.getD [] = [] := by
      have hhead : a.choices.bind (·.head?) = none := by
        simpa [FieldAttributes.declaredSample, plain.sample, plain.fallback, hk] using h
      cases hchoices : a.choices with
      | none => rfl
      | some values => exact List.head?_eq_none_iff.mp (by simpa [hchoices] using hhead)
    refine ⟨_, rfl, ?_⟩
    simp [hnone, FieldAttributes.Matches]
  | object =>
    have hconform (v : Value) : PropertiesConform a properties v := by
      rw [PropertiesConform]
      · trivial
      · exact hw.properties hk
    have hfit : PropertiesFit a properties := by
      rw [PropertiesFit]
      · trivial
      · exact hw.properties hk
    exact ⟨_, rfl, by simp [hconform, hfit]⟩
  | file => exact ⟨_, rfl, by simp [a.admitsFile_sampleFile]⟩
  | time => exact ⟨_, rfl, by simp [show isClockTimeText "12:00:00" = true by decide]⟩
  | array => exact absurd hk harray
  | number | date | dateTime | json | apiKey | secret | url =>
    rw [hk] at hkind
    cases hkind

/-- Of a plain definition an example is made, and it conforms exactly if it fits. -/
theorem exemplifies (plain : d.IsPlain) : d.Exemplifies := by
  induction d using nested_induction with
  | step d items properties =>
    obtain ⟨hplain, hnames⟩ := plain [] d (.here d)
    cases h : d.attributes.declaredSample with
    | some v => exact exemplifies_of_declared h
    | none =>
      rcases d.shape with ⟨hkind, item, hi⟩ | ⟨hkind, fields, hp⟩ | hw
      · have hitem := ((forall_at_items_iff hkind hi).mp plain).2
        exact exemplifies_items hkind hi h (items item hi hitem)
      · have hfields := ((forall_at_properties_iff hkind hp).mp plain).2
        exact exemplifies_properties hkind hp h (hnames hkind hp) fun name p hm =>
          properties fields hp name p hm (hfields name p hm)
      · exact exemplifies_whole hw h hplain

/-- Of a plain definition an example is made, and its check passes the example exactly if it fits,
everywhere and under all options. -/
theorem sample_passes_iff (plain : d.IsPlain) {label : String} {check : Check}
    (hc : d.compile label = .ok check) :
    ∃ v, d.sample = .ok v ∧ ∀ (options : Options) (path : DataPath),
      Passes (check.run options path v) ↔ d.SampleFits := by
  obtain ⟨v, hv, hadmits⟩ := exemplifies plain
  exact ⟨v, hv, fun options path => (passes_iff_admits d hc options path v).trans hadmits⟩

end Definition

end Intake
