import Intake.Proofs.Field.Place
import Intake.Proofs.Validation.Acceptance

/-!
# Making definitions with the same text ready

Main statements: definitions with the same text whose values are alike can be made ready under the
same circumstances. They are made ready as the same check, if their records declare properties in the
same order as well.
-/

namespace Intake

open Json

namespace FieldAttributes

variable {a a' : FieldAttributes}

/-- Attributes that are the same without their samples are the same in every other respect. -/
theorem apply_eq {α : Type} {f : FieldAttributes → α} (hf : ∀ a : FieldAttributes, f a = f a.unsampled)
    (h : a.unsampled = a'.unsampled) : f a = f a' := by
  rw [hf a, h, ← hf a']

/-- The rule of a field does not depend on its sample. -/
theorem leafRule_eq (h : a.unsampled = a'.unsampled) (label : String) :
    Compile.leafRule label a = Compile.leafRule label a' :=
  apply_eq (fun _ => rfl) h

/-- What a check knows of its field does not depend on the sample. -/
theorem subject_eq (h : a.unsampled = a'.unsampled) (label : String) :
    Compile.subject label a = Compile.subject label a' :=
  apply_eq (fun _ => rfl) h

/-- What is asked of a list does not depend on the sample. -/
theorem listRule_eq (h : a.unsampled = a'.unsampled) : Compile.listRule a = Compile.listRule a' :=
  apply_eq (fun _ => rfl) h

end FieldAttributes

namespace Definition

variable {d d' : Definition} {label : String}

theorem compile_of_items {item : Definition} (hk : d.kind = .array) (hi : d.items = .of item) :
    d.compile label = compileItems label d.attributes (.of item) := by
  obtain ⟨a, items, properties⟩ := d
  have hkind : a.kind = .array := hk
  rw [compile, hkind, ← hi]

theorem compile_of_properties {fields : FieldMap} (hk : d.kind = .object)
    (hp : d.properties = .of fields) :
    d.compile label = compileProperties label d.attributes (.of fields) := by
  obtain ⟨a, items, properties⟩ := d
  have hkind : a.kind = .object := hk
  rw [compile, hkind, ← hp]

/-- A definition in which none is looked at is made ready as a whole. -/
theorem compile_of_whole (hw : d.IsWhole) :
    d.compile label =
      (Compile.leafRule label d.attributes).map (.leaf (Compile.subject label d.attributes)) := by
  obtain ⟨a, items, properties⟩ := d
  rw [compile]
  split
  · rename_i hk
    cases items with
    | of item => exact absurd rfl (hw.items hk item)
    | undeclared => rw [compileItems]; simp
    | null => rw [compileItems]; simp
  · rename_i hk
    cases properties with
    | of fields => exact absurd rfl (hw.properties hk fields)
    | undeclared => rw [compileProperties]; simp
    | null => rw [compileProperties]; simp
  · rfl

/-- Fields with the same texts in the same order are made ready as the same checks, if each two with
the same text are. -/
theorem compileFields_eq {fields fields' : FieldMap} (labelOf : String → String)
    (htexts : (fields.map fun field => (field.1, canonical field.2.plain)) =
      fields'.map fun field => (field.1, canonical field.2.plain))
    (h : ∀ name p p', (name, p) ∈ fields → (name, p') ∈ fields' →
      canonical p.plain = canonical p'.plain → ∀ label, p.compile label = p'.compile label) :
    compileFields labelOf fields = compileFields labelOf fields' := by
  induction fields generalizing fields' with
  | nil =>
    cases fields' with
    | nil => rfl
    | cons field' rest' => cases htexts
  | cons field rest ih =>
    cases fields' with
    | nil => cases htexts
    | cons field' rest' =>
      obtain ⟨name, p⟩ := field
      obtain ⟨name', p'⟩ := field'
      obtain ⟨hfield, hrest⟩ := List.cons.inj htexts
      obtain ⟨rfl, htext⟩ := Prod.mk.inj hfield
      have hp := h name p p' List.mem_cons_self List.mem_cons_self htext (labelOf name)
      have hothers := ih hrest fun name q q' hm hm' =>
        h name q q' (List.mem_cons_of_mem _ hm) (List.mem_cons_of_mem _ hm')
      rw [compileFields, compileFields, hp, hothers]

/-- Definitions with the same text are made ready as the same check, if their values are alike and
their records declare properties in the same order. -/
theorem compile_eq (d : Definition) {d' : Definition} (h : canonical d.plain = canonical d'.plain)
    (hv : Everywhere AlikeHere d d') (ho : Everywhere OrderedHere d d') (label : String) :
    d.compile label = d'.compile label := by
  induction d using nested_induction generalizing d' label with
  | step d hitems hproperties =>
    have ha := unsampled_eq h hv.here
    have hsubject := FieldAttributes.subject_eq ha label
    cases sameShape h hv.here with
    | list hk hk' hi hi' htext =>
      have hitem := hitems _ hi htext (hv.items hk hi hi') (ho.items hk hi hi') (label ++ "[]")
      rw [compile_of_items hk hi, compile_of_items hk' hi', compileItems, compileItems, hitem,
        hsubject, FieldAttributes.listRule_eq ha]
    | record hk hk' hp hp' htext =>
      have hnames := ho.here hk
      rw [propertyNames, propertyNames, hp, hp'] at hnames
      have hfields := compileFields_eq (fun name => label ++ "." ++ name)
        (FieldMap.texts_eq_of_names_eq htext hnames) fun name p p' hm hm' heq =>
          hproperties _ hp name p hm heq (hv.properties hk hp hp' name p p' hm hm')
            (ho.properties hk hp hp' name p p' hm hm')
      have hneeded : d.attributes.requiredProperties = d'.attributes.requiredProperties :=
        FieldAttributes.apply_eq (fun _ => rfl) ha
      have hadditional : d.attributes.additionalProperties = d'.attributes.additionalProperties :=
        FieldAttributes.apply_eq (fun _ => rfl) ha
      rw [compile_of_properties hk hp, compile_of_properties hk' hp', compileProperties,
        compileProperties, hfields, hsubject, hneeded, hadditional]
    | whole hw hw' =>
      rw [compile_of_whole hw, compile_of_whole hw', FieldAttributes.leafRule_eq ha, hsubject]

/-- A definition can be made ready under a label. -/
def Compiles (label : String) (d : Definition) : Prop := ∃ check, d.compile label = .ok check

/-- A list can be made ready if and only if its items can. -/
theorem items_compile_iff (label : String) (a : FieldAttributes) (item : Definition) :
    (∃ check, compileItems label a (.of item) = .ok check) ↔ Compiles (label ++ "[]") item := by
  unfold Compiles
  rw [compileItems]
  cases item.compile (label ++ "[]") with
  | error e => simp
  | ok check => simp

/-- Fields can be made ready if and only if each of them can. -/
theorem fields_compile_iff (labelOf : String → String) (fields : FieldMap) :
    (∃ checks, compileFields labelOf fields = .ok checks) ↔
      ∀ name p, (name, p) ∈ fields → Compiles (labelOf name) p := by
  induction fields with
  | nil => simp [compileFields]
  | cons field rest ih =>
    obtain ⟨name, p⟩ := field
    have hrest : (∀ other q, (other, q) ∈ (name, p) :: rest → Compiles (labelOf other) q) ↔
        Compiles (labelOf name) p ∧ ∃ checks, compileFields labelOf rest = .ok checks := by
      rw [ih]
      constructor
      · intro h
        exact ⟨h name p List.mem_cons_self, fun other q hm => h other q (List.mem_cons_of_mem _ hm)⟩
      · rintro ⟨hp, hothers⟩ other q hm
        rcases List.mem_cons.mp hm with heq | hm
        · cases heq
          exact hp
        · exact hothers other q hm
    rw [hrest, compileFields]
    unfold Compiles
    cases p.compile (labelOf name) with
    | error e => simp
    | ok check =>
      cases compileFields labelOf rest with
      | error e => simp
      | ok checks => simp

/-- No required property is undeclared if and only if each of them is declared. -/
theorem undeclaredNames_eq_nil_iff (required declared : List String) :
    Compile.undeclaredNames required declared = [] ↔ ∀ name ∈ required, name ∈ declared := by
  unfold Compile.undeclaredNames Compile.distinctSorted
  rw [← List.length_eq_zero_iff, List.length_mergeSort, List.length_eq_zero_iff]
  constructor
  · intro h name hm
    by_contra hname
    have hmem : name ∈ required.filter (!declared.contains ·) := by simp [hm, hname]
    rw [← List.mem_eraseDups, h] at hmem
    cases hmem
  · intro h
    have hnil : required.filter (!declared.contains ·) = [] := by simpa using h
    rw [hnil]
    rfl

/-- A list is made ready with its items. -/
theorem compile_of_item {item : Definition} {part : Check} (hk : d.kind = .array)
    (hi : d.items = .of item) (hpart : item.compile (label ++ "[]") = .ok part) :
    d.compile label =
      .ok (.listOf (Compile.subject label d.attributes) (Compile.listRule d.attributes) part) := by
  rw [compile_of_items hk hi, compileItems, hpart]

/-- A record that declares the properties it requires is made ready with its properties. -/
theorem compile_of_declared {fields : FieldMap} {checks : List (String × Check)}
    (hk : d.kind = .object) (hp : d.properties = .of fields)
    (hchecks : compileFields (fun name => label ++ "." ++ name) fields = .ok checks)
    (hrequired : ∀ name ∈ d.attributes.requiredProperties.value?.getD [],
      name ∈ fields.map (·.1)) :
    d.compile label = .ok (.recordOf (Compile.subject label d.attributes)
      ⟨d.attributes.requiredProperties.value?.getD [],
        d.attributes.additionalProperties.getD false⟩ checks) := by
  have hnames : checks.map (·.1) = fields.map (·.1) := names_of_compileFields hchecks
  have hnil := (undeclaredNames_eq_nil_iff _ _).mpr hrequired
  rw [compile_of_properties hk hp, compileProperties, hchecks]
  dsimp only
  rw [hnames, hnil]

/-- Fields are made ready one after the other. -/
theorem compileFields_cons_of_ok {labelOf : String → String} {name : String} {rest : FieldMap}
    {part : Check} {checks : List (String × Check)} (hpart : d.compile (labelOf name) = .ok part)
    (hrest : compileFields labelOf rest = .ok checks) :
    compileFields labelOf ((name, d) :: rest) = .ok ((name, part) :: checks) := by
  rw [compileFields, hpart]
  dsimp only
  rw [hrest]

/-- A record can be made ready if and only if its properties can and include the required ones. -/
theorem properties_compile_iff (label : String) (a : FieldAttributes) (fields : FieldMap) :
    (∃ check, compileProperties label a (.of fields) = .ok check) ↔
      (∀ name p, (name, p) ∈ fields → Compiles (label ++ "." ++ name) p) ∧
        ∀ name ∈ a.requiredProperties.value?.getD [], name ∈ fields.map (·.1) := by
  rw [← fields_compile_iff fun name => label ++ "." ++ name, compileProperties]
  cases hchecks : compileFields (fun name => label ++ "." ++ name) fields with
  | error e => simp
  | ok checks =>
    rw [← undeclaredNames_eq_nil_iff, ← names_of_compileFields hchecks]
    dsimp only
    cases Compile.undeclaredNames (a.requiredProperties.value?.getD []) (checks.map Prod.fst) with
    | nil => simp
    | cons name others => simp

/-- Each of some fields can be made ready if and only if each of others with the same text can. -/
theorem all_compile_iff {fields fields' : FieldMap}
    (htext : canonical (fieldsRecord fields) = canonical (fieldsRecord fields'))
    (labelOf : String → String)
    (h : ∀ name p p', (name, p) ∈ fields → (name, p') ∈ fields' →
      canonical p.plain = canonical p'.plain → ∀ label, Compiles label p ↔ Compiles label p') :
    (∀ name p, (name, p) ∈ fields → Compiles (labelOf name) p) ↔
      ∀ name p, (name, p) ∈ fields' → Compiles (labelOf name) p := by
  constructor
  · intro hall name p' hm'
    obtain ⟨p, hm, heq⟩ := FieldMap.exists_field htext.symm hm'
    exact (h name p p' hm hm' heq.symm _).mp (hall name p hm)
  · intro hall name p hm
    obtain ⟨p', hm', heq⟩ := FieldMap.exists_field htext hm
    exact (h name p p' hm hm' heq _).mpr (hall name p' hm')

/-- Definitions with the same text whose values are alike can be made ready under the same
circumstances. -/
theorem compiles_iff (d : Definition) {d' : Definition}
    (h : canonical d.plain = canonical d'.plain) (hv : Everywhere AlikeHere d d') (label : String) :
    Compiles label d ↔ Compiles label d' := by
  induction d using nested_induction generalizing d' label with
  | step d hitems hproperties =>
    have ha := unsampled_eq h hv.here
    unfold Compiles
    cases sameShape h hv.here with
    | list hk hk' hi hi' htext =>
      rw [compile_of_items hk hi, compile_of_items hk' hi', items_compile_iff, items_compile_iff]
      exact hitems _ hi htext (hv.items hk hi hi') (label ++ "[]")
    | @record fields fields' hk hk' hp hp' htext =>
      have hneeded : d.attributes.requiredProperties = d'.attributes.requiredProperties :=
        FieldAttributes.apply_eq (fun _ => rfl) ha
      have hfields := all_compile_iff htext (fun name => label ++ "." ++ name)
        fun name p p' hm hm' heq =>
          hproperties _ hp name p hm heq (hv.properties hk hp hp' name p p' hm hm')
      have hnames (name : String) : name ∈ fields.map (·.1) ↔ name ∈ fields'.map (·.1) :=
        (FieldMap.perm_names htext).mem_iff
      rw [compile_of_properties hk hp, compile_of_properties hk' hp', properties_compile_iff,
        properties_compile_iff, hfields, hneeded]
      simp only [hnames]
    | whole hw hw' =>
      rw [compile_of_whole hw, compile_of_whole hw', FieldAttributes.leafRule_eq ha,
        FieldAttributes.subject_eq ha]

end Definition

end Intake
