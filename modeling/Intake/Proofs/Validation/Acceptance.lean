import Intake.Proofs.Validation.Rule

/-!
# What validation accepts

A validator made of definitions accepts exactly the data that conforms to them: the checks of lists
and records follow the recursion of the definitions, and where a check stops early there is an issue
already. Which issues are reported, and in what order, is not covered here.
-/

namespace Intake

/-- A check that looks at enumerated members passes what it passes without and what is among
them. -/
theorem Site.issues_withMembers_eq_nil_iff (site : Site) (v : Value) (o : Outcome) :
    (site.withMembers v o).issues = [] ↔
      o.issues = [] ∧ ∀ values ∈ site.subject.members, FieldAttributes.Matches values v := by
  unfold withMembers
  cases site.subject.members with
  | none => simp
  | some values =>
    have hm := isMember_iff v values
    cases hi : o.issues with
    | nil => cases hb : isMember v values <;> simp [Outcome.isAccepted, hi, hb, ← hm]
    | cons first others => simp [Outcome.isAccepted, hi]

/-- Where nothing is wrong with a value after enumerated members are looked at, nothing was wrong with
it before, and looking at them leaves every outcome for the value as it is. -/
theorem Site.withMembers_of_passes {site : Site} {v : Value} {passed : Outcome}
    (h : (site.withMembers v passed).issues = []) :
    passed.issues = [] ∧ ∀ o, site.withMembers v o = o := by
  unfold withMembers at h ⊢
  cases hmembers : site.subject.members with
  | none => simpa [hmembers] using h
  | some values =>
    cases hmember : isMember v values with
    | true => simpa [hmembers, hmember] using h
    | false =>
      cases hissues : passed.issues <;> simp [hmembers, hmember, Outcome.isAccepted, hissues] at h

/-- Enumerated members are looked at in a value that is accepted; what comes out is what went in. -/
theorem Site.withMembers_eq_accept_iff {site : Site} {v w : Value} {o : Outcome} :
    site.withMembers v o = .accept w ↔ o = .accept w ∧ ∀ o, site.withMembers v o = o := by
  constructor
  · intro h
    have hnil : (site.withMembers v o).issues = [] := by
      rw [h]
      rfl
    obtain ⟨-, hsame⟩ := withMembers_of_passes hnil
    exact ⟨(hsame o).symm.trans h, hsame⟩
  · rintro ⟨rfl, hsame⟩
    exact hsame _

/-- What a check knows of the members of its field. -/
theorem matches_members_iff (label : String) (a : FieldAttributes) (v : Value) :
    (∀ values ∈ (Compile.subject label a).members, FieldAttributes.Matches values v) ↔
      a.AdmitsMember v := by
  unfold FieldAttributes.AdmitsMember
  by_cases hk : a.kind = .enumeration <;> simp [Compile.subject, hk]

/-- No members are enumerated for a check whose definition enumerates none. -/
theorem Compile.members_eq_none (label : String) {a : FieldAttributes} (h : a.ownValues = none) :
    (subject label a).members = none := by
  simp [subject, h]

/-- The items of a list pass one by one, if no issue was pending or the check does not stop. -/
theorem gatherItems_passes_iff {check : DataPath → Value → Except Failure Outcome}
    {p : Value → Prop} (h : ∀ path v, Passes (check path v) ↔ p v) (stop : Bool) (path : DataPath)
    (i : Nat) (items : List Value) :
    (∃ found, gatherItems stop false check path i items = .ok found ∧ found.issues = []) ↔
      ∀ v ∈ items, p v := by
  induction items generalizing i with
  | nil => simp [gatherItems]
  | cons v rest ih =>
    have hv := h (path ++ [.index i]) v
    simp only [gatherItems, List.mem_cons, forall_eq_or_imp, ← ih (i + 1), ← hv]
    cases check (path ++ [.index i]) v with
    | error failure => simp
    | ok first =>
      dsimp only
      cases hf : first.issues with
      | nil =>
        cases gatherItems stop false check path (i + 1) rest with
        | error failure => simp [Outcome.isAccepted, hf]
        | ok others => simp [Outcome.isAccepted, hf]
      | cons issue more =>
        cases stop with
        | true => simp [Outcome.isAccepted, hf]
        | false => cases gatherItems false false check path (i + 1) rest <;> simp [hf]

/-- Nothing is refused where there is nothing to refuse. -/
theorem issues_closeRecord_eq_nil_iff (options : Options) (unknown : UnknownKeys) (path : DataPath)
    (declared : List String) (data : List (String × Value))
    (found : Gathered (List (String × Value))) :
    (closeRecord options unknown path declared data found).issues = [] ↔
      found.issues = [] ∧ (unknown = .refuse → ∀ entry ∈ data, entry.1 ∈ declared) := by
  have hlimit (issues : List Issue) : limitIssues options.abortEarly issues = [] ↔ issues = [] := by
    unfold limitIssues
    cases options.abortEarly <;> cases issues <;> simp
  have hothers : undeclaredKeys declared data = [] ↔ ∀ entry ∈ data, entry.1 ∈ declared := by
    simp [undeclaredKeys, List.filter_eq_nil_iff]
  unfold closeRecord
  dsimp only
  rw [hlimit, List.append_eq_nil_iff, ← hothers]
  cases undeclaredKeys declared data <;> simp

/-- What is made of an absent property is an issue exactly if the property is required. -/
theorem issues_resolveAbsent_eq_nil_iff (site : Site) (name : String) (required : Bool) :
    (site.resolveAbsent name required).issues = [] ↔ required = false := by
  unfold Site.resolveAbsent
  cases required with
  | true => simp
  | false => cases site.subject.fallback <;> simp

/-- What a check knows of its field is what the definition says. -/
theorem subject_of_compile {label : String} {d : Definition} {check : Check}
    (h : d.compile label = .ok check) : check.subject = Compile.subject label d.attributes := by
  obtain ⟨a, items, properties⟩ := d
  have leaf {check : Check}
      (h : (Compile.leafRule label a).map (Check.leaf (Compile.subject label a)) = .ok check) :
      check.subject = Compile.subject label a := by
    cases hr : Compile.leafRule label a with
    | error e => rw [hr] at h; cases h
    | ok rule =>
      rw [hr] at h
      cases h
      rfl
  rw [Definition.compile] at h
  split at h
  · unfold compileItems at h
    split at h
    · split at h
      · cases h
        rfl
      · cases h
    · exact leaf h
  · unfold compileProperties at h
    split at h
    · split at h
      · cases h
      · dsimp only at h
        split at h
        · cases h
          rfl
        · cases h
    · exact leaf h
  · exact leaf h

/-- The checks of fields bear their names. -/
theorem names_of_compileFields {labelOf : String → String} {fields : FieldMap}
    {checks : List (String × Check)} (h : compileFields labelOf fields = .ok checks) :
    checks.map Prod.fst = fields.map Prod.fst := by
  induction fields generalizing checks with
  | nil =>
    cases h
    rfl
  | cons field rest ih =>
    obtain ⟨name, d⟩ := field
    rw [compileFields] at h
    split at h
    · cases h
    · split at h
      · cases h
      · rename_i others hr
        cases h
        simp [ih hr]

namespace Check

/-- A check without parts passes what its rule passes and what is among the members. -/
theorem run_leaf_passes_iff (subject : Subject) (rule : LeafRule) (options : Options)
    (path : DataPath) (v : Value) :
    Passes ((Check.leaf subject rule).run options path v) ↔
      Passes (rule.run ⟨subject, options, path⟩ v) ∧
        ∀ values ∈ subject.members, FieldAttributes.Matches values v := by
  rw [Check.run]
  cases rule.run ⟨subject, options, path⟩ v with
  | error failure => simp [Except.map]
  | ok o => simp [Except.map, Site.issues_withMembers_eq_nil_iff]

/-- The check of a list passes lists that its rule allows, all items of which pass. -/
theorem run_listOf_passes_iff (subject : Subject) (rule : ListRule) {item : Check} {p : Value → Prop}
    (options : Options) (hitem : ∀ path v, Passes (item.run options path v) ↔ p v) (path : DataPath)
    (v : Value) :
    Passes ((Check.listOf subject rule item).run options path v) ↔
      ∃ items, v = .list items ∧ IsBetween rule.minItems rule.maxItems items.length ∧
        (rule.unique = true → (items.map Json.canonical).Nodup) ∧ (∀ part ∈ items, p part) ∧
        ∀ values ∈ subject.members, FieldAttributes.Matches values v := by
  cases v with
  | list items =>
    rw [Check.run]
    simp only [Value.list.injEq, exists_eq_left']
    rw [← rule.sizeIssues_eq_nil_iff ⟨subject, options, path⟩,
      ← rule.repetitionIssues_eq_nil_iff ⟨subject, options, path⟩,
      ← gatherItems_passes_iff hitem options.abortEarly path 0 items]
    cases hs : rule.sizeIssues ⟨subject, options, path⟩ items.length with
    | nil =>
      simp only [List.isEmpty_nil, Bool.not_true]
      cases gatherItems options.abortEarly false (fun path v => item.run options path v) path 0
          items with
      | error failure => simp
      | ok found =>
        cases hf : found.issues <;> simp [Site.issues_withMembers_eq_nil_iff, hf]
    | cons issue more => split <;> simp [Site.issues_withMembers_eq_nil_iff]
  | _ => simp [Check.run]

/-- The check of a record passes records whose properties pass and that have no others, unless
these may be there. -/
theorem run_recordOf_passes_iff (subject : Subject) (rule : RecordRule)
    {properties : List (String × Check)} {p : List (String × Value) → Prop} (options : Options)
    (hproperties : ∀ path data, (∃ found, resolveProperties options path rule.required data
      properties = .ok found ∧ found.issues = []) ↔ p data)
    (path : DataPath) (v : Value) :
    Passes ((Check.recordOf subject rule properties).run options path v) ↔
      ∃ entries, v = .record entries ∧ p entries ∧
        (rule.additional = false → ∀ entry ∈ entries, entry.1 ∈ properties.map Prod.fst) ∧
        ∀ values ∈ subject.members, FieldAttributes.Matches values v := by
  cases v with
  | record entries =>
    rw [Check.run]
    simp only [Value.record.injEq, exists_eq_left']
    rw [← hproperties path entries]
    cases resolveProperties options path rule.required entries properties with
    | error failure => simp
    | ok found =>
      cases hadditional : rule.additional <;>
        simp [Site.issues_withMembers_eq_nil_iff, issues_closeRecord_eq_nil_iff, and_assoc]
  | _ => simp [Check.run]

end Check

/-- The properties of a record pass if the first one does and the others do. -/
theorem resolveProperties_cons_iff (options : Options) (path : DataPath) (required : List String)
    (data : List (String × Value)) (name : String) (check : Check) (rest : List (String × Check)) :
    (∃ found, resolveProperties options path required data ((name, check) :: rest) = .ok found ∧
      found.issues = []) ↔
      (match present? name data with
        | none => check.subject.required = false ∧ name ∉ required
        | some v => Passes (check.run options (path ++ [.key name]) v)) ∧
      ∃ found, resolveProperties options path required data rest = .ok found ∧
        found.issues = [] := by
  rw [resolveProperties]
  -- The rest is looked at only if the first property is clean or the check does not stop early.
  cases present? name data with
  | none =>
    have hrequired : (check.subject.required = false ∧ name ∉ required) ↔
        (check.subject.required || required.contains name) = false := by simp
    dsimp only
    rw [hrequired, ← issues_resolveAbsent_eq_nil_iff
      ⟨check.subject, options, path ++ [.key name]⟩ name]
    generalize Site.resolveAbsent ⟨check.subject, options, path ++ [.key name]⟩ name
      (check.subject.required || required.contains name) = first
    cases hf : first.issues with
    | nil => cases resolveProperties options path required data rest <;> simp
    | cons issue more =>
      cases options.abortEarly <;> cases resolveProperties options path required data rest <;>
        simp [hf]
  | some v =>
    dsimp only
    cases check.run options (path ++ [.key name]) v with
    | error failure => simp
    | ok o =>
      rw [passes_ok]
      cases hf : o.issues with
      | nil => cases resolveProperties options path required data rest <;> simp [hf]
      | cons issue more =>
        cases options.abortEarly <;> cases resolveProperties options path required data rest <;>
          simp [hf]

/-- A check made of a field without parts passes exactly what the field holds. -/
theorem passes_leaf_iff {label : String} {a : FieldAttributes} {check : Check}
    (h : (Compile.leafRule label a).map (Check.leaf (Compile.subject label a)) = .ok check)
    (options : Options) (path : DataPath) (v : Value) :
    Passes (check.run options path v) ↔ a.AdmitsWhole v ∧ a.AdmitsMember v := by
  cases hr : Compile.leafRule label a with
  | error e => rw [hr] at h; cases h
  | ok rule =>
    rw [hr] at h
    cases h
    rw [Check.run_leaf_passes_iff, LeafRule.run_passes_iff hr, matches_members_iff]

mutual

/-- A check made of a definition passes exactly the values that conform to it. -/
theorem passes_iff_admits (d : Definition) {label : String} {check : Check}
    (h : d.compile label = .ok check) (options : Options) (path : DataPath) (v : Value) :
    Passes (check.run options path v) ↔ d.Admits v := by
  match d, h with
  | ⟨a, items, properties⟩, h =>
    rw [Definition.compile] at h
    rw [Definition.Admits]
    split at h
    · rename_i hk
      rw [passes_iff_itemsConform a hk items h]
      simp [hk]
    · rename_i hk
      rw [passes_iff_propertiesConform a hk properties h]
      simp [hk]
    · rename_i harray hobject
      rw [passes_leaf_iff h]
      simp [show a.kind ≠ .array from harray, show a.kind ≠ .object from hobject]

/-- A check made of a list field passes exactly the lists that the field admits and whose items
conform to their definition. -/
theorem passes_iff_itemsConform (a : FieldAttributes) (hk : a.kind = .array)
    (items : Slot Definition) {label : String} {check : Check}
    (h : compileItems label a items = .ok check) (options : Options) (path : DataPath) (v : Value) :
    Passes (check.run options path v) ↔
      a.AdmitsWhole v ∧ a.AdmitsMember v ∧ ItemsConform items v := by
  match items, h with
  | .of item, h =>
    rw [compileItems] at h
    split at h
    · rename_i part hpart
      cases h
      rw [Check.run_listOf_passes_iff _ _ options (passes_iff_admits item hpart options),
        matches_members_iff]
      simp only [FieldAttributes.AdmitsWhole, hk, ItemsConform]
      constructor
      · rintro ⟨found, rfl, hs, hd, hp, hm⟩
        refine ⟨⟨found, rfl, hs, hd⟩, hm, ?_⟩
        intro other he
        cases he
        exact hp
      · rintro ⟨⟨found, rfl, hs, hd⟩, hm, hp⟩
        exact ⟨found, rfl, hs, hd, hp found rfl, hm⟩
    · cases h
  | .null, h =>
    rw [passes_leaf_iff h]
    simp [ItemsConform]
  | .undeclared, h =>
    rw [passes_leaf_iff h]
    simp [ItemsConform]

/-- A check made of a record field passes exactly the records that the field admits and whose
properties conform to their definitions. -/
theorem passes_iff_propertiesConform (a : FieldAttributes) (hk : a.kind = .object)
    (properties : Slot FieldMap) {label : String} {check : Check}
    (h : compileProperties label a properties = .ok check) (options : Options) (path : DataPath)
    (v : Value) :
    Passes (check.run options path v) ↔
      a.AdmitsWhole v ∧ a.AdmitsMember v ∧ PropertiesConform a properties v := by
  match properties, h with
  | .of fields, h =>
    rw [compileProperties] at h
    split at h
    · cases h
    · rename_i checks hchecks
      dsimp only at h
      split at h
      · cases h
        rw [Check.run_recordOf_passes_iff _ _ options fun path data =>
          resolveProperties_iff_fieldsConform fields hchecks options path _ data,
          matches_members_iff, names_of_compileFields hchecks]
        simp only [FieldAttributes.AdmitsWhole, hk, PropertiesConform]
        constructor
        · rintro ⟨entries, rfl, hp, hu, hm⟩
          refine ⟨⟨entries, rfl⟩, hm, ?_⟩
          intro other he
          cases he
          exact ⟨hp, hu⟩
        · rintro ⟨⟨entries, rfl⟩, hm, hp⟩
          exact ⟨entries, rfl, (hp entries rfl).1, (hp entries rfl).2, hm⟩
      · cases h
  | .null, h =>
    rw [passes_leaf_iff h]
    simp [PropertiesConform]
  | .undeclared, h =>
    rw [passes_leaf_iff h]
    simp [PropertiesConform]

/-- Checks made of fields find nothing wrong exactly with records that conform to the fields. -/
theorem resolveProperties_iff_fieldsConform (fields : FieldMap) {labelOf : String → String}
    {checks : List (String × Check)} (h : compileFields labelOf fields = .ok checks)
    (options : Options) (path : DataPath) (required : List String) (data : List (String × Value)) :
    (∃ found, resolveProperties options path required data checks = .ok found ∧
      found.issues = []) ↔ FieldsConform required fields data := by
  match fields, h with
  | [], h =>
    cases h
    simp [resolveProperties, FieldsConform]
  | (name, d) :: rest, h =>
    rw [compileFields] at h
    split at h
    · cases h
    · rename_i check hcheck
      split at h
      · cases h
      · rename_i others hothers
        cases h
        rw [resolveProperties_cons_iff, FieldsConform,
          resolveProperties_iff_fieldsConform rest hothers options path required data]
        cases present? name data with
        | none =>
          rw [subject_of_compile hcheck]
          rfl
        | some v =>
          dsimp only
          rw [passes_iff_admits d hcheck]

end

/-- Fields conform one by one. -/
theorem fieldsConform_iff (required : List String) (fields : FieldMap)
    (entries : List (String × Value)) :
    FieldsConform required fields entries ↔
      ∀ field ∈ fields,
        match present? field.1 entries with
        | none => field.2.isRequired = false ∧ field.1 ∉ required
        | some v => field.2.Admits v := by
  induction fields with
  | nil => simp [FieldsConform]
  | cons field rest ih =>
    obtain ⟨name, d⟩ := field
    rw [FieldsConform, ih]
    constructor
    · rintro ⟨hfirst, hrest⟩ other hm
      rcases List.mem_cons.mp hm with rfl | hm
      · exact hfirst
      · exact hrest other hm
    · intro hall
      refine ⟨hall (name, d) List.mem_cons_self, ?_⟩
      intro other hm
      exact hall other (List.mem_cons_of_mem _ hm)

namespace Validator

/-- A record is accepted if its fields are and no other key is there, unless these are dropped. -/
theorem validateRecord_accepts_iff {options : Options} {name : String} {fields : FieldMap}
    {validator : Validator} (h : compile options name fields = .ok validator)
    (entries : List (String × Value)) :
    (∃ output, validator.validateRecord entries = .ok (.accepted output)) ↔
      FieldsConform [] fields entries ∧
        (options.stripUnknown = false → ∀ entry ∈ entries, entry.1 ∈ fields.map Prod.fst) := by
  unfold compile at h
  cases hc : compileFields id fields with
  | error e => rw [hc] at h; cases h
  | ok checks =>
    rw [hc] at h
    cases h
    rw [← resolveProperties_iff_fieldsConform fields hc options [] [] entries,
      ← names_of_compileFields hc]
    unfold validateRecord
    cases resolveProperties options [] [] entries checks with
    | error failure => simp
    | ok found =>
      have hclose := issues_closeRecord_eq_nil_iff options
        (if options.stripUnknown then .drop else .refuse) [] (checks.map Prod.fst) entries found
      have hrefuse : (if options.stripUnknown then UnknownKeys.drop else .refuse) = .refuse ↔
          options.stripUnknown = false := by
        cases options.stripUnknown <;> simp
      rw [hrefuse] at hclose
      simp only [Except.ok.injEq, exists_eq_left', ← hclose]
      cases (closeRecord options (if options.stripUnknown then UnknownKeys.drop else .refuse) []
        (checks.map Prod.fst) entries found).issues <;> simp

/-- Validation accepts exactly the declared language: data is accepted if and only if it is null or
a record, every declared field is absent or null and not required or conforms to its definition, and
no undeclared key is there unless such keys are dropped. -/
theorem validate_accepts_iff {options : Options} {name : String} {fields : FieldMap}
    {validator : Validator} (h : compile options name fields = .ok validator) (data : Value) :
    (∃ output, validator.validate data = .ok (.accepted output)) ↔
      ∃ entries, data.entries? = some entries ∧
        (∀ field ∈ fields,
          match present? field.1 entries with
          | none => field.2.isRequired = false
          | some v => field.2.Admits v) ∧
        (options.stripUnknown = false → ∀ entry ∈ entries, entry.1 ∈ fields.map Prod.fst) := by
  have hrecord (entries : List (String × Value)) :
      (∃ output, validator.validateRecord entries = .ok (.accepted output)) ↔ _ :=
    validateRecord_accepts_iff h entries
  simp only [fieldsConform_iff, List.not_mem_nil, not_false_eq_true, and_true] at hrecord
  cases data with
  | null => simp [validate, Value.entries?, hrecord]
  | record entries => simp [validate, Value.entries?, hrecord]
  | _ => simp [validate, Value.entries?]

/-- A whole number that must be there and is not negative. -/
def countDefinition : Definition where
  attributes :=
    { FieldAttributes.ofKind .number with
      required := some true
      integer := some true
      minimum := .of (Binary64.ofInt 0) }
  items := .undeclared
  properties := .undeclared

/-- A count is accepted. -/
theorem accepts_count :
    ∃ validator, compile .standard "input" [("count", countDefinition)] = .ok validator ∧
      ∃ output, validator.validate (.record [("count", .int 3)]) = .ok (.accepted output) := by
  obtain ⟨validator, h⟩ : ∃ validator,
      compile .standard "input" [("count", countDefinition)] = .ok validator := ⟨_, rfl⟩
  refine ⟨validator, h, (validate_accepts_iff h _).mpr ⟨_, rfl, ?_, by simp [Options.standard]⟩⟩
  intro field hm
  rw [List.mem_singleton.mp hm]
  refine ⟨⟨.int 3, rfl, rfl, ?_, ?_, ?_, ?_⟩, ?_, ?_, ?_⟩
  · intro least hl
    cases hl
    decide +kernel
  · intro greatest hg
    cases hg
  · intro _
    rfl
  · intro most hp
    cases hp
  · intro _ values hv
    cases hv
  · intro hk
    cases hk
  · intro hk
    cases hk

end Validator

end Intake
