import Intake.Proofs.Validation.Probe
import Intake.Proofs.Validation.Recompile

/-!
# Issues show the order of declaration

Each kind of field refuses some value with one issue at its own path. A record that gives such a value
to every property makes a check show the order in which the properties are declared. Main statement:
checks of definitions with the same text that tell issues at the same paths in the same order come
from definitions that declare properties in the same order at every place.
-/

namespace Intake

open Json

/-- A value that a field of a kind refuses, whatever else the field declares. -/
def FieldKind.refused : FieldKind → Value
  | .json => .text ""
  | _ => .float .nan

/-- What is shown of a value that a field of a kind refuses: nothing of what should be a file. -/
def FieldKind.refusalShown : FieldKind → Value
  | .file => .null
  | k => k.refused

theorem FieldKind.isNull_refused (k : FieldKind) : k.refused.isNull = false := by
  cases k <;> rfl

/-- What is no number is equal to no value. -/
theorem not_isMember_nan (values : List Value) : isMember (.float .nan) values = false := by
  have hsame (v : Value) : (Value.float .nan).sameAs v = false := by
    cases v <;> rfl
  simp [isMember, hsame]

/-- A result refuses a value with one issue, which is told at a site and shows a value. -/
def Refuses (result : Except Failure Outcome) (site : Site) (shown : Value) : Prop :=
  ∃ v issue, result = .ok (.reject v issue) ∧ issue.path = site.path ∧
    issue.secret = site.subject.secret ∧ issue.value = shown

namespace LeafRule

/-- A value that a rule refuses. -/
def refused : LeafRule → Value
  | .json _ => .text ""
  | _ => .float .nan

/-- What is shown of a value that a rule refuses. -/
def refusalShown : LeafRule → Value
  | .file _ => .null
  | rule => rule.refused

/-- A rule refuses its value with one issue at its field. -/
theorem refuses (rule : LeafRule) (site : Site) :
    Refuses (rule.run site rule.refused) site rule.refusalShown := by
  cases rule with
  | choice values =>
    refine ⟨.float .nan, site.choiceIssue (.float .nan) values, ?_, rfl, rfl, rfl⟩
    simp only [run, refused, not_isMember_nan, Bool.false_eq_true, if_false]
  | json schema => exact ⟨_, _, rfl, rfl, rfl, rfl⟩
  | _ => exact ⟨_, _, rfl, rfl, rfl, rfl⟩

/-- The rule of a field refuses what the kind of the field refuses. -/
theorem refused_eq {label : String} {a : FieldAttributes} {rule : LeafRule}
    (h : Compile.leafRule label a = .ok rule) :
    rule.refused = a.kind.refused ∧ rule.refusalShown = a.kind.refusalShown := by
  have hkind := kind_mem_kinds h
  cases rule with
  | text rule transform =>
    simp only [kinds, List.mem_cons, List.not_mem_nil, or_false] at hkind
    rcases hkind with hk | hk | hk <;> rw [hk] <;> exact ⟨rfl, rfl⟩
  | _ =>
    rw [List.mem_singleton.mp hkind]
    exact ⟨rfl, rfl⟩

end LeafRule

/-- Enumerated members are not looked at where a value is refused. -/
theorem Refuses.withMembers {result : Except Failure Outcome} {site : Site}
    {shown : Value} (h : Refuses result site shown) (v : Value) :
    Refuses (result.map (site.withMembers v)) site shown := by
  obtain ⟨refused, issue, rfl, hissue⟩ := h
  refine ⟨refused, issue, ?_, hissue⟩
  unfold Site.withMembers
  cases site.subject.members with
  | none => rfl
  | some values => rfl

namespace Definition

variable {d : Definition} {label : String} {check : Check}

/-- The check of a list with a definition of its items is made of these. -/
theorem exists_of_compile_items {item : Definition} (hk : d.kind = .array)
    (hi : d.items = .of item) (h : d.compile label = .ok check) :
    ∃ part, item.compile (label ++ "[]") = .ok part ∧
      check = .listOf (Compile.subject label d.attributes) (Compile.listRule d.attributes) part := by
  rw [compile_of_items hk hi, compileItems] at h
  cases hpart : item.compile (label ++ "[]") with
  | error e => rw [hpart] at h; cases h
  | ok part =>
    rw [hpart] at h
    cases h
    exact ⟨part, rfl, rfl⟩

/-- The check of a record with definitions of its properties asks for the declared ones. -/
theorem exists_of_compile_record {fields : FieldMap} (hk : d.kind = .object)
    (hp : d.properties = .of fields) (h : d.compile label = .ok check) :
    ∃ checks, compileFields (fun name => label ++ "." ++ name) fields = .ok checks ∧
      check = .recordOf (Compile.subject label d.attributes)
        ⟨d.attributes.requiredProperties.value?.getD [],
          d.attributes.additionalProperties.getD false⟩ checks := by
  rw [compile_of_properties hk hp, compileProperties] at h
  cases hchecks : compileFields (fun name => label ++ "." ++ name) fields with
  | error e => rw [hchecks] at h; cases h
  | ok checks =>
    rw [hchecks] at h
    dsimp only at h
    split at h
    · cases h
      exact ⟨checks, rfl, rfl⟩
    · cases h

/-- The check of a record with definitions of its properties is made of these. -/
theorem exists_of_compile_properties {fields : FieldMap} (hk : d.kind = .object)
    (hp : d.properties = .of fields) (h : d.compile label = .ok check) :
    ∃ rule checks, compileFields (fun name => label ++ "." ++ name) fields = .ok checks ∧
      check = .recordOf (Compile.subject label d.attributes) rule checks := by
  obtain ⟨checks, hchecks, hcheck⟩ := exists_of_compile_record hk hp h
  exact ⟨_, checks, hchecks, hcheck⟩

/-- The check of a definition in which none is looked at is made of its rule. -/
theorem exists_of_compile_whole (hw : d.IsWhole) (h : d.compile label = .ok check) :
    ∃ rule, Compile.leafRule label d.attributes = .ok rule ∧
      check = .leaf (Compile.subject label d.attributes) rule := by
  rw [compile_of_whole hw] at h
  cases hrule : Compile.leafRule label d.attributes with
  | error e => rw [hrule] at h; cases h
  | ok rule =>
    rw [hrule] at h
    cases h
    exact ⟨rule, rfl, rfl⟩

/-- The check of a definition refuses what its kind refuses. -/
theorem refuses (h : d.compile label = .ok check) (options : Options) (path : DataPath) :
    Refuses (check.run options path d.kind.refused)
      ⟨Compile.subject label d.attributes, options, path⟩ d.kind.refusalShown := by
  rcases shape d with ⟨hk, item, hi⟩ | ⟨hk, fields, hp⟩ | hw
  · obtain ⟨part, -, rfl⟩ := exists_of_compile_items hk hi h
    rw [hk]
    exact ⟨_, _, rfl, rfl, rfl, rfl⟩
  · obtain ⟨rule, checks, -, rfl⟩ := exists_of_compile_properties hk hp h
    rw [hk]
    exact ⟨_, _, rfl, rfl, rfl, rfl⟩
  · obtain ⟨rule, hrule, rfl⟩ := exists_of_compile_whole hw h
    obtain ⟨hrefused, hshown⟩ := LeafRule.refused_eq hrule
    unfold kind
    rw [← hrefused, ← hshown]
    exact Refuses.withMembers (rule.refuses ⟨Compile.subject label d.attributes, options, path⟩) _

/-- Each field is made ready as the check that bears its name. -/
theorem compile_of_mem {fields : FieldMap} {labelOf : String → String}
    {checks : List (String × Check)} (h : compileFields labelOf fields = .ok checks)
    {name : String} (hm : (name, d) ∈ fields) :
    ∃ check, d.compile (labelOf name) = .ok check ∧ (name, check) ∈ checks := by
  induction fields generalizing checks with
  | nil => cases hm
  | cons field rest ih =>
    obtain ⟨other, p⟩ := field
    rw [compileFields] at h
    split at h
    · cases h
    · rename_i first hfirst
      split at h
      · cases h
      · rename_i others hothers
        cases h
        rcases List.mem_cons.mp hm with heq | hm
        · cases heq
          exact ⟨first, hfirst, List.mem_cons_self⟩
        · obtain ⟨check, hcheck, hmem⟩ := ih hothers hm
          exact ⟨check, hcheck, List.mem_cons_of_mem _ hmem⟩

end Definition

/-- Each check bears the name of the field that it is made of. -/
theorem exists_of_mem_checks {fields : FieldMap} {labelOf : String → String}
    {checks : List (String × Check)} (h : compileFields labelOf fields = .ok checks)
    {name : String} {check : Check} (hm : (name, check) ∈ checks) :
    ∃ d, (name, d) ∈ fields ∧ d.compile (labelOf name) = .ok check := by
  induction fields generalizing checks with
  | nil =>
    cases h
    cases hm
  | cons field rest ih =>
    obtain ⟨other, p⟩ := field
    rw [compileFields] at h
    split at h
    · cases h
    · rename_i first hfirst
      split at h
      · cases h
      · rename_i others hothers
        cases h
        rcases List.mem_cons.mp hm with heq | hm
        · cases heq
          exact ⟨p, List.mem_cons_self, hfirst⟩
        · obtain ⟨d, hd, hcheck⟩ := ih hothers hm
          exact ⟨d, List.mem_cons_of_mem _ hd, hcheck⟩

/-- A validator is made of the checks of its fields. -/
theorem Validator.exists_of_compile {options : Options} {name : String} {fields : FieldMap}
    {validator : Validator} (h : Validator.compile options name fields = .ok validator) :
    ∃ checks, compileFields id fields = .ok checks ∧ validator = ⟨name, options, checks⟩ := by
  unfold Validator.compile at h
  cases hchecks : compileFields id fields with
  | error e => rw [hchecks] at h; cases h
  | ok checks =>
    rw [hchecks] at h
    cases h
    exact ⟨checks, rfl, rfl⟩

/-- A record that gives every field a value that it refuses. -/
def refusedRecord (fields : FieldMap) : List (String × Value) :=
  fields.map fun field => (field.1, field.2.kind.refused)

theorem lookup_refusedRecord {fields : FieldMap} (hnames : (fields.map (·.1)).Nodup)
    {name : String} {d : Definition} (hm : (name, d) ∈ fields) :
    (refusedRecord fields).lookup name = some d.kind.refused := by
  refine lookup_of_mem ?_ (List.mem_map_of_mem (f := fun field => (field.1, field.2.kind.refused)) hm)
  rwa [refusedRecord, List.map_map]

variable {options : Options} {path : DataPath}

/-- Checks that refuse what data gives their fields tell one issue for each field, in the order of
declaration. -/
theorem paths_of_refused (hstop : options.abortEarly = false) (path : DataPath) (required : List String)
    {data : List (String × Value)} {fields : FieldMap}
    (hdata : ∀ name d, (name, d) ∈ fields → data.lookup name = some d.kind.refused)
    {labelOf : String → String} {checks : List (String × Check)}
    (h : compileFields labelOf fields = .ok checks) :
    ∃ found, resolveProperties options path required data checks = .ok found ∧
      found.issues.map (·.path) = fields.map fun field => path ++ [.key field.1] := by
  induction fields generalizing checks with
  | nil =>
    cases h
    exact ⟨_, rfl, rfl⟩
  | cons field rest ih =>
    obtain ⟨name, d⟩ := field
    rw [compileFields] at h
    split at h
    · cases h
    · rename_i check hcheck
      split at h
      · cases h
      · rename_i others hothers
        cases h
        obtain ⟨found, hfound, hpaths⟩ :=
          ih (fun other p hm => hdata other p (List.mem_cons_of_mem _ hm)) hothers
        obtain ⟨v, issue, hrun, hpath, -⟩ := Definition.refuses hcheck options (path ++ [.key name])
        have hpresent : present? name data = some d.kind.refused := by
          rw [present?, hdata name d List.mem_cons_self]
          simp [d.kind.isNull_refused]
        unfold resolveProperties
        simp only [hpresent, hrun, hstop, Bool.false_and, Bool.false_eq_true, if_false, hfound]
        refine ⟨_, rfl, ?_⟩
        rw [List.map_append, hpaths]
        exact congrArg (· :: _) hpath

/-- The check of a record that refuses what data gives its properties tells one issue for each of
them, in the order of declaration. -/
theorem run_recordOf_refused (hstop : options.abortEarly = false) (path : DataPath)
    (subject : Subject) (rule : RecordRule) {data : List (String × Value)} {fields : FieldMap}
    (hdata : ∀ name d, (name, d) ∈ fields → data.lookup name = some d.kind.refused)
    (hkeys : ∀ entry ∈ data, entry.1 ∈ fields.map (·.1)) (hne : fields ≠ [])
    {labelOf : String → String} {checks : List (String × Check)}
    (h : compileFields labelOf fields = .ok checks) :
    ∃ o, (Check.recordOf subject rule checks).run options path (.record data) = .ok o ∧
      o.issues.map (·.path) = fields.map fun field => path ++ [.key field.1] := by
  obtain ⟨found, hfound, hpaths⟩ := paths_of_refused hstop path rule.required hdata h
  have hissues : found.issues ≠ [] := by
    intro hnil
    rw [hnil, List.map_nil, eq_comm, List.map_eq_nil_iff] at hpaths
    exact hne hpaths
  rw [← names_of_compileFields h] at hkeys
  obtain ⟨o, ho, heq⟩ := run_recordOf_found hstop subject rule hfound hkeys hissues
  exact ⟨o, ho, by rw [heq, hpaths]⟩

/-- Two checks at a path tell issues at the same paths in the same order, whatever the value. -/
def SamePaths (options : Options) (path : DataPath) (check check' : Check) : Prop :=
  ∀ v, v.isNull = false → ∀ o o', check.run options path v = .ok o →
    check'.run options path v = .ok o' → o.issues.map (·.path) = o'.issues.map (·.path)

namespace SamePaths

variable {subject subject' : Subject}

/-- Checks of lists that tell issues at the same paths have such checks of items. -/
theorem items (hstop : options.abortEarly = false) {rule rule' : ListRule} {part part' : Check}
    (h : SamePaths options path (.listOf subject rule part) (.listOf subject' rule' part')) :
    SamePaths options (path ++ [.index 0]) part part' := by
  intro v hv o o' ho ho'
  obtain ⟨whole, hwhole, hpart⟩ := run_listOf_single hstop subject rule ho
  obtain ⟨whole', hwhole', hpart'⟩ := run_listOf_single hstop subject' rule' ho'
  rw [← hpart, ← hpart', map_path_issuesUnder, map_path_issuesUnder,
    h _ rfl whole whole' hwhole hwhole']

variable {rule rule' : RecordRule} {checks checks' : List (String × Check)}

/-- Checks of records that tell issues at the same paths have such checks of properties. -/
theorem property (hstop : options.abortEarly = false)
    (hnames : (checks.map (·.1)).Nodup) (hnames' : (checks'.map (·.1)).Nodup)
    (h : SamePaths options path (.recordOf subject rule checks) (.recordOf subject' rule' checks'))
    {name : String} {check check' : Check} (hm : (name, check) ∈ checks)
    (hm' : (name, check') ∈ checks') : SamePaths options (path ++ [.key name]) check check' := by
  intro v hv o o' ho ho'
  obtain ⟨whole, hwhole, hpart⟩ := run_recordOf_single hstop subject rule hnames hm hv ho
  obtain ⟨whole', hwhole', hpart'⟩ := run_recordOf_single hstop subject' rule' hnames' hm' hv ho'
  rw [← hpart, ← hpart', map_path_issuesUnder, map_path_issuesUnder,
    h _ rfl whole whole' hwhole hwhole']

/-- Checks of records that tell issues at the same paths declare properties in the same order, if
these are the same up to their order. -/
theorem names_eq (hstop : options.abortEarly = false)
    (h : SamePaths options path (.recordOf subject rule checks) (.recordOf subject' rule' checks'))
    {fields fields' : FieldMap} (hnames : (fields.map (·.1)).Nodup)
    (hperm : (fields.map (·.1)).Perm (fields'.map (·.1)))
    (hkinds : ∀ name d, (name, d) ∈ fields' → ∃ p, (name, p) ∈ fields ∧ p.kind = d.kind)
    {labelOf labelOf' : String → String} (hc : compileFields labelOf fields = .ok checks)
    (hc' : compileFields labelOf' fields' = .ok checks') :
    fields.map (·.1) = fields'.map (·.1) := by
  by_cases hnil : fields = []
  · rw [hnil] at hperm ⊢
    exact (List.nil_perm.mp hperm).symm
  have hnil' : fields' ≠ [] := by
    rintro rfl
    exact hnil (List.map_eq_nil_iff.mp (List.perm_nil.mp hperm))
  have hdata : ∀ name d, (name, d) ∈ fields →
      (refusedRecord fields).lookup name = some d.kind.refused :=
    fun name d hm => lookup_refusedRecord hnames hm
  have hdata' : ∀ name d, (name, d) ∈ fields' →
      (refusedRecord fields).lookup name = some d.kind.refused := by
    intro name d hm
    obtain ⟨p, hp, hk⟩ := hkinds name d hm
    rw [hdata name p hp, hk]
  have hkeys : ∀ entry ∈ refusedRecord fields, entry.1 ∈ fields.map (·.1) := by
    intro entry hm
    obtain ⟨field, hfield, rfl⟩ := List.mem_map.mp hm
    exact List.mem_map_of_mem (f := (·.1)) hfield
  obtain ⟨o, ho, hpaths⟩ := run_recordOf_refused hstop path subject rule hdata hkeys hnil hc
  obtain ⟨o', ho', hpaths'⟩ := run_recordOf_refused hstop path subject' rule' hdata'
    (fun entry hm => hperm.mem_iff.mp (hkeys entry hm)) hnil' hc'
  have hsame := h _ rfl o o' ho ho'
  rw [hpaths, hpaths'] at hsame
  have hinjective : Function.Injective fun name => path ++ [PathSegment.key name] := by
    intro name other heq
    exact PathSegment.key.inj (List.cons.inj (List.append_cancel_left heq)).1
  refine hinjective.list_map ?_
  rw [List.map_map, List.map_map]
  exact hsame

end SamePaths

namespace Definition

/-- Checks of definitions with the same text that tell issues at the same paths come from definitions
that declare properties in the same order everywhere. -/
theorem ordered_of_samePaths (d : Definition) {d' : Definition} {label label' : String}
    {check check' : Check} (hstop : options.abortEarly = false)
    (h : canonical d.plain = canonical d'.plain) (hv : Everywhere AlikeHere d d')
    (hn : Everywhere DistinctHere d d') (hc : d.compile label = .ok check)
    (hc' : d'.compile label' = .ok check') (hsame : SamePaths options path check check') :
    Everywhere OrderedHere d d' := by
  induction d using nested_induction generalizing d' label label' check check' path with
  | step d hitems hproperties =>
    cases sameShape h hv.here with
    | list hk hk' hi hi' htext =>
      obtain ⟨part, hpart, rfl⟩ := exists_of_compile_items hk hi hc
      obtain ⟨part', hpart', rfl⟩ := exists_of_compile_items hk' hi' hc'
      have hobject : d.kind ≠ .object := by
        rw [hk]
        decide
      refine everywhere_of (fun hkind => absurd hkind hobject) (fun item item' _ hitem hitem' => ?_)
        fun _ _ hkind => absurd hkind hobject
      rw [hi] at hitem
      rw [hi'] at hitem'
      cases hitem
      cases hitem'
      exact hitems _ hi htext (hv.items hk hi hi') (hn.items hk hi hi') hpart hpart'
        (hsame.items hstop)
    | @record fields fields' hk hk' hp hp' htext =>
      obtain ⟨rule, checks, hchecks, rfl⟩ := exists_of_compile_properties hk hp hc
      obtain ⟨rule', checks', hchecks', rfl⟩ := exists_of_compile_properties hk' hp' hc'
      have harray : d.kind ≠ .array := by
        rw [hk]
        decide
      have hnames : (fields.map (·.1)).Nodup := by
        have hhere := hn.here hk
        rwa [propertyNames, hp] at hhere
      have hperm := FieldMap.perm_names htext
      have hnames' : (fields'.map (·.1)).Nodup := hperm.nodup_iff.mp hnames
      have halike := hv.properties hk hp hp'
      refine everywhere_of (fun _ => ?_) (fun _ _ hkind => absurd hkind harray)
        fun _ _ _ hfields hfields' => ?_
      · rw [propertyNames, propertyNames, hp, hp']
        exact hsame.names_eq hstop hnames hperm (fun _ _ => exists_kind htext halike) hchecks hchecks'
      · rw [hp] at hfields
        rw [hp'] at hfields'
        cases hfields
        cases hfields'
        intro name p p' hm hm'
        obtain ⟨check, hcheck, hmem⟩ := compile_of_mem hchecks hm
        obtain ⟨check', hcheck', hmem'⟩ := compile_of_mem hchecks' hm'
        have htext' := FieldMap.text_eq_of_mem htext hnames' hm hm'
        rw [← names_of_compileFields hchecks] at hnames
        rw [← names_of_compileFields hchecks'] at hnames'
        exact hproperties _ hp name p hm htext' (halike name p p' hm hm')
          (hn.properties hk hp hp' name p p' hm hm') hcheck hcheck'
          (hsame.property hstop hnames hnames' hmem hmem')
    | whole hw hw' =>
      refine everywhere_of (fun hkind => ?_) (fun item _ hkind hi _ => absurd hi (hw.items hkind item))
        fun fields _ hkind hp _ => absurd hp (hw.properties hkind fields)
      have hkind' : d'.kind = .object := (kind_eq h hv.here) ▸ hkind
      rw [hw.propertyNames_eq hkind, hw'.propertyNames_eq hkind']

end Definition

end Intake
