import Intake.Proofs.Validation.Locality

/-!
# Looking at one part of a check

The check of an item is seen in the check of a list with one item, and the check of a property in the
check of a record with one entry: what it tells is what lies below the path of the part. Main
statements: this holds of items, of properties and of the fields of a validator. Checks that stop at
the first issue are not covered, as another part may keep them from getting so far.
-/

namespace Intake

/-- The issues at a path or below it, in order. -/
def issuesUnder (base : DataPath) (issues : List Issue) : List Issue :=
  issues.filter fun issue => base.isPrefixOf issue.path

theorem issuesUnder_append (base : DataPath) (issues others : List Issue) :
    issuesUnder base (issues ++ others) = issuesUnder base issues ++ issuesUnder base others :=
  List.filter_append ..

/-- The paths of the issues at a path or below it are told by those of all issues. -/
theorem map_path_issuesUnder (base : DataPath) (issues : List Issue) :
    (issuesUnder base issues).map (·.path) =
      (issues.map (·.path)).filter fun path => base.isPrefixOf path := by
  rw [issuesUnder, List.filter_map]
  rfl

variable {path : DataPath} {segment other : PathSegment}

/-- All issues are counted if they all lie below. -/
theorem issuesUnder_of_allBelow {issues : List Issue} (h : AllBelow path issues) :
    issuesUnder path issues = issues := by
  unfold issuesUnder
  rw [List.filter_eq_self]
  exact fun issue hm => List.isPrefixOf_iff_prefix.mpr (h issue hm)

/-- No issue is counted if all are told where it is not below. -/
theorem issuesUnder_eq_nil {base : DataPath} {site : Site} {issues : List Issue}
    (h : AllFrom site issues) (hbase : ¬ base <+: site.path) : issuesUnder base issues = [] := by
  unfold issuesUnder
  rw [List.filter_eq_nil_iff]
  intro issue hm hbelow
  rw [(h issue hm).1] at hbelow
  exact hbase (List.isPrefixOf_iff_prefix.mp hbelow)

/-- A path is not below its parts. -/
theorem not_prefix_of_part (path : DataPath) (segment : PathSegment) :
    ¬ path ++ [segment] <+: path := by
  intro h
  have hlength := h.length_le
  rw [List.length_append, List.length_singleton] at hlength
  omega

/-- Different parts do not lie below one another. -/
theorem not_prefix_of_ne (path : DataPath) (h : segment ≠ other) :
    ¬ path ++ [segment] <+: path ++ [other] := by
  rw [List.prefix_append_right_inj]
  intro hbelow
  have heq := hbelow.eq_of_length rfl
  exact h (List.cons.inj heq).1

/-- Enumerated members do not count below the path of their field. -/
theorem issuesUnder_withMembers (site : Site) (segment : PathSegment) (v : Value) (o : Outcome) :
    issuesUnder (site.path ++ [segment]) (site.withMembers v o).issues =
      issuesUnder (site.path ++ [segment]) o.issues := by
  rcases site.withMembers_issues v o with heq | ⟨hnil, finding, heq⟩
  · rw [heq]
  · rw [hnil, heq]
    exact issuesUnder_eq_nil (allFrom_map_tell site [finding])
      (not_prefix_of_part site.path segment)

section

variable {options : Options} {v : Value} {part : Outcome}

/-- What the check of items tells of a value is what the check of a list tells below its first item,
if the list holds that value only. -/
theorem run_listOf_single (hstop : options.abortEarly = false) (subject : Subject) (rule : ListRule)
    {item : Check} (h : item.run options (path ++ [.index 0]) v = .ok part) :
    ∃ o, (Check.listOf subject rule item).run options path (.list [v]) = .ok o ∧
      issuesUnder (path ++ [.index 0]) o.issues = part.issues := by
  have hfirst : item.run options (path ++ [.index (0 : Nat)]) v = .ok part := h
  have hitems (pending : Bool) :
      gatherItems options.abortEarly pending (fun path v => item.run options path v) path 0 [v] =
        .ok ⟨[part.output], part.issues ++ []⟩ := by
    rw [gatherItems, hfirst]
    simp only [hstop, Bool.false_and, Bool.false_eq_true, if_false, gatherItems]
  unfold Check.run
  dsimp only
  rw [hitems]
  refine ⟨_, rfl, ?_⟩
  have hsizes := issuesUnder_eq_nil
    ((rule.told_sizeIssues subject [v].length).allFrom options path)
    (not_prefix_of_part path (.index 0))
  have hrepeated := issuesUnder_eq_nil
    ((rule.told_repetitionIssues subject [v]).allFrom options path)
    (not_prefix_of_part path (.index 0))
  rw [issuesUnder_withMembers ⟨subject, options, path⟩, issuesUnder_append, issuesUnder_append,
    hsizes, List.append_nil, issuesUnder_of_allBelow (allBelow_run item h)]
  split
  · rw [hrepeated, List.nil_append, List.append_nil]
  · exact List.append_nil _

theorem present?_single (key : String) (hv : v.isNull = false) :
    present? key [(key, v)] = some v := by
  simp [present?, hv]

theorem present?_of_ne {key name : String} (h : key ≠ name) (v : Value) :
    present? name [(key, v)] = none := by
  have hkey : (name == key) = false := beq_eq_false_iff_ne.mpr (Ne.symm h)
  rw [present?, List.lookup_cons, hkey]
  rfl

/-- A property that is not there tells nothing of what lies below another. -/
theorem resolveProperties_skip (hstop : options.abortEarly = false) {required : List String}
    {key name : String} (hname : key ≠ name) (check : Check) {rest : List (String × Check)}
    {others : Gathered (List (String × Value))}
    (h : resolveProperties options path required [(key, v)] rest = .ok others) :
    ∃ found, resolveProperties options path required [(key, v)] ((name, check) :: rest) =
        .ok found ∧
      issuesUnder (path ++ [.key key]) found.issues =
        issuesUnder (path ++ [.key key]) others.issues := by
  unfold resolveProperties
  simp only [present?_of_ne hname, hstop, Bool.false_and, Bool.false_eq_true, if_false, h]
  refine ⟨_, rfl, ?_⟩
  have hfirst := issuesUnder_eq_nil (allFrom_resolveAbsent
    ⟨check.subject, options, path ++ [.key name]⟩ name
    (check.subject.required || required.contains name))
    (not_prefix_of_ne path fun heq => hname (PathSegment.key.inj heq))
  rw [issuesUnder_append, hfirst, List.nil_append]

/-- Properties of other names tell nothing of what lies below a name. -/
theorem resolveProperties_absent (hstop : options.abortEarly = false) (path : DataPath)
    (required : List String) (key : String) (v : Value) {properties : List (String × Check)}
    (hkey : key ∉ properties.map (·.1)) :
    ∃ found, resolveProperties options path required [(key, v)] properties = .ok found ∧
      issuesUnder (path ++ [.key key]) found.issues = [] := by
  induction properties with
  | nil => exact ⟨_, rfl, rfl⟩
  | cons property rest ih =>
    obtain ⟨name, check⟩ := property
    obtain ⟨others, hothers, hnone⟩ := ih fun hm => hkey (List.mem_cons_of_mem _ hm)
    have hname : key ≠ name := fun heq => hkey (heq ▸ List.mem_cons_self)
    obtain ⟨found, hfound, heq⟩ := resolveProperties_skip hstop hname check hothers
    exact ⟨found, hfound, heq.trans hnone⟩

/-- What the check of a property tells of a value is what the checks of all properties tell below
the property, if a record holds that value only. -/
theorem resolveProperties_single (hstop : options.abortEarly = false) (path : DataPath)
    (required : List String)
    {properties : List (String × Check)} (hnames : (properties.map (·.1)).Nodup) {key : String}
    {check : Check} (hm : (key, check) ∈ properties) (hv : v.isNull = false)
    (h : check.run options (path ++ [.key key]) v = .ok part) :
    ∃ found, resolveProperties options path required [(key, v)] properties = .ok found ∧
      issuesUnder (path ++ [.key key]) found.issues = part.issues := by
  induction properties with
  | nil => cases hm
  | cons property rest ih =>
    obtain ⟨name, other⟩ := property
    obtain ⟨hname, hrest⟩ := List.nodup_cons.mp hnames
    rcases List.mem_cons.mp hm with heq | hm
    · cases heq
      obtain ⟨others, hothers, hnone⟩ :=
        resolveProperties_absent hstop path required key v hname
      unfold resolveProperties
      simp only [present?_single key hv, h, hstop, Bool.false_and, Bool.false_eq_true, if_false,
        hothers]
      refine ⟨_, rfl, ?_⟩
      rw [issuesUnder_append, hnone, List.append_nil, issuesUnder_of_allBelow (allBelow_run check h)]
    · have hkey : key ≠ name := fun heq => hname (heq ▸ List.mem_map_of_mem (f := (·.1)) hm)
      obtain ⟨others, hothers, hpart⟩ := ih hrest hm
      obtain ⟨found, hfound, heq⟩ := resolveProperties_skip hstop hkey other hothers
      exact ⟨found, hfound, heq.trans hpart⟩

/-- A record all keys of which are declared is closed with the issues found. -/
theorem issues_closeRecord (hstop : options.abortEarly = false) (unknown : UnknownKeys)
    (path : DataPath) {declared : List String} {data : List (String × Value)}
    (hkeys : ∀ entry ∈ data, entry.1 ∈ declared) (found : Gathered (List (String × Value))) :
    (closeRecord options unknown path declared data found).issues = found.issues := by
  have hothers : undeclaredKeys declared data = [] := by
    unfold undeclaredKeys
    rw [List.filter_eq_nil_iff]
    rintro ⟨key, v⟩ hm
    simpa using hkeys (key, v) hm
  simp [closeRecord, hothers, limitIssues, hstop]

/-- A record all keys of which are declared has the issues that are found, if there are any. -/
theorem run_recordOf_found (hstop : options.abortEarly = false) (subject : Subject)
    (rule : RecordRule) {properties : List (String × Check)} {data : List (String × Value)}
    {found : Gathered (List (String × Value))}
    (h : resolveProperties options path rule.required data properties = .ok found)
    (hkeys : ∀ entry ∈ data, entry.1 ∈ properties.map (·.1)) (hfound : found.issues ≠ []) :
    ∃ o, (Check.recordOf subject rule properties).run options path (.record data) = .ok o ∧
      o.issues = found.issues := by
  unfold Check.run
  dsimp only
  rw [h]
  refine ⟨_, rfl, ?_⟩
  have hclosed := issues_closeRecord hstop (if rule.additional then .keep else .refuse) path hkeys
    found
  rcases Site.withMembers_issues ⟨subject, options, path⟩ (.record data) _ with heq | ⟨hnil, -⟩
  · exact heq.trans hclosed
  · exact absurd (hclosed.symm.trans hnil) hfound

/-- What the check of a property tells of a value is what the check of a record tells below the
property, if the record holds that value only. -/
theorem run_recordOf_single (hstop : options.abortEarly = false) (subject : Subject)
    (rule : RecordRule) {properties : List (String × Check)}
    (hnames : (properties.map (·.1)).Nodup) {key : String} {check : Check}
    (hm : (key, check) ∈ properties) (hv : v.isNull = false)
    (h : check.run options (path ++ [.key key]) v = .ok part) :
    ∃ o, (Check.recordOf subject rule properties).run options path (.record [(key, v)]) = .ok o ∧
      issuesUnder (path ++ [.key key]) o.issues = part.issues := by
  obtain ⟨found, hfound, hpart⟩ := resolveProperties_single hstop path rule.required hnames hm hv h
  unfold Check.run
  dsimp only
  rw [hfound]
  refine ⟨_, rfl, ?_⟩
  rw [issuesUnder_withMembers ⟨subject, options, path⟩, issues_closeRecord hstop, hpart]
  intro entry he
  rw [List.mem_singleton.mp he]
  exact List.mem_map_of_mem (f := (·.1)) hm

/-- The issues of a verdict. -/
def Verdict.issues : Verdict → List Issue
  | .accepted _ => []
  | .rejected issues => issues

/-- A verdict on a record has the issues that the closed record has. -/
theorem issues_validateRecord {validator : Validator} {data : List (String × Value)}
    {found : Gathered (List (String × Value))}
    (hstop : validator.options.abortEarly = false)
    (hkeys : ∀ entry ∈ data, entry.1 ∈ validator.checks.map (·.1))
    (h : resolveProperties validator.options [] [] data validator.checks = .ok found) :
    ∃ verdict, validator.validateRecord data = .ok verdict ∧ verdict.issues = found.issues := by
  unfold Validator.validateRecord
  rw [h]
  dsimp only
  have hissues := issues_closeRecord hstop
    (if validator.options.stripUnknown then .drop else .refuse) [] hkeys found
  split
  · rename_i hnil
    exact ⟨_, rfl, by rw [← hissues, hnil]; rfl⟩
  · exact ⟨_, rfl, hissues⟩

/-- What the check of a field tells of a value is what a validator tells below the field, if a
record holds that value only. -/
theorem validate_single (validator : Validator) (hstop : validator.options.abortEarly = false)
    (hnames : (validator.checks.map (·.1)).Nodup) {key : String} {check : Check}
    (hm : (key, check) ∈ validator.checks) (hv : v.isNull = false)
    (h : check.run validator.options [.key key] v = .ok part) :
    ∃ verdict, validator.validate (.record [(key, v)]) = .ok verdict ∧
      issuesUnder [.key key] verdict.issues = part.issues := by
  obtain ⟨found, hfound, hpart⟩ := resolveProperties_single hstop [] [] hnames hm hv h
  have hkeys : ∀ entry ∈ [(key, v)], entry.1 ∈ validator.checks.map (·.1) := by
    intro entry he
    rw [List.mem_singleton.mp he]
    exact List.mem_map_of_mem (f := (·.1)) hm
  obtain ⟨verdict, hverdict, hissues⟩ := issues_validateRecord hstop hkeys hfound
  exact ⟨verdict, hverdict, by rw [hissues]; exact hpart⟩

end

end Intake
