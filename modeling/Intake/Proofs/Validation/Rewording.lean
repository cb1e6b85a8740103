import Intake.Proofs.Field.Label
import Intake.Proofs.Validation.Presentation
import Intake.Proofs.Validation.Wording

/-!
# Two runs under different messages

Messages decide on words only. Main statement: under options that differ in messages alone, two
validations of the same data go step by step in the same way, and their issues correspond one by one.
Two issues that correspond are told by one definition, under the label that its declaration has, or
they lie above all fields. Which message each of them has is not covered here.
-/

namespace Intake

/-- A record that refuses keys it does not declare. -/
structure Definition.RefusesKeys (d : Definition) : Prop where
  /-- The field holds records. -/
  kind : d.kind = .object
  /-- Properties are declared. -/
  declared : ∃ fields, d.properties = .of fields
  /-- No others may be there. -/
  closed : d.attributes.additionalProperties.getD false = false

/-- Options with other messages. -/
def Options.rewording (o : Options) (messages : List (String × String)) : Options :=
  { o with messages := messages }

theorem Options.abortEarly_rewording (o : Options) (messages : List (String × String)) :
    (o.rewording messages).abortEarly = o.abortEarly := rfl

/-- Two issues tell the same of a definition that has a label, each in the words of its options: both
tell of a finding at the field, or both refuse the same keys. -/
inductive Worded (o o' : Options) (label : String) (e : Definition) (path : DataPath) :
    Issue → Issue → Prop
  /-- Both tell of a finding. -/
  | told {finding : Finding} (h : finding.Fits e.kind) :
      Worded o o' label e path (Site.tell ⟨Compile.subject label e.attributes, o, path⟩ finding)
        (Site.tell ⟨Compile.subject label e.attributes, o', path⟩ finding)
  /-- Both refuse keys. -/
  | keys (h : e.RefusesKeys) (keys : List String) :
      Worded o o' label e path (keysIssue o path keys) (keysIssue o' path keys)

/-- Two issues tell the same of a definition below a path that another one governs under a label. -/
def WordedBelow (o o' : Options) (d : Definition) (label : String) (base : DataPath)
    (issue issue' : Issue) : Prop :=
  ∃ rest e, d.At rest e ∧ Worded o o' (labelBelow label rest) e (base ++ rest) issue issue'

/-- Two runs go in parallel: they have the same output, and their issues correspond one by one. -/
structure Parallel {α : Type} (R : Issue → Issue → Prop) (issues issues' : List Issue)
    (output output' : α) : Prop where
  /-- The issues correspond. -/
  issues : List.Forall₂ R issues issues'
  /-- The output is the same. -/
  output : output = output'

/-- Two outcomes are those of parallel runs. -/
abbrev Outcome.Parallel (R : Issue → Issue → Prop) (first first' : Outcome) : Prop :=
  Intake.Parallel R first.issues first'.issues first.output first'.output

/-- What was made of parts in parallel runs. -/
abbrev Gathered.Parallel {α : Type} (R : Issue → Issue → Prop) (found found' : Gathered α) : Prop :=
  Intake.Parallel R found.issues found'.issues found.output found'.output

theorem Parallel.imp {α : Type} {R S : Issue → Issue → Prop} {issues issues' : List Issue}
    {output output' : α} (h : Parallel R issues issues' output output')
    (himp : ∀ issue issue', R issue issue' → S issue issue') :
    Parallel S issues issues' output output' :=
  ⟨h.issues.imp himp, h.output⟩

theorem isEmpty_eq_of_forall₂ {R : Issue → Issue → Prop} {issues issues' : List Issue}
    (h : List.Forall₂ R issues issues') : issues'.isEmpty = issues.isEmpty := by
  cases h <;> rfl

section

variable {R : Issue → Issue → Prop} {o o' : Options} {path : DataPath} {subject : Subject}

/-- Enumerated members are looked at in both runs or in neither. -/
theorem parallel_withMembers {v : Value}
    (hchoice : ∀ values, R (Site.choiceIssue ⟨subject, o, path⟩ v values)
      (Site.choiceIssue ⟨subject, o', path⟩ v values))
    {first first' : Outcome} (h : first.Parallel R first') :
    (Site.withMembers ⟨subject, o, path⟩ v first).Parallel R
      (Site.withMembers ⟨subject, o', path⟩ v first') := by
  have haccepted : first'.isAccepted = first.isAccepted := isEmpty_eq_of_forall₂ h.issues
  unfold Site.withMembers
  dsimp only
  cases subject.members with
  | none => exact h
  | some values =>
    dsimp only
    rw [haccepted]
    split
    · exact ⟨.cons (hchoice values) .nil, h.output⟩
    · exact h

/-- Items are checked in parallel if each of them is. -/
theorem parallel_gatherItems {check other : DataPath → Value → Except Failure Outcome}
    (h : ∀ (i : Nat) v, Agree (Outcome.Parallel R) (check (path ++ [.index i]) v)
      (other (path ++ [.index i]) v))
    (stop pending : Bool) (i : Nat) (items : List Value) :
    Agree (Gathered.Parallel R) (gatherItems stop pending check path i items)
      (gatherItems stop pending other path i items) := by
  induction items generalizing i with
  | nil => exact .ok ⟨.nil, rfl⟩
  | cons v rest ih =>
    rw [gatherItems_cons, gatherItems_cons]
    refine (h i v).bind fun first first' hfirst => ?_
    have haccepted : first'.isAccepted = first.isAccepted := isEmpty_eq_of_forall₂ hfirst.issues
    rw [haccepted]
    split
    · exact .ok ⟨hfirst.issues, congrArg (fun output => [output]) hfirst.output⟩
    · refine (ih (i + 1)).map fun others others' hothers => ?_
      exact ⟨List.rel_append hfirst.issues hothers.issues,
        congrArg₂ List.cons hfirst.output hothers.output⟩

/-- A list is closed in parallel if its own issues correspond. -/
theorem parallel_closeList {rule : ListRule} {items : List Value}
    (hsizes : List.Forall₂ R (rule.sizeIssues ⟨subject, o, path⟩ items.length)
      (rule.sizeIssues ⟨subject, o', path⟩ items.length))
    (hrepeated : List.Forall₂ R (rule.repetitionIssues ⟨subject, o, path⟩ items)
      (rule.repetitionIssues ⟨subject, o', path⟩ items))
    {found found' : Gathered (List Value)} (h : found.Parallel R found') :
    (rule.close ⟨subject, o, path⟩ items found).Parallel R
      (rule.close ⟨subject, o', path⟩ items found') := by
  have hboth := List.rel_append hsizes h.issues
  unfold ListRule.close
  refine ⟨List.rel_append hboth ?_, congrArg Value.list h.output⟩
  rw [isEmpty_eq_of_forall₂ hboth]
  split
  · exact hrepeated
  · exact .nil

/-- A record is closed in parallel if the issues of its keys correspond, where keys are refused. -/
theorem parallel_closeRecord (hstop : o'.abortEarly = o.abortEarly) {unknown : UnknownKeys}
    (hkeys : unknown = .refuse → ∀ keys, R (keysIssue o path keys) (keysIssue o' path keys))
    (declared : List String) (data : List (String × Value))
    {found found' : Gathered (List (String × Value))} (h : found.Parallel R found') :
    (closeRecord o unknown path declared data found).Parallel R
      (closeRecord o' unknown path declared data found') := by
  have hrefused : List.Forall₂ R (refusedKeys o unknown path declared data)
      (refusedKeys o' unknown path declared data) := by
    unfold refusedKeys
    split
    · rename_i hcondition
      simp only [Bool.and_eq_true, decide_eq_true_eq] at hcondition
      exact .cons (hkeys hcondition.1 _) .nil
    · exact .nil
  have hall := List.rel_append h.issues hrefused
  rw [closeRecord_eq_limit, closeRecord_eq_limit]
  refine ⟨?_, congrArg (· ++ _) h.output⟩
  unfold limitIssues
  dsimp only
  rw [hstop]
  split
  · exact List.forall₂_take 1 hall
  · exact hall

/-- What was made of a record in parallel runs is the outcome of parallel runs. -/
theorem parallel_asRecord {found found' : Gathered (List (String × Value))}
    (h : found.Parallel R found') : found.asRecord.Parallel R found'.asRecord :=
  ⟨h.issues, congrArg Value.record h.output⟩

/-- A property is looked at in parallel, whether it is there or not. -/
theorem parallel_resolveProperty {name : String} {check : Check}
    (hrun : ∀ v, Agree (Outcome.Parallel R) (check.run o (path ++ [.key name]) v)
      (check.run o' (path ++ [.key name]) v))
    (hmissing : R (Site.missingIssue ⟨check.subject, o, path ++ [.key name]⟩)
      (Site.missingIssue ⟨check.subject, o', path ++ [.key name]⟩))
    (required : List String) (data : List (String × Value)) :
    Agree (Gathered.Parallel R) (resolveProperty o path required data name check)
      (resolveProperty o' path required data name check) := by
  unfold resolveProperty
  cases present? name data with
  | some v =>
    refine (hrun v).map fun first first' hfirst => ?_
    have haccepted : first'.isAccepted = first.isAccepted := isEmpty_eq_of_forall₂ hfirst.issues
    refine ⟨hfirst.issues, ?_⟩
    rw [Outcome.asProperty, Outcome.asProperty, haccepted, hfirst.output]
  | none =>
    refine .ok ?_
    unfold Site.resolveAbsent
    dsimp only
    split
    · exact ⟨.cons hmissing .nil, rfl⟩
    · cases check.subject.fallback <;> exact ⟨.nil, rfl⟩

/-- Properties are looked at in parallel if each of them is. -/
theorem parallel_resolveProperties (hstop : o'.abortEarly = o.abortEarly)
    {properties : List (String × Check)}
    (hrun : ∀ name check, (name, check) ∈ properties → ∀ v,
      Agree (Outcome.Parallel R) (check.run o (path ++ [.key name]) v)
        (check.run o' (path ++ [.key name]) v))
    (hmissing : ∀ name check, (name, check) ∈ properties →
      R (Site.missingIssue ⟨check.subject, o, path ++ [.key name]⟩)
        (Site.missingIssue ⟨check.subject, o', path ++ [.key name]⟩))
    (required : List String) (data : List (String × Value)) :
    Agree (Gathered.Parallel R) (resolveProperties o path required data properties)
      (resolveProperties o' path required data properties) := by
  induction properties with
  | nil => exact .ok ⟨.nil, rfl⟩
  | cons property rest ih =>
    obtain ⟨name, check⟩ := property
    have hfirst := parallel_resolveProperty (hrun name check List.mem_cons_self)
      (hmissing name check List.mem_cons_self) required data
    have hrest := ih (fun other part hm => hrun other part (List.mem_cons_of_mem _ hm))
      fun other part hm => hmissing other part (List.mem_cons_of_mem _ hm)
    rw [resolveProperties_cons, resolveProperties_cons, hstop]
    refine hfirst.bind fun first first' hfirst => ?_
    rw [isEmpty_eq_of_forall₂ hfirst.issues]
    split
    · exact .ok hfirst
    · refine hrest.map fun others others' hothers => ?_
      exact ⟨List.rel_append hfirst.issues hothers.issues,
        congrArg₂ (· ++ ·) hfirst.output hothers.output⟩

end

variable {o o' : Options} {messages : List (String × String)} {d : Definition} {label : String}
  {path : DataPath} {issue issue' : Issue}

namespace WordedBelow

/-- What is told at a path is told below it. -/
theorem here (h : Worded o o' label d path issue issue') : WordedBelow o o' d label path issue issue' :=
  ⟨[], d, .here d, (List.append_nil path).symm ▸ h⟩

/-- What is told below an item is told below the list. -/
theorem items {item : Definition} (hk : d.kind = .array) (hi : d.items = .of item) {i : Nat}
    (h : WordedBelow o o' item (label ++ "[]") (path ++ [.index i]) issue issue') :
    WordedBelow o o' d label path issue issue' := by
  obtain ⟨rest, e, hat, hworded⟩ := h
  refine ⟨.index i :: rest, e, .items hk hi i hat, ?_⟩
  rwa [List.append_cons]

/-- What is told below a property is told below the record. -/
theorem property {p : Definition} {fields : FieldMap} {name : String} (hk : d.kind = .object)
    (hp : d.properties = .of fields) (hm : (name, p) ∈ fields)
    (h : WordedBelow o o' p (label ++ "." ++ name) (path ++ [.key name]) issue issue') :
    WordedBelow o o' d label path issue issue' := by
  obtain ⟨rest, e, hat, hworded⟩ := h
  refine ⟨.key name :: rest, e, .property hk hp hm hat, ?_⟩
  rwa [List.append_cons]

end WordedBelow

/-- Issues of a field that tell of the same findings under all options correspond. -/
theorem ToldFitting.wordedBelow {issues : Options → DataPath → List Issue}
    (h : ToldFitting (Compile.subject label d.attributes) issues) (o o' : Options)
    (path : DataPath) :
    List.Forall₂ (WordedBelow o o' d label path) (issues o path) (issues o' path) := by
  obtain ⟨findings, hfits, hfindings⟩ := h
  rw [hfindings, hfindings, List.forall₂_map_left_iff, List.forall₂_map_right_iff,
    List.forall₂_same]
  exact fun finding hm => .here (.told (hfits finding hm))

/-- An issue of a field that tells of the same finding under all options corresponds to itself. -/
theorem ToldFitting.wordedBelow_single {issue : Options → DataPath → Issue}
    (h : ToldFitting (Compile.subject label d.attributes) fun o path => [issue o path]) :
    WordedBelow o o' d label path (issue o path) (issue o' path) := by
  simpa using h.wordedBelow o o' path

/-- The issues of enumerated members correspond. -/
theorem wordedBelow_choiceIssue (v : Value) (values : List Value) :
    WordedBelow o o' d label path
      (Site.choiceIssue ⟨Compile.subject label d.attributes, o, path⟩ v values)
      (Site.choiceIssue ⟨Compile.subject label d.attributes, o', path⟩ v values) :=
  ((Told.choiceIssue v values).fitting fun _ _ => .choiceIssue v values).wordedBelow_single

/-- The issues of a missing value correspond. -/
theorem wordedBelow_missingIssue :
    WordedBelow o o' d label path (Site.missingIssue ⟨Compile.subject label d.attributes, o, path⟩)
      (Site.missingIssue ⟨Compile.subject label d.attributes, o', path⟩) :=
  (Told.missingIssue.fitting fun _ _ => .issue rfl _ _ _).wordedBelow_single

/-- A value of a wrong type is refused in parallel. -/
theorem parallel_typeIssue (v : Value) (expected : String) :
    (Outcome.reject v
        (Site.typeIssue ⟨Compile.subject label d.attributes, o, path⟩ v expected)).Parallel
      (WordedBelow o o' d label path)
      (.reject v (Site.typeIssue ⟨Compile.subject label d.attributes, o', path⟩ v expected)) :=
  ⟨((Told.typeIssue v expected).fitting fun _ _ => .typeIssue v expected).wordedBelow o o' path, rfl⟩

/-- A value without parts is checked in parallel. -/
theorem parallel_run_whole (hw : d.IsWhole) {check : Check} (hc : d.compile label = .ok check)
    (path : DataPath) (v : Value) :
    Agree (Outcome.Parallel (WordedBelow o (o.rewording messages) d label path))
      (check.run o path v) (check.run (o.rewording messages) path v) := by
  obtain ⟨rule, hrule, rfl⟩ := Definition.exists_of_compile_whole hw hc
  have hkind : (Compile.subject label d.attributes).kind ∈ rule.kinds :=
    LeafRule.kind_mem_kinds hrule
  obtain ⟨judged, hjudged⟩ := rule.exists_judgement (Compile.subject label d.attributes) v
  rw [Check.run_leaf, Check.run_leaf, hjudged, hjudged]
  cases judged with
  | error failure => exact .error failure
  | ok judgement =>
    have hfits := LeafRule.fits_of_judgement hkind hjudged
    have htold : ToldFitting (Compile.subject label d.attributes) fun options path =>
        judgement.findings.map (Site.tell ⟨Compile.subject label d.attributes, options, path⟩) :=
      ⟨judgement.findings, hfits, fun _ _ => rfl⟩
    have hissues := htold.wordedBelow o (o.rewording messages) path
    exact .ok (parallel_withMembers (wordedBelow_choiceIssue v) ⟨hissues, rfl⟩)

/-- A list is checked in parallel if its items are. -/
theorem parallel_run_items {item : Definition} (hk : d.kind = .array) (hi : d.items = .of item)
    (hitem : ∀ {label : String} {check : Check}, item.compile label = .ok check → ∀ path v,
      Agree (Outcome.Parallel (WordedBelow o (o.rewording messages) item label path))
        (check.run o path v) (check.run (o.rewording messages) path v))
    {check : Check} (hc : d.compile label = .ok check) (path : DataPath) (v : Value) :
    Agree (Outcome.Parallel (WordedBelow o (o.rewording messages) d label path))
      (check.run o path v) (check.run (o.rewording messages) path v) := by
  obtain ⟨part, hpart, rfl⟩ := Definition.exists_of_compile_items hk hi hc
  rcases v.list_or_ne with ⟨items, rfl⟩ | hne
  · let rule := Compile.listRule d.attributes
    let subject := Compile.subject label d.attributes
    have hsizes := ((rule.told_sizeIssues subject items.length).fitting fun _ _ =>
      rule.wordedFor_sizeIssues (congrArg FieldKind.boundNames hk) _).wordedBelow o (o.rewording messages) path
    have hrepeated := ((rule.told_repetitionIssues subject items).fitting fun _ _ =>
      rule.wordedFor_repetitionIssues _).wordedBelow o (o.rewording messages) path
    have hitems (i : Nat) (v : Value) :
        Agree (Outcome.Parallel (WordedBelow o (o.rewording messages) d label path))
          (part.run o (path ++ [.index i]) v)
          (part.run (o.rewording messages) (path ++ [.index i]) v) :=
      (hitem hpart _ v).imp fun _ _ h => h.imp fun _ _ => .items hk hi
    rw [Check.run_listOf_list, Check.run_listOf_list, isEmpty_eq_of_forall₂ hsizes]
    have hgathered (stop pending : Bool) :
        Agree (Gathered.Parallel (WordedBelow o (o.rewording messages) d label path))
          (gatherItems stop pending (fun path v => part.run o path v) path 0 items)
          (gatherItems stop pending (fun path v => part.run (o.rewording messages) path v) path 0
            items) :=
      parallel_gatherItems hitems stop pending 0 items
    have hclosed (stop pending : Bool) :=
      (hgathered stop pending).map fun _ _ => parallel_closeList hsizes hrepeated
    exact (hclosed _ _).map fun _ _ => parallel_withMembers (wordedBelow_choiceIssue _)
  · rw [Check.run_listOf_of_ne _ _ _ _ _ hne, Check.run_listOf_of_ne _ _ _ _ _ hne]
    exact .ok (parallel_typeIssue v "array")

/-- A record is checked in parallel if its properties are. -/
theorem parallel_run_properties {fields : FieldMap} (hk : d.kind = .object)
    (hp : d.properties = .of fields)
    (hproperty : ∀ {name : String} {p : Definition}, (name, p) ∈ fields →
      ∀ {label : String} {check : Check}, p.compile label = .ok check → ∀ path v,
        Agree (Outcome.Parallel (WordedBelow o (o.rewording messages) p label path))
          (check.run o path v) (check.run (o.rewording messages) path v))
    {check : Check} (hc : d.compile label = .ok check) (path : DataPath) (v : Value) :
    Agree (Outcome.Parallel (WordedBelow o (o.rewording messages) d label path))
      (check.run o path v) (check.run (o.rewording messages) path v) := by
  obtain ⟨checks, hchecks, rfl⟩ := Definition.exists_of_compile_record hk hp hc
  rcases v.record_or_ne with ⟨data, rfl⟩ | hne
  · let required := d.attributes.requiredProperties.value?.getD []
    have hkeys (hunknown : RecordRule.unknown ⟨required,
          d.attributes.additionalProperties.getD false⟩ = .refuse) (keys : List String) :
        WordedBelow o (o.rewording messages) d label path (keysIssue o path keys)
          (keysIssue (o.rewording messages) path keys) := by
      refine .here (.keys ⟨hk, ⟨fields, hp⟩, ?_⟩ keys)
      unfold RecordRule.unknown at hunknown
      split at hunknown
      · cases hunknown
      · rename_i hclosed
        exact Bool.eq_false_iff.mpr hclosed
    have hfound : Agree (Gathered.Parallel (WordedBelow o (o.rewording messages) d label path))
        (resolveProperties o path required data checks)
        (resolveProperties (o.rewording messages) path required data checks) := by
      refine parallel_resolveProperties (o.abortEarly_rewording messages) (fun name part hm v => ?_)
        (fun name part hm => ?_) required data
      · obtain ⟨p, hmem, hpart⟩ := exists_of_mem_checks hchecks hm
        exact (hproperty hmem hpart _ v).imp fun _ _ h => h.imp fun _ _ => .property hk hp hmem
      · obtain ⟨p, hmem, hpart⟩ := exists_of_mem_checks hchecks hm
        rw [subject_of_compile hpart]
        exact .property hk hp hmem wordedBelow_missingIssue
    rw [Check.run_recordOf_record, Check.run_recordOf_record]
    have hclosed := hfound.map fun _ _ =>
      parallel_closeRecord (o.abortEarly_rewording messages) hkeys (checks.map (·.1)) data
    have houtcome := hclosed.map fun closed closed' => parallel_asRecord
    exact houtcome.map fun _ _ => parallel_withMembers (wordedBelow_choiceIssue _)
  · rw [Check.run_recordOf_of_ne _ _ _ _ _ hne, Check.run_recordOf_of_ne _ _ _ _ _ hne]
    exact .ok (parallel_typeIssue v "object")

/-- Under other messages every check of a definition runs in parallel: issues that correspond are
told by one definition, under its label. -/
theorem parallel_run (d : Definition) {label : String} {check : Check}
    (hc : d.compile label = .ok check) (path : DataPath) (v : Value) :
    Agree (Outcome.Parallel (WordedBelow o (o.rewording messages) d label path))
      (check.run o path v) (check.run (o.rewording messages) path v) := by
  induction d using Definition.nested_induction generalizing label check path v with
  | step d hitems hproperties =>
    rcases d.shape with ⟨hk, item, hi⟩ | ⟨hk, fields, hp⟩ | hw
    · exact parallel_run_items hk hi (hitems item hi) hc path v
    · exact parallel_run_properties hk hp (fun hm => hproperties fields hp _ _ hm) hc path v
    · exact parallel_run_whole hw hc path v

/-- Two issues on data tell the same: they lie above all fields, or both are told by the definition of
their path, under its label. -/
inductive WordedAmong (o o' : Options) (fields : FieldMap) : Issue → Issue → Prop
  /-- Both lie above all fields. -/
  | above {issue issue' : Issue} (h : issue.path = []) (hsame : issue.unworded = issue'.unworded) :
      WordedAmong o o' fields issue issue'
  /-- Both are told by a definition. -/
  | field {path : DataPath} {e : Definition} {issue issue' : Issue} (h : fields.Governs path e)
      (hworded : Worded o o' path.label e path issue issue') : WordedAmong o o' fields issue issue'

/-- What is told below a field is told among the fields. -/
theorem WordedBelow.among {fields : FieldMap} {name : String} (hm : (name, d) ∈ fields)
    (h : WordedBelow o o' d name [.key name] issue issue') : WordedAmong o o' fields issue issue' := by
  obtain ⟨rest, e, hat, hworded⟩ := h
  exact .field ⟨name, d, rest, hm, rfl, hat⟩ hworded

/-- Two verdicts of parallel runs: both accept the data with the same output, or both refuse it with
issues that correspond one by one. -/
inductive Verdict.Parallel (R : Issue → Issue → Prop) : Verdict → Verdict → Prop
  /-- Both accept the data. -/
  | accepted (output : List (String × Value)) : Verdict.Parallel R (.accepted output) (.accepted output)
  /-- Both refuse the data. -/
  | rejected {issues issues' : List Issue} (h : List.Forall₂ R issues issues') :
      Verdict.Parallel R (.rejected issues) (.rejected issues')

theorem Verdict.Parallel.imp {R S : Issue → Issue → Prop} {verdict verdict' : Verdict}
    (h : verdict.Parallel R verdict') (himp : ∀ issue issue', R issue issue' → S issue issue') :
    verdict.Parallel S verdict' := by
  cases h with
  | accepted output => exact .accepted output
  | rejected h => exact .rejected (h.imp himp)

theorem parallel_verdict {R : Issue → Issue → Prop} {found found' : Gathered (List (String × Value))}
    (h : found.Parallel R found') : found.verdict.Parallel R found'.verdict := by
  obtain ⟨output, issues⟩ := found
  obtain ⟨output', issues'⟩ := found'
  obtain ⟨hissues, houtput⟩ := h
  dsimp only at hissues houtput
  unfold Gathered.verdict
  cases hissues with
  | nil =>
    rw [houtput]
    exact .accepted output'
  | cons hfirst hrest => exact .rejected (.cons hfirst hrest)

namespace Validator

/-- A record of data is judged in parallel under other messages. -/
theorem parallel_validateRecord (name : String) {fields : FieldMap} {checks : List (String × Check)}
    (hc : compileFields id fields = .ok checks) (data : List (String × Value)) :
    Agree (Verdict.Parallel (WordedAmong o (o.rewording messages) fields))
      (validateRecord ⟨name, o, checks⟩ data)
      (validateRecord ⟨name, o.rewording messages, checks⟩ data) := by
  have hfound : Agree (Gathered.Parallel (WordedAmong o (o.rewording messages) fields))
      (resolveProperties o [] [] data checks)
      (resolveProperties (o.rewording messages) [] [] data checks) := by
    refine parallel_resolveProperties (o.abortEarly_rewording messages) (fun key part hm v => ?_)
      (fun key part hm => ?_) [] data
    · obtain ⟨d, hmem, hpart⟩ := exists_of_mem_checks hc hm
      exact (parallel_run d hpart _ v).imp fun _ _ h =>
        h.imp fun _ _ => WordedBelow.among hmem
    · obtain ⟨d, hmem, hpart⟩ := exists_of_mem_checks hc hm
      rw [subject_of_compile hpart]
      exact wordedBelow_missingIssue.among hmem
  have hkeys (_ : o.unknown = .refuse) (keys : List String) :
      WordedAmong o (o.rewording messages) fields (keysIssue o [] keys)
        (keysIssue (o.rewording messages) [] keys) := .above rfl rfl
  have hclosed := hfound.map fun _ _ =>
    parallel_closeRecord (o.abortEarly_rewording messages) hkeys (checks.map (·.1)) data
  rw [validateRecord_eq, validateRecord_eq]
  exact hclosed.map fun _ _ => parallel_verdict

/-- Under other messages fields are made ready in the same way, or fail in the same way, and then data
is judged in parallel: issues that correspond are told by the definition of their path. -/
theorem parallel_validate (o : Options) (messages : List (String × String)) (name : String)
    (fields : FieldMap) :
    Agree (fun validator other => ∀ data,
        Agree (Verdict.Parallel (WordedAmong o (o.rewording messages) fields))
          (validator.validate data) (other.validate data))
      (compile o name fields) (compile (o.rewording messages) name fields) := by
  refine (agree_compile o (o.rewording messages) name fields).imp ?_
  rintro _ _ ⟨checks, hchecks, rfl, rfl⟩ data
  cases data with
  | null => exact parallel_validateRecord name hchecks []
  | record entries => exact parallel_validateRecord name hchecks entries
  | _ => exact .ok (.rejected (.cons (.above rfl rfl) .nil))

end Validator

end Intake
