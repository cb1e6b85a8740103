import Intake.Proofs.Results
import Intake.Proofs.Validation.Acceptance
import Intake.Proofs.Validation.Parts
import Intake.Proofs.Validation.Probe

/-!
# Fields on their own

The fields of data are looked at one after the other, and no field can tell what the others hold.
Main statements: if validation does not stop early, the verdict on data joins the verdicts on its
fields, each validated alone, and ends with the keys that no field declares; and what it tells below
the name of a field is what the field alone tells. A failure of one field is a failure of the whole.
-/

namespace Intake

/-- Parts in one, in order. -/
def Gathered.joined {α : Type} (parts : List (Gathered (List α))) : Gathered (List α) :=
  ⟨parts.flatMap (·.output), parts.flatMap (·.issues)⟩

namespace Verdict

/-- The output; data that is refused has none. -/
def output : Verdict → List (String × Value)
  | .accepted output => output
  | .rejected _ => []

/-- Verdicts in one, in order, with issues that concern the whole at the end. -/
def joined (others : List Issue) (verdicts : List Verdict) : Verdict :=
  Gathered.verdict ⟨verdicts.flatMap output, verdicts.flatMap issues ++ others⟩

end Verdict

/-- The issue of the keys of data that no field declares, if there are such keys and they are not
dropped. -/
def Options.strayIssues (options : Options) (declared : List String)
    (entries : List (String × Value)) : List Issue :=
  if options.stripUnknown || (undeclaredKeys declared entries).isEmpty then []
  else [keysIssue options [] ((undeclaredKeys declared entries).map (·.1))]

/-- What validation says of a record of data, if a validator can be made. -/
def FieldMap.judge (fields : FieldMap) (options : Options) (name : String)
    (entries : List (String × Value)) : Except CompileError (Except Failure Verdict) :=
  (Validator.compile options name fields).map (·.validate (.record entries))

/-- What validation says of a field alone, in a record that holds its value only. -/
def FieldMap.judgeAlone (options : Options) (name : String) (entries : List (String × Value))
    (field : String × Definition) : Except CompileError (Except Failure Verdict) :=
  FieldMap.judge [field] options name [(field.1, (Value.record entries).get field.1)]

namespace Gathered

@[simp]
theorem issues_verdict (found : Gathered (List (String × Value))) :
    found.verdict.issues = found.issues := by
  unfold verdict
  split
  · next h => exact h.symm
  · rfl

theorem output_verdict {found : Gathered (List (String × Value))} (h : found.issues = []) :
    found.verdict.output = found.output := by
  unfold verdict
  rw [h]
  rfl

/-- What was made of parts is judged as their verdicts in one, followed by what concerns the whole. -/
theorem verdict_joined (parts : List (Gathered (List (String × Value)))) (others : List Issue) :
    verdict ⟨(joined parts).output, (joined parts).issues ++ others⟩ =
      Verdict.joined others (parts.map verdict) := by
  have hissues : (parts.map verdict).flatMap Verdict.issues = (joined parts).issues := by
    simp only [joined, List.flatMap_map, issues_verdict]
  unfold Verdict.joined
  rw [hissues]
  by_cases hnone : (joined parts).issues = []
  · -- Nothing is wrong with any part, so that every verdict has the output of its part.
    have hparts : ∀ part ∈ parts, part.issues = [] := List.flatMap_eq_nil_iff.mp hnone
    have houtput : (parts.map verdict).flatMap Verdict.output = (joined parts).output := by
      rw [List.flatMap_map]
      exact List.flatMap_congr fun part hm => output_verdict (hparts part hm)
    rw [houtput]
  · -- Something is wrong, and the outputs do not matter.
    unfold verdict
    dsimp only
    split
    · next h => exact absurd (List.append_eq_nil_iff.mp h).1 hnone
    · rfl

end Gathered

/-- A single part is judged as it is. -/
theorem Verdict.joined_alone (part : Gathered (List (String × Value))) :
    joined [] [part.verdict] = part.verdict := by
  have h := Gathered.verdict_joined [part] []
  simp only [Gathered.joined, List.flatMap_cons, List.flatMap_nil, List.append_nil] at h
  exact h.symm

section

variable {options : Options} {path : DataPath} {required : List String}

/-- Properties are resolved one by one if the check does not stop early. -/
theorem resolveProperties_eq_mapM (hstop : options.abortEarly = false)
    (data : List (String × Value)) (properties : List (String × Check)) :
    resolveProperties options path required data properties =
      (properties.mapM fun property =>
        resolveProperty options path required data property.1 property.2).map Gathered.joined := by
  induction properties with
  | nil => simp only [resolveProperties, List.mapM_nil]; rfl
  | cons property rest ih =>
    rw [resolveProperties_cons, List.mapM_cons, ih]
    simp only [hstop, Bool.false_and, Bool.false_eq_true, if_false]
    cases resolveProperty options path required data property.1 property.2 with
    | error failure => rfl
    | ok first =>
      cases rest.mapM fun property =>
          resolveProperty options path required data property.1 property.2 <;> rfl

/-- A property is there in a record exactly if it is there in the record of its value only. -/
theorem present?_alone (name : String) (entries : List (String × Value)) :
    present? name [(name, (Value.record entries).get name)] = present? name entries := by
  have hget : (Value.record entries).get name = (entries.lookup name).getD .null := rfl
  rw [present?, present?, hget, List.lookup_cons_self]
  cases entries.lookup name with
  | none => rfl
  | some v => rfl

/-- What is made of a property does not depend on the rest of the record. -/
theorem resolveProperty_alone (name : String) (check : Check) (entries : List (String × Value)) :
    resolveProperty options path required [(name, (Value.record entries).get name)] name check =
      resolveProperty options path required entries name check := by
  rw [resolveProperty, resolveProperty, present?_alone]

theorem refusedKeys_eq_strayIssues (declared : List String) (entries : List (String × Value)) :
    refusedKeys options options.unknown [] declared entries =
      options.strayIssues declared entries := by
  unfold refusedKeys Options.strayIssues Options.unknown
  cases options.stripUnknown <;> cases (undeclaredKeys declared entries).isEmpty <;> rfl

/-- A record whose only key is declared has no stray keys. -/
theorem strayIssues_alone (name : String) (v : Value) :
    options.strayIssues [name] [(name, v)] = [] := by
  simp [Options.strayIssues, undeclaredKeys]

end

/-- A validator that does not stop early says of a record what it says of its fields, one by one. -/
theorem Validator.validate_record_eq_joined (validator : Validator)
    (hstop : validator.options.abortEarly = false) (entries : List (String × Value)) :
    validator.validate (.record entries) =
      (validator.checks.mapM fun property =>
        (resolveProperty validator.options [] [] entries property.1 property.2).map
          Gathered.verdict).map
        (Verdict.joined (validator.options.strayIssues (validator.checks.map (·.1)) entries)) := by
  change validator.validateRecord entries = _
  rw [validateRecord_eq, resolveProperties_eq_mapM hstop, mapM_except_map]
  cases validator.checks.mapM fun property =>
      resolveProperty validator.options [] [] entries property.1 property.2 with
  | error failure => rfl
  | ok parts =>
    have hkeep : validator.options.unknown ≠ .keep := by
      unfold Options.unknown
      split <;> exact UnknownKeys.noConfusion
    simp only [Except.map]
    rw [closeRecord_eq_limit, refusedKeys_eq_strayIssues, ← Gathered.verdict_joined, if_neg hkeep,
      List.append_nil, limitIssues, hstop]
    rfl

namespace FieldMap

variable {options : Options} {name : String} {entries : List (String × Value)}

/-- What the data is called does not matter for a record. -/
theorem judge_name (fields : FieldMap) (options : Options) (name other : String)
    (entries : List (String × Value)) :
    fields.judge options name entries = fields.judge options other entries := by
  unfold judge Validator.compile
  cases compileFields id fields <;> rfl

/-- Fields are made ready one by one. -/
theorem compileFields_eq_mapM (fields : FieldMap) :
    compileFields id fields =
      fields.mapM fun field => (field.2.compile field.1).map (Prod.mk field.1) := by
  induction fields with
  | nil => rw [compileFields]; rfl
  | cons field rest ih =>
    obtain ⟨key, d⟩ := field
    rw [compileFields, List.mapM_cons, ← ih]
    dsimp only [id]
    cases d.compile key with
    | error e => rfl
    | ok check => cases compileFields id rest <;> rfl

/-- A field alone is made ready, and what is made of its value is judged. -/
theorem judgeAlone_eq (hstop : options.abortEarly = false) (field : String × Definition) :
    judgeAlone options name entries field =
      (field.2.compile field.1).map fun check =>
        (resolveProperty options [] [] entries field.1 check).map Gathered.verdict := by
  obtain ⟨key, d⟩ := field
  unfold judgeAlone judge Validator.compile
  rw [compileFields, compileFields]
  dsimp only [id]
  cases d.compile key with
  | error e => rfl
  | ok check =>
    dsimp only [Except.map]
    refine congrArg Except.ok ?_
    rw [Validator.validate_record_eq_joined _ hstop]
    simp only [List.mapM_cons, List.mapM_nil, List.map_cons, List.map_nil, strayIssues_alone,
      resolveProperty_alone]
    cases resolveProperty options [] [] entries key check with
    | error failure => rfl
    | ok part => exact congrArg Except.ok (Verdict.joined_alone part)

/-- Fields are validated independently: the verdict on a record joins the verdicts on its fields,
each alone, and ends with the keys that no field declares. -/
theorem judge_eq_joined (hstop : options.abortEarly = false) (name : String)
    (entries : List (String × Value)) (fields : FieldMap) :
    fields.judge options name entries =
      (fields.mapM (judgeAlone options name entries)).map fun results =>
        (results.mapM id).map (Verdict.joined (options.strayIssues (fields.map (·.1)) entries)) := by
  have halone : judgeAlone options name entries = fun field =>
      ((field.2.compile field.1).map (Prod.mk field.1)).map fun property =>
        (resolveProperty options [] [] entries property.1 property.2).map Gathered.verdict := by
    funext field
    rw [judgeAlone_eq hstop]
    cases field.2.compile field.1 <;> rfl
  unfold judge Validator.compile
  rw [halone, mapM_except_map, ← compileFields_eq_mapM]
  cases hc : compileFields id fields with
  | error e => rfl
  | ok checks =>
    refine congrArg Except.ok ?_
    dsimp only
    rw [Validator.validate_record_eq_joined _ hstop, List.mapM_map, names_of_compileFields hc]
    rfl

/-- What is wrong with a field alone lies at its name or below it. -/
theorem allBelow_judgeAlone (hstop : options.abortEarly = false) {field : String × Definition}
    {verdict : Verdict} (h : judgeAlone options name entries field = .ok (.ok verdict)) :
    AllBelow [.key field.1] verdict.issues := by
  rw [judgeAlone_eq hstop] at h
  cases hc : field.2.compile field.1 with
  | error e =>
    rw [hc] at h
    cases h
  | ok check =>
    rw [hc] at h
    obtain ⟨part, hpart, rfl⟩ := exists_of_map_eq_ok (Except.ok.inj h)
    rw [Gathered.issues_verdict]
    unfold resolveProperty at hpart
    split at hpart
    · cases hpart
      intro issue hm
      rw [(allFrom_resolveAbsent _ _ _ issue hm).1]
      exact List.prefix_rfl
    · obtain ⟨o, ho, rfl⟩ := exists_of_map_eq_ok hpart
      exact allBelow_run check ho

/-- Issues below one name are not counted below another. -/
theorem issuesUnder_of_other {key other : String} (hne : key ≠ other) {issues : List Issue}
    (h : AllBelow [.key other] issues) : issuesUnder [.key key] issues = [] := by
  unfold issuesUnder
  rw [List.filter_eq_nil_iff]
  intro issue hm hbelow
  obtain ⟨rest, hrest⟩ := h issue hm
  rw [← hrest, List.isPrefixOf_iff_prefix] at hbelow
  exact hne (PathSegment.key.inj (List.cons_prefix_cons.mp hbelow).1)

/-- What the verdicts on fields tell below a name is what the field of this name alone tells. -/
theorem issuesUnder_flatMap (hstop : options.abortEarly = false) {fields : FieldMap}
    {verdicts : List Verdict}
    (h : List.Forall₂ (fun field verdict => judgeAlone options name entries field = .ok (.ok verdict))
      fields verdicts)
    (hnames : (fields.map (·.1)).Nodup) {field : String × Definition} (hm : field ∈ fields) :
    ∃ alone, judgeAlone options name entries field = .ok (.ok alone) ∧
      issuesUnder [.key field.1] (verdicts.flatMap Verdict.issues) = alone.issues := by
  have hothers {key : String} {rest : FieldMap} {others : List Verdict}
      (h : List.Forall₂ (fun field verdict =>
        judgeAlone options name entries field = .ok (.ok verdict)) rest others)
      (hkey : key ∉ rest.map (·.1)) :
      issuesUnder [.key key] (others.flatMap Verdict.issues) = [] := by
    induction h with
    | nil => rfl
    | @cons other verdict rest others hfirst _ ih =>
      obtain ⟨hne, hrest⟩ := List.ne_and_not_mem_of_not_mem_cons hkey
      rw [List.flatMap_cons, issuesUnder_append,
        issuesUnder_of_other hne (allBelow_judgeAlone hstop hfirst), ih hrest]
      rfl
  induction h with
  | nil => cases hm
  | @cons first verdict rest others hfirst htail ih =>
    obtain ⟨hfresh, hrest⟩ := List.nodup_cons.mp hnames
    rw [List.flatMap_cons]
    simp only [issuesUnder_append]
    rcases List.mem_cons.mp hm with rfl | hm
    · refine ⟨verdict, hfirst, ?_⟩
      rw [hothers htail hfresh, List.append_nil]
      exact issuesUnder_of_allBelow (allBelow_judgeAlone hstop hfirst)
    · obtain ⟨alone, halone, hissues⟩ := ih hrest hm
      have hne : field.1 ≠ first.1 := by
        intro heq
        refine hfresh ?_
        dsimp only
        rw [← heq]
        exact List.mem_map_of_mem hm
      refine ⟨alone, halone, ?_⟩
      rw [issuesUnder_of_other hne (allBelow_judgeAlone hstop hfirst), List.nil_append, hissues]

/-- What a verdict on a record tells below the name of a field is what the field alone tells. -/
theorem exists_judgeAlone (hstop : options.abortEarly = false) {fields : FieldMap}
    (hnames : (fields.map (·.1)).Nodup) {verdict : Verdict}
    (h : fields.judge options name entries = .ok (.ok verdict)) {field : String × Definition}
    (hm : field ∈ fields) :
    ∃ alone, judgeAlone options name entries field = .ok (.ok alone) ∧
      alone.issues = issuesUnder [.key field.1] verdict.issues := by
  rw [judge_eq_joined hstop] at h
  obtain ⟨results, hresults, h⟩ := exists_of_map_eq_ok h
  obtain ⟨verdicts, hverdicts, rfl⟩ := exists_of_map_eq_ok h
  have hall := forall₂_of_mapM_eq_ok hresults
  rw [eq_map_ok_of_mapM_id hverdicts, List.forall₂_map_right_iff] at hall
  obtain ⟨alone, halone, hissues⟩ := issuesUnder_flatMap hstop hall hnames hm
  have hstray : issuesUnder [.key field.1]
      (options.strayIssues (fields.map (·.1)) entries) = [] := by
    unfold Options.strayIssues
    split <;> rfl
  refine ⟨alone, halone, ?_⟩
  rw [Verdict.joined, Gathered.issues_verdict, issuesUnder_append, hissues, hstray, List.append_nil]

end FieldMap

end Intake
