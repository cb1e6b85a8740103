import Intake.Proofs.Results
import Intake.Proofs.Validation.Finding
import Intake.Proofs.Validation.Parts
import Intake.Proofs.Validation.Rule

/-!
# Where issues lie

Main statement: every issue of a check lies at the path of the check or below it. So what a check
says of one part of a record or a list can be told from what it says of the rest. Where the issue of
undeclared keys lies is covered, the wording of issues is not. What holds of the issues of all parts
holds of the issues of the whole, its own apart.
-/

namespace Intake

/-- All issues are told where a check stands: they lie at its path, and their values may be shown if
those of its field may. -/
def AllFrom (site : Site) (issues : List Issue) : Prop :=
  ∀ issue ∈ issues, issue.path = site.path ∧ issue.secret = site.subject.secret

namespace AllFrom

variable {site : Site}

theorem nil : AllFrom site [] := by
  intro issue hm
  cases hm

theorem single {issue : Issue}
    (h : issue.path = site.path ∧ issue.secret = site.subject.secret) : AllFrom site [issue] :=
  List.forall_mem_singleton.mpr h

end AllFrom

/-- What tells of findings where a check stands is told there. -/
theorem allFrom_map_tell (site : Site) (findings : List Finding) :
    AllFrom site (findings.map site.tell) := by
  intro issue hm
  obtain ⟨finding, -, rfl⟩ := List.mem_map.mp hm
  exact ⟨rfl, rfl⟩

theorem Told.allFrom {subject : Subject} {issues : Options → DataPath → List Issue}
    (h : Told subject issues) (options : Options) (path : DataPath) :
    AllFrom ⟨subject, options, path⟩ (issues options path) := by
  obtain ⟨findings, hfindings⟩ := h
  rw [hfindings]
  exact allFrom_map_tell _ findings

/-- What holds of all that tell of a finding at a field holds of issues that tell of findings. -/
theorem Told.forall {P : Issue → Prop} {subject : Subject}
    {issues : Options → DataPath → List Issue} (h : Told subject issues) {options : Options}
    {path : DataPath} (hown : ∀ finding, P (Site.tell ⟨subject, options, path⟩ finding)) :
    ∀ issue ∈ issues options path, P issue := by
  obtain ⟨findings, hfindings⟩ := h
  rw [hfindings]
  exact List.forall_mem_map.mpr fun finding _ => hown finding

/-- The issues of a rule tell of findings. -/
theorem LeafRule.exists_findings {rule : LeafRule} {site : Site} {v : Value} {o : Outcome}
    (h : rule.run site v = .ok o) : ∃ findings : List Finding, o.issues = findings.map site.tell := by
  obtain ⟨subject, options, path⟩ := site
  obtain ⟨judged, hjudged⟩ := rule.exists_judgement subject v
  rw [hjudged] at h
  cases judged with
  | error failure => cases h
  | ok judgement =>
    cases h
    exact ⟨judgement.findings, rfl⟩

/-- Enumerated members are looked at if there is no issue, and make one at most. -/
theorem Site.withMembers_issues (site : Site) (v : Value) (o : Outcome) :
    (site.withMembers v o).issues = o.issues ∨
      o.issues = [] ∧ ∃ finding, (site.withMembers v o).issues = [site.tell finding] := by
  unfold withMembers
  split
  · split
    · rename_i h
      simp only [Outcome.isAccepted, Bool.and_eq_true, List.isEmpty_iff] at h
      exact .inr ⟨h.1, ⟨_, _, _, _, _, _, by decide⟩, rfl⟩
    · exact .inl rfl
  · exact .inl rfl

/-- What holds of the issues of a field, and of all that tell of a finding at it, holds after
enumerated members are looked at. -/
theorem Site.forall_withMembers {P : Issue → Prop} (site : Site) (v : Value) {o : Outcome}
    (h : ∀ issue ∈ o.issues, P issue) (hown : ∀ finding, P (site.tell finding)) :
    ∀ issue ∈ (site.withMembers v o).issues, P issue := by
  rcases site.withMembers_issues v o with heq | ⟨-, finding, heq⟩
  · rwa [heq]
  · rw [heq]
    exact List.forall_mem_singleton.mpr (hown finding)

/-- The issue of a property that is missing is told at the property. -/
theorem allFrom_resolveAbsent (site : Site) (name : String) (required : Bool) :
    AllFrom site (site.resolveAbsent name required).issues := by
  unfold Site.resolveAbsent
  split
  · exact .single ⟨rfl, rfl⟩
  · split
    · exact .nil
    · exact .nil

section

variable {P : Issue → Prop} {options : Options} {path : DataPath} {issue : Issue}

/-- An issue of a list, its own apart, is one of an item at its index. -/
theorem exists_of_mem_gatherItems {stop pending : Bool}
    {check : DataPath → Value → Except Failure Outcome} (items : List Value) {i : Nat}
    {found : Gathered (List Value)} (h : gatherItems stop pending check path i items = .ok found)
    (hm : issue ∈ found.issues) :
    ∃ (j : Nat) (v : Value) (o : Outcome), items[j]? = some v ∧
      check (path ++ [.index (i + j : Nat)]) v = .ok o ∧ issue ∈ o.issues := by
  induction items generalizing i found with
  | nil =>
    cases h
    cases hm
  | cons v rest ih =>
    rw [gatherItems_cons] at h
    obtain ⟨first, hfirst, h⟩ := exists_of_bind_eq_ok h
    split at h
    · cases h
      exact ⟨0, v, first, rfl, hfirst, hm⟩
    · obtain ⟨others, hothers, rfl⟩ := exists_of_map_eq_ok h
      rcases List.mem_append.mp hm with hm | hm
      · exact ⟨0, v, first, rfl, hfirst, hm⟩
      · obtain ⟨j, w, o, hw, hrun, hmem⟩ := ih hothers hm
        rw [Nat.succ_add_eq_add_succ] at hrun
        exact ⟨j + 1, w, o, hw, hrun, hmem⟩

/-- What holds of the issues of all items holds of the issues of a list, its own apart. -/
theorem forall_gatherItems {stop pending : Bool}
    {check : DataPath → Value → Except Failure Outcome}
    (h : ∀ (i : Nat) v o, check (path ++ [.index i]) v = .ok o → ∀ issue ∈ o.issues, P issue)
    (items : List Value) {i : Nat} {found : Gathered (List Value)}
    (hf : gatherItems stop pending check path i items = .ok found) :
    ∀ issue ∈ found.issues, P issue := by
  intro issue hm
  obtain ⟨j, v, o, -, hrun, hm⟩ := exists_of_mem_gatherItems items hf hm
  exact h _ v o hrun issue hm

/-- Where an issue of a property comes from: the property is missing, or its check tells it. -/
def FromProperty (options : Options) (path : DataPath) (data : List (String × Value)) (name : String)
    (check : Check) (issue : Issue) : Prop :=
  (present? name data = none ∧
      issue = Site.missingIssue ⟨check.subject, options, path ++ [.key name]⟩) ∨
    ∃ v o, present? name data = some v ∧ check.run options (path ++ [.key name]) v = .ok o ∧
      issue ∈ o.issues

/-- An issue of a property tells that it is missing where it is needed, or is told by its check. -/
theorem missing_or_run_of_mem {required : List String} {data : List (String × Value)} {name : String}
    {check : Check} {found : Gathered (List (String × Value))}
    (h : resolveProperty options path required data name check = .ok found)
    (hm : issue ∈ found.issues) :
    (present? name data = none ∧ (check.subject.required || required.contains name) = true ∧
        issue = Site.missingIssue ⟨check.subject, options, path ++ [.key name]⟩) ∨
      ∃ v o, present? name data = some v ∧ check.run options (path ++ [.key name]) v = .ok o ∧
        issue ∈ o.issues := by
  unfold resolveProperty at h
  split at h
  · rename_i habsent
    cases h
    unfold Site.resolveAbsent at hm
    split at hm
    · next hneeded => exact .inl ⟨habsent, hneeded, List.mem_singleton.mp hm⟩
    · split at hm <;> cases hm
  · rename_i v hpresent
    obtain ⟨o, ho, rfl⟩ := exists_of_map_eq_ok h
    exact .inr ⟨v, o, hpresent, ho, hm⟩

/-- An issue of a record, its own apart, is one of what was made of a property. -/
theorem exists_property_of_mem {required : List String} {data : List (String × Value)}
    (properties : List (String × Check)) {found : Gathered (List (String × Value))}
    (h : resolveProperties options path required data properties = .ok found)
    (hm : issue ∈ found.issues) :
    ∃ name check own, (name, check) ∈ properties ∧
      resolveProperty options path required data name check = .ok own ∧ issue ∈ own.issues := by
  induction properties generalizing found with
  | nil =>
    cases h
    cases hm
  | cons property rest ih =>
    obtain ⟨name, check⟩ := property
    rw [resolveProperties_cons] at h
    obtain ⟨first, hfirst, h⟩ := exists_of_bind_eq_ok h
    split at h
    · cases h
      exact ⟨name, check, _, List.mem_cons_self, hfirst, hm⟩
    · obtain ⟨others, hothers, rfl⟩ := exists_of_map_eq_ok h
      rcases List.mem_append.mp hm with hm | hm
      · exact ⟨name, check, first, List.mem_cons_self, hfirst, hm⟩
      · obtain ⟨other, part, own, hmem, hown, hm⟩ := ih hothers hm
        exact ⟨other, part, own, List.mem_cons_of_mem _ hmem, hown, hm⟩

/-- An issue of a record, its own apart, comes from a property. -/
theorem exists_of_mem_resolveProperties {required : List String} {data : List (String × Value)}
    (properties : List (String × Check)) {found : Gathered (List (String × Value))}
    (h : resolveProperties options path required data properties = .ok found)
    (hm : issue ∈ found.issues) :
    ∃ name check, (name, check) ∈ properties ∧ FromProperty options path data name check issue := by
  obtain ⟨name, check, own, hmem, hown, hm⟩ := exists_property_of_mem properties h hm
  exact ⟨name, check, hmem, (missing_or_run_of_mem hown hm).imp_left fun ⟨habsent, _, heq⟩ =>
    ⟨habsent, heq⟩⟩

/-- What holds of the issues of all properties, and of those of missing ones, holds of the issues of
a record, its own apart. -/
theorem forall_resolveProperties {required : List String} {data : List (String × Value)}
    (properties : List (String × Check))
    (hrun : ∀ name check, (name, check) ∈ properties → ∀ v o,
      check.run options (path ++ [.key name]) v = .ok o → ∀ issue ∈ o.issues, P issue)
    (hmissing : ∀ name check, (name, check) ∈ properties →
      P (Site.missingIssue ⟨check.subject, options, path ++ [.key name]⟩))
    {found : Gathered (List (String × Value))}
    (h : resolveProperties options path required data properties = .ok found) :
    ∀ issue ∈ found.issues, P issue := by
  intro issue hm
  obtain ⟨name, check, hmem, ⟨-, rfl⟩ | ⟨v, o, -, ho, hm⟩⟩ :=
    exists_of_mem_resolveProperties properties h hm
  · exact hmissing name check hmem
  · exact hrun name check hmem v o ho issue hm

/-- An issue of a closed record was found in it or is that of its undeclared keys. -/
theorem mem_closeRecord {unknown : UnknownKeys} {declared : List String}
    {data : List (String × Value)} {found : Gathered (List (String × Value))}
    (hm : issue ∈ (closeRecord options unknown path declared data found).issues) :
    issue ∈ found.issues ∨
      issue = keysIssue options path ((undeclaredKeys declared data).map (·.1)) := by
  have hall : issue ∈ found.issues ++
      if unknown = .refuse && !(undeclaredKeys declared data).isEmpty then
        [keysIssue options path ((undeclaredKeys declared data).map (·.1))]
      else [] := by
    unfold closeRecord limitIssues at hm
    dsimp only at hm
    split at hm
    · exact List.mem_of_mem_take hm
    · exact hm
  refine (List.mem_append.mp hall).imp_right fun hm => ?_
  split at hm
  · exact List.mem_singleton.mp hm
  · cases hm

/-- What holds of the issues found, and of undeclared keys, holds of the issues of a closed
record. -/
theorem forall_closeRecord {unknown : UnknownKeys} {declared : List String}
    {data : List (String × Value)} {found : Gathered (List (String × Value))}
    (h : ∀ issue ∈ found.issues, P issue) (hkeys : ∀ keys, P (keysIssue options path keys)) :
    ∀ issue ∈ (closeRecord options unknown path declared data found).issues, P issue := by
  intro issue hm
  rcases mem_closeRecord hm with hm | rfl
  · exact h issue hm
  · exact hkeys _

variable {subject : Subject} {v : Value} {o : Outcome}

/-- What holds of all that tell of a finding at a field holds of the issues of its rule. -/
theorem forall_run_leaf {rule : LeafRule}
    (hown : ∀ finding, P (Site.tell ⟨subject, options, path⟩ finding))
    (h : (Check.leaf subject rule).run options path v = .ok o) : ∀ issue ∈ o.issues, P issue := by
  unfold Check.run at h
  dsimp only at h
  cases hr : rule.run ⟨subject, options, path⟩ v with
  | error failure =>
    rw [hr] at h
    cases h
  | ok whole =>
    rw [hr] at h
    cases h
    obtain ⟨findings, hfindings⟩ := LeafRule.exists_findings hr
    refine Site.forall_withMembers ⟨subject, options, path⟩ v ?_ hown
    rw [hfindings]
    exact List.forall_mem_map.mpr fun finding _ => hown finding

/-- What holds of the issues of items, and of all that tell of a finding at a list, holds of the
issues of the list. -/
theorem forall_run_listOf {rule : ListRule} {item : Check}
    (hown : ∀ finding, P (Site.tell ⟨subject, options, path⟩ finding))
    (hitem : ∀ (i : Nat) v o, item.run options (path ++ [.index i]) v = .ok o →
      ∀ issue ∈ o.issues, P issue)
    (h : (Check.listOf subject rule item).run options path v = .ok o) :
    ∀ issue ∈ o.issues, P issue := by
  unfold Check.run at h
  dsimp only at h
  split at h
  · split at h
    · cases h
    · rename_i found hfound
      cases h
      have hitems : ∀ issue ∈ found.issues, P issue := forall_gatherItems hitem _ hfound
      refine Site.forall_withMembers ⟨subject, options, path⟩ _ ?_ hown
      refine List.forall_mem_append.mpr ⟨List.forall_mem_append.mpr ⟨?_, hitems⟩, ?_⟩
      · exact (rule.told_sizeIssues subject _).forall hown
      · split
        · exact (rule.told_repetitionIssues subject _).forall hown
        · exact Told.nil.forall hown
  · cases h
    exact (Told.typeIssue v _).forall hown

/-- What holds of the issues of properties, and of all that tell of a finding at a record, holds of
the issues of the record. -/
theorem forall_run_recordOf {rule : RecordRule} {properties : List (String × Check)}
    (hown : ∀ finding, P (Site.tell ⟨subject, options, path⟩ finding))
    (hkeys : ∀ keys, P (keysIssue options path keys))
    (hrun : ∀ name check, (name, check) ∈ properties → ∀ v o,
      check.run options (path ++ [.key name]) v = .ok o → ∀ issue ∈ o.issues, P issue)
    (hmissing : ∀ name check, (name, check) ∈ properties →
      P (Site.missingIssue ⟨check.subject, options, path ++ [.key name]⟩))
    (h : (Check.recordOf subject rule properties).run options path v = .ok o) :
    ∀ issue ∈ o.issues, P issue := by
  unfold Check.run at h
  dsimp only at h
  split at h
  · split at h
    · cases h
    · rename_i found hfound
      cases h
      exact Site.forall_withMembers ⟨subject, options, path⟩ _
        (forall_closeRecord (forall_resolveProperties properties hrun hmissing hfound) hkeys) hown
  · cases h
    exact (Told.typeIssue v _).forall hown

end

/-- All issues lie at a path or below it. -/
def AllBelow (path : DataPath) (issues : List Issue) : Prop :=
  ∀ issue ∈ issues, path <+: issue.path

namespace AllBelow

variable {path : DataPath}

/-- Issues below a longer path are below a shorter one. -/
theorem of_longer {segment : PathSegment} {issues : List Issue}
    (h : AllBelow (path ++ [segment]) issues) : AllBelow path issues := fun issue hm =>
  (List.prefix_append path [segment]).trans (h issue hm)

end AllBelow

/-- Every issue of a check lies at the path of the check or below it. -/
theorem allBelow_run (check : Check) {options : Options} {path : DataPath} {v : Value}
    {o : Outcome} (h : check.run options path v = .ok o) : AllBelow path o.issues := by
  match check with
  | .leaf subject rule => exact forall_run_leaf (fun _ => List.prefix_rfl) h
  | .listOf subject rule item =>
    exact forall_run_listOf (fun _ => List.prefix_rfl)
      (fun i v o ho => (allBelow_run item ho).of_longer) h
  | .recordOf subject rule properties =>
    exact forall_run_recordOf (fun _ => List.prefix_rfl) (fun keys => List.prefix_rfl)
      (fun name part hm v o ho => (allBelow_run part ho).of_longer)
      (fun name part _ => List.prefix_append path [.key name]) h
termination_by sizeOf check
decreasing_by
  · simp only [Check.listOf.sizeOf_spec]
    omega
  · have := List.sizeOf_lt_of_mem hm
    simp only [Prod.mk.sizeOf_spec, Check.recordOf.sizeOf_spec] at this ⊢
    omega

/-- What holds of all that tell of a finding, and of undeclared keys, holds of the issues of every
check. -/
theorem forall_run {P : Issue → Prop} {options : Options}
    (htell : ∀ subject path finding, P (Site.tell ⟨subject, options, path⟩ finding))
    (hkeys : ∀ path keys, P (keysIssue options path keys)) (check : Check) {path : DataPath}
    {v : Value} {o : Outcome} (h : check.run options path v = .ok o) : ∀ issue ∈ o.issues, P issue := by
  match check with
  | .leaf subject rule => exact forall_run_leaf (htell subject path) h
  | .listOf subject rule item =>
    exact forall_run_listOf (htell subject path) (fun i v o ho => forall_run htell hkeys item ho) h
  | .recordOf subject rule properties =>
    exact forall_run_recordOf (htell subject path) (hkeys path)
      (fun name part hm v o ho => forall_run htell hkeys part ho)
      (fun name part _ => Told.missingIssue.forall (htell part.subject _) _ List.mem_cons_self) h
termination_by sizeOf check
decreasing_by
  · simp only [Check.listOf.sizeOf_spec]
    omega
  · have := List.sizeOf_lt_of_mem hm
    simp only [Prod.mk.sizeOf_spec, Check.recordOf.sizeOf_spec] at this ⊢
    omega

/-- What holds of all that tell of a finding, of undeclared keys and of data that is no record holds
of the issues of a validator. -/
theorem Validator.forall_validate {P : Issue → Prop} {validator : Validator}
    (htell : ∀ subject path finding, P (Site.tell ⟨subject, validator.options, path⟩ finding))
    (hkeys : ∀ path keys, P (keysIssue validator.options path keys)) {data : Value}
    (hshape : P (validator.shapeIssue data)) {issues : List Issue}
    (h : validator.validate data = .ok (.rejected issues)) : ∀ issue ∈ issues, P issue := by
  have hrecord (entries : List (String × Value))
      (h : validator.validateRecord entries = .ok (.rejected issues)) :
      ∀ issue ∈ issues, P issue := by
    unfold validateRecord at h
    split at h
    · cases h
    · rename_i found hfound
      dsimp only at h
      split at h
      · cases h
      · cases h
        exact forall_closeRecord (forall_resolveProperties validator.checks
          (fun name part _ v o ho => forall_run htell hkeys part ho)
          (fun name part _ => Told.missingIssue.forall (htell part.subject _) _ List.mem_cons_self)
          hfound) (hkeys [])
  unfold validate at h
  split at h
  · exact hrecord _ h
  · exact hrecord _ h
  · cases h
    exact List.forall_mem_singleton.mpr hshape

end Intake
