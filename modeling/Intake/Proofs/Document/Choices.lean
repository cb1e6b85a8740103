import Intake.Proofs.Document.Bounds

/-!
# Enumerated values told and enforced

A check looks at the enumerated members of its field after everything else. So a value is reported as
none of them exactly if it passes what is asked for apart from them and matches none. A fragment tells
the values that the field or its rules enumerate, and nothing of lists. Main statement: when this
agrees with what is enforced. It does not for values that only the rules of a field enumerate, nor for
the values of a list, unless they exclude nothing.
-/

namespace Intake

/-- What a check knows of its field but for the enumerated members. -/
def Subject.apart (subject : Subject) : Subject := { subject with members := none }

namespace Check

/-- A check that does not look at the enumerated members of its field. -/
def apart : Check → Check
  | .leaf subject rule => .leaf subject.apart rule
  | .listOf subject rule item => .listOf subject.apart rule item
  | .recordOf subject rule properties => .recordOf subject.apart rule properties

variable (options : Options) (path : DataPath) (v : Value)

/-- Where no members are known, none are looked at. -/
theorem map_withMembers_apart (subject : Subject) (result : Except Failure Outcome) :
    result.map (Site.withMembers ⟨subject.apart, options, path⟩ v) = result := by
  have hsame : Site.withMembers ⟨subject.apart, options, path⟩ v = id :=
    funext fun o => Site.withMembers_of_none rfl v o
  rw [hsame, Except.map_id]
  rfl

/-- A wrong type is reported whatever the members are. -/
theorem map_withMembers_typeIssue (subject : Subject) (expected : String) :
    (Except.ok (.reject v (Site.typeIssue ⟨subject.apart, options, path⟩ v expected)) :
        Except Failure Outcome).map (Site.withMembers ⟨subject, options, path⟩ v) =
      .ok (.reject v (Site.typeIssue ⟨subject, options, path⟩ v expected)) := by
  refine congrArg Except.ok ?_
  unfold Site.withMembers
  split <;> rfl

/-- A rule does not look at enumerated members of its field. -/
theorem run_rule_apart (rule : LeafRule) (subject : Subject) :
    rule.run ⟨subject.apart, options, path⟩ v = rule.run ⟨subject, options, path⟩ v := by
  cases rule <;> rfl

/-- A check looks at the enumerated members after everything else. -/
theorem run_eq_apart (check : Check) :
    check.run options path v =
      (check.apart.run options path v).map
        (Site.withMembers ⟨check.subject, options, path⟩ v) := by
  cases check with
  | leaf subject rule =>
    rw [apart, run_leaf, run_leaf, run_rule_apart, map_withMembers_apart]
    rfl
  | listOf subject rule item =>
    rcases v.list_or_ne with ⟨items, rfl⟩ | hne
    · rw [apart, run_listOf_list, run_listOf_list, map_withMembers_apart]
      rfl
    · rw [apart, run_listOf_of_ne _ _ _ _ _ hne, run_listOf_of_ne _ _ _ _ _ hne]
      exact (map_withMembers_typeIssue ..).symm
  | recordOf subject rule properties =>
    rcases v.record_or_ne with ⟨entries, rfl⟩ | hne
    · rw [apart, run_recordOf_record, run_recordOf_record, map_withMembers_apart]
      rfl
    · rw [apart, run_recordOf_of_ne _ _ _ _ _ hne, run_recordOf_of_ne _ _ _ _ _ hne]
      exact (map_withMembers_typeIssue ..).symm

end Check

/-- After the members of a field are looked at, a value is reported to be none of enumerated values if
it was before, or if nothing is wrong with it but that it matches no member. -/
theorem reportedAt_enumMismatch_withMembers (site : Site) (v : Value) (o : Outcome) :
    ReportedAt site.path .enumMismatch (site.withMembers v o).issues ↔
      ReportedAt site.path .enumMismatch o.issues ∨
        o.issues = [] ∧ ∃ values ∈ site.subject.members, ¬ FieldAttributes.Matches values v := by
  unfold Site.withMembers
  cases site.subject.members with
  | none => simp
  | some values =>
    have hmatches := isMember_iff v values
    cases hissues : o.issues with
    | nil =>
      cases hmember : isMember v values <;>
        simp [Outcome.isAccepted, hissues, hmember, ← hmatches, Site.choiceIssue, Site.issueWith,
          Site.issue]
    | cons issue rest => simp [Outcome.isAccepted, hissues]

namespace Definition

/-- A definition without enumerated values of its own. -/
def withoutValues (d : Definition) : Definition :=
  { d with attributes := { d.attributes with values := .undeclared } }

variable {d : Definition} {label : String} {check : Check} {fragment : Value}

/-- Without its enumerated values, a field but an enumeration knows no members. -/
theorem subject_withoutValues (label : String) (d : Definition) :
    Compile.subject label d.withoutValues.attributes =
      (Compile.subject label d.attributes).apart := by
  unfold Compile.subject Subject.apart
  have hown : d.withoutValues.attributes.ownValues = none := rfl
  rw [hown, ite_self]
  rfl

/-- Enumerated values are part of the rule of an enumeration only. -/
theorem leafRule_withoutValues (hk : d.kind ≠ .enumeration) :
    Compile.leafRule label d.withoutValues.attributes = Compile.leafRule label d.attributes := by
  obtain ⟨a, items, properties⟩ := d
  unfold Compile.leafRule withoutValues
  change a.kind ≠ .enumeration at hk
  cases hkind : a.kind with
  | enumeration => exact absurd hkind hk
  | _ => rfl

/-- The check of a definition without its enumerated values does everything but look at them. -/
theorem compile_withoutValues (hk : d.kind ≠ .enumeration) (hc : d.compile label = .ok check) :
    d.withoutValues.compile label = .ok check.apart := by
  rcases shape d with ⟨hkind, item, hi⟩ | ⟨hkind, fields, hp⟩ | hw
  · obtain ⟨part, hpart, rfl⟩ := exists_of_compile_items hkind hi hc
    rw [compile_of_items (d := d.withoutValues) hkind hi, compileItems, hpart, subject_withoutValues]
    rfl
  · have hrequired : d.withoutValues.attributes.requiredProperties =
        d.attributes.requiredProperties := rfl
    rw [compile_of_properties hkind hp, compileProperties] at hc
    rw [compile_of_properties (d := d.withoutValues) hkind hp, compileProperties,
      subject_withoutValues, hrequired]
    cases hchecks : compileFields (fun name => label ++ "." ++ name) fields with
    | error e =>
      rw [hchecks] at hc
      cases hc
    | ok checks =>
      rw [hchecks] at hc
      dsimp only at hc ⊢
      split at hc
      · cases hc
        rfl
      · cases hc
  · obtain ⟨rule, hrule, rfl⟩ := exists_of_compile_whole hw hc
    rw [compile_of_whole (d := d.withoutValues) ⟨hw.items, hw.properties⟩, leafRule_withoutValues hk,
      hrule, subject_withoutValues]
    rfl

end Definition

namespace Check

variable {subject : Subject} {options : Options} {path : DataPath} {v : Value} {o : Outcome}

/-- A list is not reported to be none of enumerated values, its members apart. -/
theorem not_reportedAt_listOf {rule : ListRule} {item : Check}
    (h : (listOf subject.apart rule item).run options path v = .ok o) :
    ¬ ReportedAt path .enumMismatch o.issues := by
  rcases v.list_or_ne with ⟨items, rfl⟩ | hne
  · rw [run_listOf_list, map_withMembers_apart] at h
    obtain ⟨found, hfound, rfl⟩ := exists_of_map_eq_ok h
    rw [reportedAt_close_iff hfound (by decide)]
    exact (rule.bearCodes_sizeIssues _ _).not_reportedAt (by decide)
  · rw [run_listOf_of_ne _ _ _ _ _ hne] at h
    cases h
    simp [Outcome.reject, Site.typeIssue, Site.issue]

/-- A record is not reported to be none of enumerated values, its members apart. -/
theorem not_reportedAt_recordOf {rule : RecordRule} {properties : List (String × Check)}
    (h : (recordOf subject.apart rule properties).run options path v = .ok o) :
    ¬ ReportedAt path .enumMismatch o.issues := by
  rcases v.record_or_ne with ⟨entries, rfl⟩ | hne
  · rw [run_recordOf_record, map_withMembers_apart] at h
    obtain ⟨closed, hclosed, rfl⟩ := exists_of_map_eq_ok h
    obtain ⟨found, hfound, rfl⟩ := exists_of_map_eq_ok hclosed
    rintro ⟨issue, hm, hpath, hcode⟩
    -- What is found of properties lies below the record, and undeclared keys have their own code.
    refine forall_closeRecord (P := fun issue => issue.path = path → issue.code ≠ .enumMismatch)
      (forall_resolveProperties properties ?_ ?_ hfound) (fun keys _ => by simp [keysIssue])
      issue hm hpath hcode
    · intro name check _ v o ho other hother heq
      have hbelow := allBelow_run check ho other hother
      rw [heq] at hbelow
      exact absurd hbelow (not_prefix_of_part _ _)
    · intro name check _ heq
      exact absurd heq (by simp [Site.missingIssue, Site.issue])
  · rw [run_recordOf_of_ne _ _ _ _ _ hne] at h
    cases h
    simp [Outcome.reject, Site.typeIssue, Site.issue]

/-- What is asked for apart from enumerated values reports none of them missed. -/
theorem not_reportedAt_apart {d : Definition} {label : String} {check : Check}
    (hk : d.kind ≠ .enumeration) (hc : d.compile label = .ok check)
    (hr : check.apart.run options path v = .ok o) : ¬ ReportedAt path .enumMismatch o.issues := by
  rcases d.shape with ⟨hkind, item, hi⟩ | ⟨hkind, fields, hp⟩ | hw
  · obtain ⟨part, -, rfl⟩ := Definition.exists_of_compile_items hkind hi hc
    exact not_reportedAt_listOf hr
  · obtain ⟨checks, -, rfl⟩ := Definition.exists_of_compile_record hkind hp hc
    exact not_reportedAt_recordOf hr
  · obtain ⟨rule, hrule, rfl⟩ := Definition.exists_of_compile_whole hw hc
    rw [apart, run_leaf, map_withMembers_apart] at hr
    have hother : ErrorCode.enumMismatch ∉ rule.codes := by
      cases rule with
      | choice values => exact absurd (List.mem_singleton.mp (LeafRule.kind_mem_kinds hrule)) hk
      | _ => simp [LeafRule.codes]
    exact (LeafRule.bearCodes_run hr).not_reportedAt hother

end Check

namespace Definition

/-- A check comes to an end and reports an issue at its path under a code. -/
def Reports (check : Check) (options : Options) (path : DataPath) (v : Value) (code : ErrorCode) :
    Prop :=
  ∃ o, check.run options path v = .ok o ∧ ReportedAt path code o.issues

/-- A value passes what a definition asks for apart from enumerated values; an enumeration asks for
nothing else. -/
def PassesApart (d : Definition) (label : String) (options : Options) (path : DataPath)
    (v : Value) : Prop :=
  d.kind = .enumeration ∨
    ∃ others, d.withoutValues.compile label = .ok others ∧ Passes (others.run options path v)

/-- Enumerated values are told as they are enforced: a value is reported to be none of them exactly if
the fragment tells values, and the value passes what else is asked for and matches none of them. -/
def TellsChoices (d : Definition) (label : String) (check : Check) (fragment : Value) : Prop :=
  ∀ (options : Options) (path : DataPath) (v : Value),
    Reports check options path v .enumMismatch ↔
      ∃ values, fragment.get? "enum" = some (.list values) ∧ d.PassesApart label options path v ∧
        ¬ FieldAttributes.Matches values v

variable {d : Definition} {label : String} {check : Check} {fragment : Value}

/-- What is asked for apart from enumerated values is passed everywhere and under all options by the
same values. -/
theorem passesApart_iff (hk : d.kind ≠ .enumeration) (hc : d.compile label = .ok check)
    (options : Options) (path : DataPath) (v : Value) :
    d.PassesApart label options path v ↔ d.withoutValues.Admits v := by
  have hothers := compile_withoutValues hk hc
  rw [← passes_iff_admits d.withoutValues hothers options path, PassesApart, hothers]
  simp [hk]

/-- An enumeration reports what matches none of its values. -/
theorem reports_enumeration_iff (hk : d.kind = .enumeration) (hc : d.compile label = .ok check)
    (options : Options) (path : DataPath) (v : Value) :
    Reports check options path v .enumMismatch ↔
      ∃ values ∈ d.attributes.choices, ¬ FieldAttributes.Matches values v := by
  obtain ⟨rule, hrule, rfl⟩ :=
    exists_of_compile_whole (isWhole_of_ne (by simp [hk]) (by simp [hk])) hc
  have hkind : d.attributes.kind = .enumeration := hk
  unfold Compile.leafRule at hrule
  rw [hkind] at hrule
  dsimp only at hrule
  cases hchoices : d.attributes.choices with
  | none =>
    rw [hchoices] at hrule
    cases hrule
  | some values =>
    rw [hchoices] at hrule
    cases hrule
    have hmembers : (Compile.subject label d.attributes).members = none := by
      simp [Compile.subject, hkind]
    have hsame (o : Outcome) :
        Site.withMembers ⟨Compile.subject label d.attributes, options, path⟩ v o = o :=
      Site.withMembers_of_none hmembers v o
    have hmatches := isMember_iff v values
    cases hmember : isMember v values <;>
      simp [Reports, Check.run_leaf, LeafRule.run, hmember, Except.map, ← hmatches, hsame,
        Outcome.reject, Site.choiceIssue, Site.issueWith, Site.issue]

/-- Another field reports what passes all else and matches none of the values that the field itself
enumerates. -/
theorem reports_other_iff (hk : d.kind ≠ .enumeration) (hc : d.compile label = .ok check)
    (options : Options) (path : DataPath) (v : Value) :
    Reports check options path v .enumMismatch ↔
      d.withoutValues.Admits v ∧
        ∃ values ∈ d.attributes.ownValues, ¬ FieldAttributes.Matches values v := by
  have hmembers : check.subject.members = d.attributes.ownValues := by
    rw [subject_of_compile hc]
    exact if_neg hk
  rw [← passes_iff_admits d.withoutValues (compile_withoutValues hk hc) options path, Reports,
    Check.run_eq_apart]
  cases hrun : check.apart.run options path v with
  | error failure => simp [Except.map]
  | ok whole =>
    have hwhole := Check.not_reportedAt_apart hk hc hrun
    simp only [Except.map, Except.ok.injEq, exists_eq_left', passes_ok]
    rw [reportedAt_enumMismatch_withMembers ⟨check.subject, options, path⟩ v whole, hmembers]
    simp [hwhole]

/-- Enumerated values are told as they are enforced if the field is an enumeration, and otherwise
exactly if the values of a list exclude nothing, and so do values that only the rules of another
field enumerate. -/
theorem tellsChoices_iff (hc : d.compile label = .ok check) (hf : d.describe = .ok fragment) :
    d.TellsChoices label check fragment ↔ (d.kind ≠ .enumeration →
      (d.kind = .array → ∀ values ∈ d.attributes.ownValues, ∀ v, d.withoutValues.Admits v →
        FieldAttributes.Matches values v) ∧
      (d.kind ≠ .array → d.attributes.ownValues = none → ∀ values ∈ d.attributes.choices,
        ∀ v, d.withoutValues.Admits v → FieldAttributes.Matches values v)) := by
  have htold := get?_enum_of_describe hf
  unfold TellsChoices
  by_cases hk : d.kind = .enumeration
  · simp [hk, reports_enumeration_iff hk hc, htold, PassesApart]
  simp only [reports_other_iff hk hc, passesApart_iff hk hc, htold, ne_eq, hk, not_false_eq_true,
    forall_const]
  by_cases harray : d.kind = .array
  · -- Nothing is told of a list.
    simp only [harray, if_true, reduceCtorEq, false_and, exists_false, iff_false, not_and, not_exists,
      not_not, forall_const, not_true_eq_false, false_imp_iff, and_true]
    exact ⟨fun h values hm v hv => h .standard v hv values hm,
      fun h _ v hv values hm => h values hm v hv⟩
  simp only [harray, if_false, false_imp_iff, true_and, not_false_eq_true, forall_const]
  cases hown : d.attributes.ownValues with
  | some values =>
    have hchoices : d.attributes.choices = some values := by
      rw [FieldAttributes.choices, hown]
      rfl
    simp [hchoices]
  | none =>
    -- The values that the rules enumerate are told, and none are enforced.
    simp only [Option.not_mem_none, false_and, exists_false, and_false, false_iff, forall_const]
    cases hchoices : d.attributes.choices with
    | none => simp
    | some values =>
      simp only [Option.map_some, Option.some.injEq, Value.list.injEq, exists_eq_left', not_and,
        not_not, Option.mem_some_iff, forall_eq']
      exact ⟨fun h => h .standard, fun h _ => h⟩

/-- The rules that enumerate one text. -/
def onlyRules (text : String) : ConfigRules where
  minimum := .undeclared
  maximum := .undeclared
  pattern := .undeclared
  values := .of [.text text]
  allowedProtocols := .undeclared
  errorMessage := .undeclared
  jsonSchema := .undeclared

/-- A text that enumerates one text by itself. -/
def ownChoice : Definition :=
  ⟨{ FieldAttributes.ofKind .string with values := .of [.text "a"] }, .undeclared, .undeclared⟩

/-- A text whose rules enumerate one text. -/
def ruleChoice : Definition :=
  ⟨{ FieldAttributes.ofKind .string with rules := .of (onlyRules "a") }, .undeclared, .undeclared⟩

/-- What a text enumerates by itself is told as it is enforced. -/
theorem tellsChoices_ownChoice :
    ∃ check fragment, ownChoice.compile "f" = .ok check ∧ ownChoice.describe = .ok fragment ∧
      ownChoice.TellsChoices "f" check fragment := by
  refine ⟨_, _, rfl, rfl, (tellsChoices_iff rfl rfl).mpr fun _ => ⟨fun harray => ?_, fun _ hown => ?_⟩⟩
  · cases harray
  · cases hown

/-- What only the rules of a text enumerate is told, and any other text is accepted. -/
theorem not_tellsChoices_ruleChoice :
    ∃ check fragment, ruleChoice.compile "f" = .ok check ∧ ruleChoice.describe = .ok fragment ∧
      fragment.get? "enum" = some (.list [.text "a"]) ∧
      check.run .standard [.key "f"] (.text "b") = .ok (.accept (.text "b")) ∧
      ¬ ruleChoice.TellsChoices "f" check fragment := by
  refine ⟨_, _, rfl, rfl, rfl, rfl, fun htells => ?_⟩
  have hnone : ¬ FieldAttributes.Matches [.text "a"] (.text "b") := by
    rintro ⟨member, hm, hsame⟩
    cases List.mem_singleton.mp hm
    exact absurd hsame (by decide)
  obtain ⟨o, ho, hreported⟩ := (htells .standard [.key "f"] (.text "b")).mpr
    ⟨_, rfl, .inr ⟨_, rfl, _, rfl, rfl⟩, hnone⟩
  cases ho
  exact reportedAt_nil hreported

end Definition

end Intake
