import Intake.Validation.Run

/-!
# What checks find

What is wrong with a value depends on the value and its field alone. Where a check stands and under
which options only decides how that is told: at which path and in which words. Main statements: a
rule finds the same wherever it stands, and what it accepts has the same output but for a declared
transform. The parts of lists and records are not covered, nor are keys that are not declared.
-/

namespace Intake

/-- Something that a check finds wrong with a value. -/
structure Finding where
  /-- The fault. -/
  code : ErrorCode
  /-- What is broken. -/
  constraint : Constraint
  /-- The message of the check itself. -/
  standard : String
  /-- The offending value. -/
  value : Value
  /-- What was expected. -/
  expected : String
  /-- More about the fault. -/
  context : Option (List (String × Value))
  /-- The data is at fault and not the engine. -/
  code_ne : code ≠ .system

/-- The issue that tells of a finding where a check stands. -/
def Site.tell (site : Site) (finding : Finding) : Issue :=
  { site.issue finding.code finding.constraint finding.standard finding.value finding.expected with
    context := finding.context }

/-- Issues tell of the same findings wherever a check of a field stands. -/
def Told (subject : Subject) (issues : Options → DataPath → List Issue) : Prop :=
  ∃ findings : List Finding, ∀ options path,
    issues options path = findings.map (Site.tell ⟨subject, options, path⟩)

namespace Told

variable {subject : Subject}

theorem nil : Told subject fun _ _ => [] := ⟨[], fun _ _ => rfl⟩

theorem issue {code : ErrorCode} (h : code ≠ .system) (constraint : Constraint) (standard : String)
    (value : Value) (expected : String) :
    Told subject fun options path =>
      [Site.issue ⟨subject, options, path⟩ code constraint standard value expected] :=
  ⟨[⟨code, constraint, standard, value, expected, none, h⟩], fun _ _ => rfl⟩

theorem issueWith {code : ErrorCode} (h : code ≠ .system) (constraint : Constraint)
    (standard : String) (value : Value) (expected : String) (context : List (String × Value)) :
    Told subject fun options path =>
      [Site.issueWith ⟨subject, options, path⟩ code constraint standard value expected context] :=
  ⟨[⟨code, constraint, standard, value, expected, some context, h⟩], fun _ _ => rfl⟩

theorem append {issues others : Options → DataPath → List Issue} (h : Told subject issues)
    (ho : Told subject others) :
    Told subject fun options path => issues options path ++ others options path := by
  obtain ⟨found, hfound⟩ := h
  obtain ⟨more, hmore⟩ := ho
  refine ⟨found ++ more, fun options path => ?_⟩
  dsimp only
  rw [hfound, hmore, List.map_append]

theorem issueIf {issue : Options → DataPath → Issue} (condition : Bool)
    (h : Told subject fun options path => [issue options path]) :
    Told subject fun options path => Intake.issueIf condition (issue options path) := by
  cases condition with
  | true => exact h
  | false => exact nil

/-- The issue of a wrong type. -/
theorem typeIssue (value : Value) (expected : String) :
    Told subject fun options path => [Site.typeIssue ⟨subject, options, path⟩ value expected] := by
  dsimp only [Site.typeIssue, Site.label]
  exact issue (by decide) _ _ _ _

/-- The issue of a value that is none of the enumerated ones. -/
theorem choiceIssue (value : Value) (values : List Value) :
    Told subject fun options path => [Site.choiceIssue ⟨subject, options, path⟩ value values] := by
  dsimp only [Site.choiceIssue, Site.label]
  exact issueWith (by decide) _ _ _ _ _

/-- The issue of a value that is missing. -/
theorem missingIssue :
    Told subject fun options path => [Site.missingIssue ⟨subject, options, path⟩] := by
  dsimp only [Site.missingIssue, Site.label]
  exact issue (by decide) _ _ _ _

end Told

/-- Each rule of a number finds the same everywhere. -/
theorem NumberRule.told_issues (rule : NumberRule) (subject : Subject) (n : Number) :
    Told subject fun options path => rule.issues ⟨subject, options, path⟩ n := by
  dsimp only [issues, Site.label]
  refine .append (.append (.append ?_ ?_) (.issueIf _ (.issue (by decide) _ _ _ _))) ?_
  · cases rule.minimum with
    | none => exact .nil
    | some least => exact .issueIf _ (.issue (by decide) _ _ _ _)
  · cases rule.maximum with
    | none => exact .nil
    | some greatest => exact .issueIf _ (.issue (by decide) _ _ _ _)
  · cases rule.precision with
    | none => exact .nil
    | some places => exact .issueIf _ (.issue (by decide) _ _ _ _)

/-- The number of items is judged in the same way everywhere. -/
theorem ListRule.told_sizeIssues (rule : ListRule) (subject : Subject) (size : Nat) :
    Told subject fun options path => rule.sizeIssues ⟨subject, options, path⟩ size := by
  dsimp only [sizeIssues, Site.label]
  refine .append ?_ ?_
  · cases rule.minItems with
    | none => exact .nil
    | some least => exact .issueIf _ (.issueWith (by decide) _ _ _ _ _)
  · cases rule.maxItems with
    | none => exact .nil
    | some greatest => exact .issueIf _ (.issueWith (by decide) _ _ _ _ _)

/-- Repeated items are found everywhere. -/
theorem ListRule.told_repetitionIssues (rule : ListRule) (subject : Subject) (items : List Value) :
    Told subject fun options path => rule.repetitionIssues ⟨subject, options, path⟩ items := by
  dsimp only [repetitionIssues, Site.label]
  cases rule.unique with
  | false => exact .nil
  | true => exact .issueIf _ (.issueWith (by decide) _ _ _ _ _)

/-- A date outside its range is found everywhere. -/
theorem DateRange.told_issues {α : Type} (range : DateRange α) (isBefore : α → α → Bool)
    (subject : Subject) (v : Value) (date : α) :
    Told subject fun options path => range.issues isBefore ⟨subject, options, path⟩ v date := by
  dsimp only [issues, Site.label]
  refine .append ?_ ?_
  · cases range.earliest with
    | none => exact .nil
    | some bound => exact .issueIf _ (.issue (by decide) _ _ _ _)
  · cases range.latest with
    | none => exact .nil
    | some bound => exact .issueIf _ (.issue (by decide) _ _ _ _)

/-- A file is judged in the same way everywhere. -/
theorem FileRule.told_issues (rule : FileRule) (subject : Subject) (size : Number) (type : String) :
    Told subject fun options path => rule.issues ⟨subject, options, path⟩ size type := by
  dsimp only [issues, Site.label]
  refine .append ?_ ?_
  · cases rule.maxSize with
    | none => exact .nil
    | some greatest => exact .issueIf _ (.issue (by decide) _ _ _ _)
  · cases rule.types with
    | none => exact .nil
    | some types => exact .issueIf _ (.issue (by decide) _ _ _ _)

/-- A text is judged in the same way everywhere, or its pattern fails everywhere. -/
theorem TextRule.told_issues (rule : TextRule) (subject : Subject) (s : String) :
    (∃ failure, ∀ options path, rule.issues ⟨subject, options, path⟩ s = .error failure) ∨
      ∃ issues, Told subject issues ∧
        ∀ options path, rule.issues ⟨subject, options, path⟩ s = .ok (issues options path) := by
  have hpattern : (∃ failure, ∀ options path,
        rule.patternIssues ⟨subject, options, path⟩ s = .error failure) ∨
      ∃ issues, Told subject issues ∧
        ∀ options path, rule.patternIssues ⟨subject, options, path⟩ s = .ok (issues options path) := by
    unfold patternIssues
    dsimp only [patternIssue, Site.label]
    rcases rule.pattern with - | ⟨text, pattern⟩
    · exact .inr ⟨_, .nil, fun _ _ => rfl⟩
    · dsimp only
      cases pattern.searchIn s with
      | found => exact .inr ⟨_, .nil, fun _ _ => rfl⟩
      | absent => exact .inr ⟨_, .issue (by decide) _ _ _ _, fun _ _ => rfl⟩
      | crossed => exact .inl ⟨_, fun _ _ => rfl⟩
  rcases hpattern with ⟨failure, hfails⟩ | ⟨byPattern, htold, hpattern⟩
  · refine .inl ⟨failure, fun options path => ?_⟩
    rw [issues, hfails]
    rfl
  · refine .inr ⟨_, ?_, fun options path => by rw [issues, hpattern]; rfl⟩
    dsimp only [shortIssue, longIssue, formatIssue, Site.label]
    refine .append (.append (.append ?_ ?_) htold) ?_
    · cases rule.minLength with
      | none => exact .nil
      | some least => exact .issueIf _ (.issue (by decide) _ _ _ _)
    · cases rule.maxLength with
      | none => exact .nil
      | some greatest => exact .issueIf _ (.issue (by decide) _ _ _ _)
    · cases rule.format with
      | none => exact .nil
      | some format => exact .issueIf _ (.issue (by decide) _ _ _ _)

/-- A text after a declared transform, where transforms are applied. -/
def Transform.shaped (declared : Option Transform) (applied : Bool) (s : String) : String :=
  match declared with
  | some t => if applied then t.applyTo s else s
  | none => s

/-- What is made of a value by a rule that declares a transform or none. -/
structure Judgement (declared : Option Transform) (v : Value) where
  /-- What is wrong with the value. -/
  findings : List Finding
  /-- The output, where transforms are applied and where they are not. -/
  output : Bool → Value
  /-- Without a declared transform there is one output. -/
  plain : declared = none → output true = output false
  /-- With one, only texts are accepted, and their output is transformed. -/
  shaped : declared.isSome = true → findings = [] →
    ∃ s, v = .text s ∧ ∀ applied, output applied = .text (Transform.shaped declared applied s)

/-- A judgement told where a check stands. -/
def Site.conclude {declared : Option Transform} {v : Value} (site : Site)
    (judgement : Judgement declared v) : Outcome :=
  ⟨judgement.output site.options.transform, judgement.findings.map site.tell⟩

/-- A value is judged in the same way wherever a check of a field stands. -/
def Judged (subject : Subject) (declared : Option Transform) (v : Value)
    (outcomes : Options → DataPath → Except Failure Outcome) : Prop :=
  ∃ judged : Except Failure (Judgement declared v), ∀ options path,
    outcomes options path = judged.map (Site.conclude ⟨subject, options, path⟩)

namespace Judged

variable {subject : Subject} {declared : Option Transform} {v : Value}
  {issues : Options → DataPath → List Issue}

theorem failed (failure : Failure) : Judged subject declared v fun _ _ => .error failure :=
  ⟨.error failure, fun _ _ => rfl⟩

/-- What declares no transform has its output everywhere. -/
theorem plain (h : Told subject issues) (output : Value) :
    Judged subject none v fun options path => .ok ⟨output, issues options path⟩ := by
  obtain ⟨findings, hfindings⟩ := h
  refine ⟨.ok ⟨findings, fun _ => output, fun _ => rfl, nofun⟩, fun options path => ?_⟩
  dsimp only
  rw [hfindings]
  rfl

/-- A value that is accepted as it is. -/
theorem accept (output : Value) : Judged subject none v fun _ _ => .ok (.accept output) :=
  plain .nil output

/-- A value that is refused. -/
theorem reject {issue : Options → DataPath → Issue}
    (h : Told subject fun options path => [issue options path]) (output : Value) :
    Judged subject declared v fun options path => .ok (.reject output (issue options path)) := by
  obtain ⟨findings, hfindings⟩ := h
  have hsome : findings ≠ [] := by
    rintro rfl
    cases hfindings .standard []
  refine ⟨.ok ⟨findings, fun _ => output, fun _ => rfl, fun _ h => absurd h hsome⟩,
    fun options path => ?_⟩
  exact congrArg (fun issues => Except.ok (Outcome.mk output issues)) (hfindings options path)

/-- A text whose output is transformed. -/
theorem shape (h : Told subject issues) (s : String) :
    Judged subject declared (.text s) fun options path =>
      .ok ⟨.text (Site.shape ⟨subject, options, path⟩ declared s), issues options path⟩ := by
  obtain ⟨findings, hfindings⟩ := h
  refine ⟨.ok ⟨findings, fun applied => .text (Transform.shaped declared applied s), ?_,
    fun _ _ => ⟨s, rfl, fun _ => rfl⟩⟩, fun options path => ?_⟩
  · rintro rfl
    rfl
  · dsimp only
    rw [hfindings]
    rfl

end Judged

/-- A value is checked against a JSON Schema in the same way everywhere. -/
theorem judged_checkSchema (subject : Subject) (schema : Option Value) (isRead : Bool)
    (v part : Value) :
    Judged subject none v fun options path =>
      checkSchema ⟨subject, options, path⟩ schema isRead v part := by
  unfold checkSchema
  dsimp only [schemaIssue, Site.label]
  cases schema with
  | none => exact .accept v
  | some schema =>
    dsimp only
    rcases JsonSchema.violations schema isRead part with failure | (_ | ⟨first, rest⟩)
    · exact .failed failure
    · exact .accept v
    · exact .reject (.issueWith (by decide) _ _ _ _ _) v

namespace LeafRule

/-- The transform that a rule declares. -/
def declared : LeafRule → Option Transform
  | .text _ transform => transform
  | .url _ transform _ => transform
  | _ => none

/-- A URL is judged in the same way everywhere. -/
theorem judged_checkUrl (subject : Subject) (transform : Option Transform)
    (protocols : Option (List String)) (s : String) :
    Judged subject transform (.text s) fun options path =>
      .ok (checkUrl ⟨subject, options, path⟩ protocols s
        (Site.shape ⟨subject, options, path⟩ transform s)) := by
  unfold checkUrl
  dsimp only [Site.label]
  cases urlScheme? s with
  | none => exact .reject (.issue (by decide) _ _ _ _) _
  | some scheme =>
    cases protocols with
    | none => exact .shape .nil s
    | some allowed =>
      dsimp only
      by_cases hallowed : allowed.contains scheme = true
      · simp only [hallowed, if_true]
        exact .shape .nil s
      · simp only [hallowed]
        exact .reject (.issueWith (by decide) _ _ _ _ _) _

theorem judged_text (subject : Subject) (rule : TextRule) (transform : Option Transform)
    (v : Value) :
    Judged subject transform v fun options path =>
      (LeafRule.text rule transform).run ⟨subject, options, path⟩ v := by
  cases v with
  | text s =>
    dsimp only [run]
    rcases rule.told_issues subject s with ⟨failure, hfails⟩ | ⟨issues, htold, hissues⟩
    · simp only [hfails]
      exact .failed failure
    · simp only [hissues]
      exact .shape htold s
  | _ => exact .reject (.typeIssue _ _) _

theorem judged_url (subject : Subject) (rule : TextRule) (transform : Option Transform)
    (protocols : Option (List String)) (v : Value) :
    Judged subject transform v fun options path =>
      (LeafRule.url rule transform protocols).run ⟨subject, options, path⟩ v := by
  cases v with
  | text s =>
    dsimp only [run]
    rcases rule.told_issues subject s with ⟨failure, hfails⟩ | ⟨issues, ⟨findings, htold⟩, hissues⟩
    · simp only [hfails]
      exact .failed failure
    · simp only [hissues, htold]
      cases findings with
      | nil => exact judged_checkUrl subject transform protocols s
      | cons first rest =>
        exact ⟨.ok ⟨first :: rest, fun _ => .text s, fun _ => rfl, nofun⟩, fun _ _ => rfl⟩
  | _ => exact .reject (.typeIssue _ _) _

theorem judged_anyList (subject : Subject) (rule : ListRule) (v : Value) :
    Judged subject none v fun options path =>
      (LeafRule.anyList rule).run ⟨subject, options, path⟩ v := by
  cases v with
  | list items =>
    dsimp only [run]
    obtain ⟨findings, hsizes⟩ := rule.told_sizeIssues subject items.length
    simp only [hsizes]
    cases findings with
    | nil => exact .plain (rule.told_repetitionIssues subject items) _
    | cons first rest => exact .plain ⟨first :: rest, fun _ _ => rfl⟩ _
  | _ => exact .reject (.typeIssue _ _) _

theorem judged_dateTime (subject : Subject) (range : DateRange DateTime)
    (timezone : Option TimezoneRule) (v : Value) :
    Judged subject none v fun options path =>
      (LeafRule.dateTime range timezone).run ⟨subject, options, path⟩ v := by
  dsimp only [run, dateIssue, Site.label]
  cases v.dateTime? with
  | none => exact .reject (.issue (by decide) _ _ _ _) v
  | some t =>
    dsimp only
    cases timezone.bind (·.broken? t) with
    | none => exact .plain (range.told_issues _ subject v t) _
    | some wanted => exact .reject (.issue (by decide) _ _ _ _) v

theorem judged_time (subject : Subject) (v : Value) :
    Judged subject none v fun options path => LeafRule.time.run ⟨subject, options, path⟩ v := by
  have hother : Judged subject none v fun options path =>
      if (v.text?.map isClockTimeText).getD false then .ok (.accept v)
      else .ok (.reject v (Site.issue ⟨subject, options, path⟩ .invalidTime .time
        (subject.label ++ " must be in HH:MM or HH:MM:SS format") v "HH:MM[:SS]")) := by
    split
    · exact .accept v
    · exact .reject (.issue (by decide) _ _ _ _) v
  cases v with
  | time t => exact .accept _
  | _ => exact hother

theorem judged_json (subject : Subject) (schema : Option Value) (v : Value) :
    Judged subject none v fun options path =>
      (LeafRule.json schema).run ⟨subject, options, path⟩ v := by
  cases v with
  | text s =>
    dsimp only [run, Site.label]
    cases Json.read? s with
    | none => exact .reject (.issue (by decide) _ _ _ _) _
    | some part => exact judged_checkSchema subject schema true _ part
  | _ => exact judged_checkSchema subject schema false _ _

/-- A rule judges a value in the same way wherever it stands. -/
theorem judged_run (rule : LeafRule) (subject : Subject) (v : Value) :
    Judged subject rule.declared v fun options path => rule.run ⟨subject, options, path⟩ v := by
  cases rule with
  | text rule transform => exact judged_text subject rule transform v
  | url rule transform protocols => exact judged_url subject rule transform protocols v
  | number rule =>
    dsimp only [run]
    cases v.finite? with
    | none => exact .reject (.typeIssue v _) v
    | some n => exact .plain (rule.told_issues subject n) v
  | boolean =>
    dsimp only [run]
    cases v.isBool with
    | true => exact .accept v
    | false => exact .reject (.typeIssue v _) v
  | choice values =>
    dsimp only [run]
    cases isMember v values with
    | true => exact .accept v
    | false => exact .reject (.choiceIssue v values) v
  | anyList rule => exact judged_anyList subject rule v
  | anyRecord =>
    cases v with
    | record entries => exact .accept _
    | _ => exact .reject (.typeIssue _ _) _
  | date range =>
    dsimp only [run, dateIssue, Site.label]
    cases v.date? with
    | none => exact .reject (.issue (by decide) _ _ _ _) v
    | some d => exact .plain (range.told_issues _ subject v d) _
  | dateTime range timezone => exact judged_dateTime subject range timezone v
  | time => exact judged_time subject v
  | file rule =>
    dsimp only [run, Site.label]
    rcases FileRule.parts? v with - | ⟨size, type⟩
    · exact .reject (.issue (by decide) _ _ _ _) v
    · exact .plain (rule.told_issues subject size type) v
  | json schema => exact judged_json subject schema v

/-- There is one judgement of a rule on a value, which is told wherever the rule stands. -/
theorem exists_judgement (rule : LeafRule) (subject : Subject) (v : Value) :
    ∃ judged : Except Failure (Judgement rule.declared v), ∀ options path,
      rule.run ⟨subject, options, path⟩ v = judged.map (Site.conclude ⟨subject, options, path⟩) :=
  judged_run rule subject v

end LeafRule

end Intake
