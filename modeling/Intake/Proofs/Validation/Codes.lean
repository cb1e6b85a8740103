import Intake.Proofs.Results
import Intake.Proofs.Validation.Rule

/-!
# Under which codes rules report

An issue is reported at a path under a code, and a rule reports what is wrong with a value under few
codes. Main statement: the codes of every rule for values without parts.
-/

namespace Intake

/-- All issues bear one of several codes. -/
def BearCodes (codes : List ErrorCode) (issues : List Issue) : Prop :=
  ∀ issue ∈ issues, issue.code ∈ codes

namespace BearCodes

variable {codes : List ErrorCode}

theorem nil : BearCodes codes [] := by
  intro issue hm
  cases hm

theorem single {issue : Issue} (h : issue.code ∈ codes) : BearCodes codes [issue] :=
  List.forall_mem_singleton.mpr h

theorem append {issues others : List Issue} (h : BearCodes codes issues)
    (ho : BearCodes codes others) : BearCodes codes (issues ++ others) :=
  List.forall_mem_append.mpr ⟨h, ho⟩

theorem issueIf {issue : Issue} (condition : Bool) (h : issue.code ∈ codes) :
    BearCodes codes (Intake.issueIf condition issue) := by
  cases condition with
  | true => exact single h
  | false => exact nil

theorem mono {others : List ErrorCode} {issues : List Issue} (h : BearCodes codes issues)
    (hsub : codes ⊆ others) : BearCodes others issues :=
  fun issue hm => hsub (h issue hm)

end BearCodes

/-- An issue at a path bears a code. -/
def ReportedAt (path : DataPath) (code : ErrorCode) (issues : List Issue) : Prop :=
  ∃ issue ∈ issues, issue.path = path ∧ issue.code = code

section

variable {path : DataPath} {code : ErrorCode}

@[simp]
theorem reportedAt_nil : ¬ ReportedAt path code [] := by
  simp [ReportedAt]

@[simp]
theorem reportedAt_cons (issue : Issue) (rest : List Issue) :
    ReportedAt path code (issue :: rest) ↔
      issue.path = path ∧ issue.code = code ∨ ReportedAt path code rest := by
  simp [ReportedAt]

@[simp]
theorem reportedAt_append (issues others : List Issue) :
    ReportedAt path code (issues ++ others) ↔
      ReportedAt path code issues ∨ ReportedAt path code others := by
  simp [ReportedAt, or_and_right, exists_or]

@[simp]
theorem reportedAt_issueIf (condition : Bool) (issue : Issue) :
    ReportedAt path code (issueIf condition issue) ↔
      condition = true ∧ issue.path = path ∧ issue.code = code := by
  cases condition <;> simp [issueIf]

/-- What bears other codes is not reported under a code. -/
theorem BearCodes.not_reportedAt {codes : List ErrorCode} {issues : List Issue}
    (h : BearCodes codes issues) (hcode : code ∉ codes) : ¬ ReportedAt path code issues := by
  rintro ⟨issue, hm, -, rfl⟩
  exact hcode (h issue hm)

end

theorem TextRule.bearCodes_issues {rule : TextRule} {site : Site} {s : String}
    {issues : List Issue} (h : rule.issues site s = .ok issues) :
    BearCodes [.tooSmall, .tooBig, .patternMismatch, .invalidFormat] issues := by
  obtain ⟨byPattern, hpattern, h⟩ := exists_of_bind_eq_ok h
  cases h
  have hbyPattern : BearCodes [.tooSmall, .tooBig, .patternMismatch, .invalidFormat] byPattern := by
    unfold patternIssues at hpattern
    split at hpattern
    · split at hpattern <;> cases hpattern
      · exact .nil
      · exact .single (by simp [patternIssue, Site.issue])
    · cases hpattern
      exact .nil
  refine .append (.append (.append ?_ ?_) hbyPattern) ?_
  · cases rule.minLength with
    | none => exact .nil
    | some least => exact .issueIf _ (by simp [shortIssue, Site.issue])
  · cases rule.maxLength with
    | none => exact .nil
    | some greatest => exact .issueIf _ (by simp [longIssue, Site.issue])
  · cases rule.format with
    | none => exact .nil
    | some format => exact .issueIf _ (by simp [formatIssue, Site.issue])

theorem NumberRule.bearCodes_issues (rule : NumberRule) (site : Site) (n : Number) :
    BearCodes [.tooSmall, .tooBig, .notInteger, .tooPrecise] (rule.issues site n) := by
  refine .append (.append (.append ?_ ?_) (.issueIf _ (by simp [Site.issue]))) ?_
  · cases rule.minimum with
    | none => exact .nil
    | some least => exact .issueIf _ (by simp [Site.issue])
  · cases rule.maximum with
    | none => exact .nil
    | some greatest => exact .issueIf _ (by simp [Site.issue])
  · cases rule.precision with
    | none => exact .nil
    | some places => exact .issueIf _ (by simp [Site.issue])

theorem ListRule.bearCodes_sizeIssues (rule : ListRule) (site : Site) (size : Nat) :
    BearCodes [.tooSmall, .tooBig] (rule.sizeIssues site size) := by
  refine .append ?_ ?_
  · cases rule.minItems with
    | none => exact .nil
    | some least => exact .issueIf _ (by simp [Site.issueWith, Site.issue])
  · cases rule.maxItems with
    | none => exact .nil
    | some greatest => exact .issueIf _ (by simp [Site.issueWith, Site.issue])

theorem ListRule.bearCodes_repetitionIssues (rule : ListRule) (site : Site) (items : List Value) :
    BearCodes [.notUnique] (rule.repetitionIssues site items) := by
  unfold repetitionIssues
  split
  · exact .issueIf _ (by simp [Site.issueWith, Site.issue])
  · exact .nil

theorem DateRange.bearCodes_issues {α : Type} (range : DateRange α) (isBefore : α → α → Bool)
    (site : Site) (v : Value) (date : α) :
    BearCodes [.tooSmall, .tooBig] (range.issues isBefore site v date) := by
  refine .append ?_ ?_
  · cases range.earliest with
    | none => exact .nil
    | some bound => exact .issueIf _ (by simp [Site.issue])
  · cases range.latest with
    | none => exact .nil
    | some bound => exact .issueIf _ (by simp [Site.issue])

theorem FileRule.bearCodes_issues (rule : FileRule) (site : Site) (size : Number) (type : String) :
    BearCodes [.fileTooLarge, .mimeTypeNotAllowed] (rule.issues site size type) := by
  refine .append ?_ ?_
  · cases rule.maxSize with
    | none => exact .nil
    | some greatest => exact .issueIf _ (by simp [Site.issue])
  · cases rule.types with
    | none => exact .nil
    | some types => exact .issueIf _ (by simp [Site.issue])

theorem LeafRule.bearCodes_checkUrl (site : Site) (protocols : Option (List String))
    (s output : String) :
    BearCodes [.invalidUrl, .protocolNotAllowed] (checkUrl site protocols s output).issues := by
  unfold checkUrl
  split
  · exact .single (by simp [Site.issue])
  · split
    · exact .nil
    · split
      · exact .nil
      · exact .single (by simp [Site.issueWith, Site.issue])

theorem bearCodes_checkSchema {site : Site} {schema : Option Value} {isRead : Bool}
    {v part : Value} {o : Outcome} (h : checkSchema site schema isRead v part = .ok o) :
    BearCodes [.invalidJson] o.issues := by
  unfold checkSchema at h
  split at h
  · cases h
    exact .nil
  · split at h
    · cases h
    · cases h
      exact .nil
    · cases h
      exact .single (by simp [schemaIssue, Site.issueWith, Site.issue])

namespace LeafRule

/-- The codes under which a rule may report what is wrong with a value. -/
def codes : LeafRule → List ErrorCode
  | .text .. => [.invalidType, .tooSmall, .tooBig, .patternMismatch, .invalidFormat]
  | .url .. =>
    [.invalidType, .tooSmall, .tooBig, .patternMismatch, .invalidFormat, .invalidUrl,
     .protocolNotAllowed]
  | .number _ => [.invalidType, .tooSmall, .tooBig, .notInteger, .tooPrecise]
  | .boolean | .anyRecord => [.invalidType]
  | .choice _ => [.enumMismatch]
  | .anyList _ => [.invalidType, .tooSmall, .tooBig, .notUnique]
  | .date _ => [.invalidDate, .tooSmall, .tooBig]
  | .dateTime .. => [.invalidDate, .invalidTimezone, .tooSmall, .tooBig]
  | .time => [.invalidTime]
  | .file _ => [.invalidType, .fileTooLarge, .mimeTypeNotAllowed]
  | .json _ => [.invalidJson]

/-- A rule reports what is wrong with a value under its codes. -/
theorem bearCodes_run {rule : LeafRule} {site : Site} {v : Value} {o : Outcome}
    (h : rule.run site v = .ok o) : BearCodes rule.codes o.issues := by
  have wrongType {codes : List ErrorCode} (hm : .invalidType ∈ codes) (expected : String) :
      BearCodes codes (Outcome.reject v (site.typeIssue v expected)).issues := .single hm
  cases rule with
  | text rule transform =>
    simp only [run] at h
    split at h
    · obtain ⟨issues, hissues, rfl⟩ := exists_of_map_eq_ok h
      exact .mono (rule.bearCodes_issues hissues) (by simp [codes])
    · cases h
      exact wrongType (by simp [codes]) _
  | url rule transform protocols =>
    simp only [run] at h
    split at h
    · split at h
      · cases h
        exact .mono (bearCodes_checkUrl _ _ _ _) (by simp [codes])
      · rename_i hissues
        cases h
        exact .mono (rule.bearCodes_issues hissues) (by simp [codes])
      · cases h
    · cases h
      exact wrongType (by simp [codes]) _
  | number rule =>
    simp only [run] at h
    split at h
    · cases h
      exact .mono (rule.bearCodes_issues _ _) (by simp [codes])
    · cases h
      exact wrongType (by simp [codes]) _
  | boolean =>
    cases h
    split
    · exact .nil
    · exact wrongType (by simp [codes]) _
  | choice values =>
    cases h
    split
    · exact .nil
    · exact .single (by simp [codes, Site.choiceIssue, Site.issueWith, Site.issue])
  | anyList rule =>
    simp only [run] at h
    split at h
    · split at h
      · cases h
        exact .mono (rule.bearCodes_repetitionIssues _ _) (by simp [codes])
      · cases h
        exact .mono (rule.bearCodes_sizeIssues _ _) (by simp [codes])
    · cases h
      exact wrongType (by simp [codes]) _
  | anyRecord =>
    simp only [run] at h
    split at h
    · cases h
      exact .nil
    · cases h
      exact wrongType (by simp [codes]) _
  | date range =>
    simp only [run] at h
    split at h
    · cases h
      exact .mono (range.bearCodes_issues _ _ _ _) (by simp [codes])
    · cases h
      exact .single (by simp [codes, dateIssue, Site.issue])
  | dateTime range timezone =>
    simp only [run] at h
    split at h
    · split at h
      · cases h
        exact .single (by simp [codes, Site.issue])
      · cases h
        exact .mono (range.bearCodes_issues _ _ _ _) (by simp [codes])
    · cases h
      exact .single (by simp [codes, dateIssue, Site.issue])
  | time =>
    simp only [run] at h
    split at h
    · cases h
      exact .nil
    · split at h
      · cases h
        exact .nil
      · cases h
        exact .single (by simp [codes, Site.issue])
  | file rule =>
    simp only [run] at h
    split at h
    · cases h
      exact .mono (rule.bearCodes_issues _ _ _) (by simp [codes])
    · cases h
      exact .single (by simp [codes, Site.issue])
  | json schema =>
    simp only [run] at h
    split at h
    · split at h
      · exact bearCodes_checkSchema h
      · cases h
        exact .single (by simp [codes, Site.issue])
    · exact bearCodes_checkSchema h

end LeafRule

/-- Enumerated members add issues of one code only. -/
theorem reportedAt_withMembers (site : Site) (v : Value) (o : Outcome) {path : DataPath}
    {code : ErrorCode} (h : code ≠ .enumMismatch) :
    ReportedAt path code (site.withMembers v o).issues ↔ ReportedAt path code o.issues := by
  unfold Site.withMembers
  split
  · split
    · rename_i hnil
      simp only [Outcome.isAccepted, Bool.and_eq_true, List.isEmpty_iff] at hnil
      simp [hnil.1, Site.choiceIssue, Site.issueWith, Site.issue, h.symm]
    · rfl
  · rfl

end Intake
