import Intake.Proofs.Json.Alike
import Intake.Proofs.Validation.Locality
import Mathlib.Data.List.Nodup

/-!
# For which constraints issues are worded

Options give messages by the label of a field and the name of a constraint. Which constraint an issue
is worded for shows in its code and in the kind of its field, as a bound is named for what it bounds.
Main statement: whatever a rule finds wrong with a value is worded for the constraint that its code
names. Keys that are not declared are named here and worded elsewhere, as no rule finds them.
-/

namespace Intake

/-- All constraints. -/
def Constraint.all : List Constraint :=
  [.required, .type, .enum, .minLength, .maxLength, .pattern, .format, .url, .protocol, .minimum,
   .maximum, .integer, .precision, .minItems, .maxItems, .uniqueItems, .timezone, .minDate, .maxDate,
   .time, .maxFileSize, .mimeType, .json]

namespace Constraint

theorem mem_all (constraint : Constraint) : constraint ∈ all := by
  cases constraint <;> decide

theorem name_ne (constraint : Constraint) : constraint.name ≠ "" := by
  cases constraint <;> decide

theorem name_injective : Function.Injective name := by
  have hall : (all.map name).Nodup := by decide
  intro constraint other h
  exact List.inj_on_of_nodup_map hall constraint.mem_all other.mem_all h

end Constraint

/-- The names of the least and the greatest bound of a field of a kind. -/
def FieldKind.boundNames : FieldKind → String × String
  | .number => ("min", "max")
  | .array => ("minItems", "maxItems")
  | .date | .dateTime => ("minDate", "maxDate")
  | _ => ("minLength", "maxLength")

/-- The name of what a code reports to be broken on a field of a kind. Codes that fields do not
report under have none. -/
def ErrorCode.constraintName (kind : FieldKind) : ErrorCode → String
  | .required => "required"
  | .invalidType | .invalidDate => "type"
  | .unrecognizedKeys => "unknownKeys"
  | .tooSmall => kind.boundNames.1
  | .tooBig => kind.boundNames.2
  | .notInteger => "integer"
  | .tooPrecise => "precision"
  | .notUnique => "uniqueItems"
  | .patternMismatch => "pattern"
  | .invalidFormat => "format"
  | .invalidTime => "time"
  | .invalidTimezone => "timezone"
  | .invalidUrl => "url"
  | .protocolNotAllowed => "protocol"
  | .invalidJson => "json"
  | .fileTooLarge => "maxFileSize"
  | .mimeTypeNotAllowed => "mimeType"
  | .enumMismatch => "enum"
  | .fieldNotFound | .ruleBroken | .ruleFailed | .system => ""

/-- Constraints that bound the values of a kind are named by the codes of what is out of bounds. -/
theorem FieldKind.constraintName_of_boundNames {kind : FieldKind} {least greatest : Constraint}
    (h : kind.boundNames = (least.name, greatest.name)) :
    least.name = ErrorCode.tooSmall.constraintName kind ∧
      greatest.name = ErrorCode.tooBig.constraintName kind :=
  ⟨(congrArg Prod.fst h).symm, (congrArg Prod.snd h).symm⟩

/-- The names of all that a field can find broken, undeclared keys included. -/
def constraintNames : List String := "unknownKeys" :: Constraint.all.map Constraint.name

theorem Constraint.name_mem_constraintNames (constraint : Constraint) :
    constraint.name ∈ constraintNames :=
  List.mem_cons_of_mem _ (List.mem_map_of_mem constraint.mem_all)

/-- No name of a constraint holds a dot. -/
theorem dot_notMem_of_mem_constraintNames {name : String} (h : name ∈ constraintNames) :
    '.' ∉ name.toList := by
  have hall : ∀ name ∈ constraintNames, '.' ∉ name.toList := by decide
  exact hall name h

/-- Every issue where a check stands is worded for the constraint that its code names. -/
def WordedFor (site : Site) (issues : List Issue) : Prop :=
  ∀ issue ∈ issues, ∃ constraint standard,
    constraint.name = issue.code.constraintName site.subject.kind ∧
      issue.message = site.message constraint standard

namespace WordedFor

variable {site : Site}

theorem nil : WordedFor site [] := by
  intro issue hm
  cases hm

theorem issue {code : ErrorCode} {constraint : Constraint}
    (h : constraint.name = code.constraintName site.subject.kind) (standard : String)
    (value : Value) (expected : String) :
    WordedFor site [site.issue code constraint standard value expected] :=
  List.forall_mem_singleton.mpr ⟨constraint, standard, h, rfl⟩

theorem issueWith {code : ErrorCode} {constraint : Constraint}
    (h : constraint.name = code.constraintName site.subject.kind) (standard : String)
    (value : Value) (expected : String) (context : List (String × Value)) :
    WordedFor site [site.issueWith code constraint standard value expected context] :=
  List.forall_mem_singleton.mpr ⟨constraint, standard, h, rfl⟩

theorem append {issues others : List Issue} (h : WordedFor site issues)
    (ho : WordedFor site others) : WordedFor site (issues ++ others) :=
  List.forall_mem_append.mpr ⟨h, ho⟩

theorem issueIf {issue : Issue} (condition : Bool) (h : WordedFor site [issue]) :
    WordedFor site (Intake.issueIf condition issue) := by
  cases condition with
  | true => exact h
  | false => exact nil

/-- The issue of a wrong type. -/
theorem typeIssue (v : Value) (expected : String) : WordedFor site [site.typeIssue v expected] :=
  issue rfl _ v expected

/-- The issue of a value that is none of the enumerated ones. -/
theorem choiceIssue (v : Value) (values : List Value) :
    WordedFor site [site.choiceIssue v values] :=
  issueWith rfl _ v _ _

end WordedFor

section

variable {site : Site}

theorem TextRule.wordedFor_issues {rule : TextRule} {s : String} {issues : List Issue}
    (hnames : site.subject.kind.boundNames = (Constraint.minLength.name, Constraint.maxLength.name))
    (h : rule.issues site s = .ok issues) : WordedFor site issues := by
  obtain ⟨hleast, hgreatest⟩ := FieldKind.constraintName_of_boundNames hnames
  obtain ⟨byPattern, hpattern, h⟩ := exists_of_bind_eq_ok h
  cases h
  have hbyPattern : WordedFor site byPattern := by
    unfold patternIssues at hpattern
    split at hpattern
    · split at hpattern <;> cases hpattern
      · exact .nil
      · exact .issue rfl _ _ _
    · cases hpattern
      exact .nil
  refine .append (.append (.append ?_ ?_) hbyPattern) ?_
  · cases rule.minLength with
    | none => exact .nil
    | some least => exact .issueIf _ (.issue hleast _ _ _)
  · cases rule.maxLength with
    | none => exact .nil
    | some greatest => exact .issueIf _ (.issue hgreatest _ _ _)
  · cases rule.format with
    | none => exact .nil
    | some format => exact .issueIf _ (.issue rfl _ _ _)

theorem NumberRule.wordedFor_issues (rule : NumberRule)
    (hnames : site.subject.kind.boundNames = (Constraint.minimum.name, Constraint.maximum.name))
    (n : Number) : WordedFor site (rule.issues site n) := by
  obtain ⟨hleast, hgreatest⟩ := FieldKind.constraintName_of_boundNames hnames
  refine .append (.append (.append ?_ ?_) (.issueIf _ (.issue rfl _ _ _))) ?_
  · cases rule.minimum with
    | none => exact .nil
    | some least => exact .issueIf _ (.issue hleast _ _ _)
  · cases rule.maximum with
    | none => exact .nil
    | some greatest => exact .issueIf _ (.issue hgreatest _ _ _)
  · cases rule.precision with
    | none => exact .nil
    | some places => exact .issueIf _ (.issue rfl _ _ _)

theorem ListRule.wordedFor_sizeIssues (rule : ListRule)
    (hnames : site.subject.kind.boundNames = (Constraint.minItems.name, Constraint.maxItems.name))
    (size : Nat) : WordedFor site (rule.sizeIssues site size) := by
  obtain ⟨hleast, hgreatest⟩ := FieldKind.constraintName_of_boundNames hnames
  refine .append ?_ ?_
  · cases rule.minItems with
    | none => exact .nil
    | some least => exact .issueIf _ (.issueWith hleast _ _ _ _)
  · cases rule.maxItems with
    | none => exact .nil
    | some greatest => exact .issueIf _ (.issueWith hgreatest _ _ _ _)

theorem ListRule.wordedFor_repetitionIssues (rule : ListRule) (items : List Value) :
    WordedFor site (rule.repetitionIssues site items) := by
  unfold repetitionIssues
  split
  · exact .issueIf _ (.issueWith rfl _ _ _ _)
  · exact .nil

theorem DateRange.wordedFor_issues {α : Type} (range : DateRange α) (isBefore : α → α → Bool)
    (hnames : site.subject.kind.boundNames = (Constraint.minDate.name, Constraint.maxDate.name))
    (v : Value) (date : α) :
    WordedFor site (range.issues isBefore site v date) := by
  obtain ⟨hleast, hgreatest⟩ := FieldKind.constraintName_of_boundNames hnames
  refine .append ?_ ?_
  · cases range.earliest with
    | none => exact .nil
    | some bound => exact .issueIf _ (.issue hleast _ _ _)
  · cases range.latest with
    | none => exact .nil
    | some bound => exact .issueIf _ (.issue hgreatest _ _ _)

theorem FileRule.wordedFor_issues (rule : FileRule) (size : Number) (type : String) :
    WordedFor site (rule.issues site size type) := by
  refine .append ?_ ?_
  · cases rule.maxSize with
    | none => exact .nil
    | some greatest => exact .issueIf _ (.issue rfl _ _ _)
  · cases rule.types with
    | none => exact .nil
    | some types => exact .issueIf _ (.issue rfl _ _ _)

theorem LeafRule.wordedFor_checkUrl (protocols : Option (List String)) (s output : String) :
    WordedFor site (checkUrl site protocols s output).issues := by
  unfold checkUrl
  split
  · exact .issue rfl _ _ _
  · split
    · exact .nil
    · split
      · exact .nil
      · exact .issueWith rfl _ _ _ _

theorem wordedFor_checkSchema {schema : Option Value} {isRead : Bool} {v part : Value} {o : Outcome}
    (h : checkSchema site schema isRead v part = .ok o) : WordedFor site o.issues := by
  unfold checkSchema at h
  split at h
  · cases h
    exact .nil
  · split at h
    · cases h
    · cases h
      exact .nil
    · cases h
      exact .issueWith rfl _ _ _ _

/-- Every issue of a rule on a field of a kind that it is made for is worded for the constraint that
its code names. -/
theorem LeafRule.wordedFor_run {rule : LeafRule} (hkind : site.subject.kind ∈ rule.kinds) {v : Value}
    {o : Outcome} (h : rule.run site v = .ok o) : WordedFor site o.issues := by
  have wrongType (expected : String) :
      WordedFor site (Outcome.reject v (site.typeIssue v expected)).issues := .typeIssue v expected
  cases rule with
  | text rule transform =>
    have hnames : site.subject.kind.boundNames = ("minLength", "maxLength") := by
      simp only [kinds, List.mem_cons, List.not_mem_nil, or_false] at hkind
      rcases hkind with hk | hk | hk <;> rw [hk] <;> rfl
    simp only [run] at h
    split at h
    · obtain ⟨issues, hissues, rfl⟩ := exists_of_map_eq_ok h
      exact rule.wordedFor_issues hnames hissues
    · cases h
      exact wrongType _
  | url rule transform protocols =>
    have hnames := congrArg FieldKind.boundNames (List.mem_singleton.mp hkind)
    simp only [run] at h
    split at h
    · split at h
      · cases h
        exact wordedFor_checkUrl _ _ _
      · rename_i hissues
        cases h
        exact rule.wordedFor_issues hnames hissues
      · cases h
    · cases h
      exact wrongType _
  | number rule =>
    have hnames := congrArg FieldKind.boundNames (List.mem_singleton.mp hkind)
    simp only [run] at h
    split at h
    · cases h
      exact rule.wordedFor_issues hnames _
    · cases h
      exact wrongType _
  | boolean =>
    cases h
    split
    · exact .nil
    · exact wrongType _
  | choice values =>
    cases h
    split
    · exact .nil
    · exact .choiceIssue v values
  | anyList rule =>
    have hnames := congrArg FieldKind.boundNames (List.mem_singleton.mp hkind)
    simp only [run] at h
    split at h
    · split at h
      · cases h
        exact rule.wordedFor_repetitionIssues _
      · cases h
        exact rule.wordedFor_sizeIssues hnames _
    · cases h
      exact wrongType _
  | anyRecord =>
    simp only [run] at h
    split at h
    · cases h
      exact .nil
    · cases h
      exact wrongType _
  | date range =>
    have hnames := congrArg FieldKind.boundNames (List.mem_singleton.mp hkind)
    simp only [run] at h
    split at h
    · cases h
      exact range.wordedFor_issues _ hnames _ _
    · cases h
      exact .issue rfl _ _ _
  | dateTime range timezone =>
    have hnames := congrArg FieldKind.boundNames (List.mem_singleton.mp hkind)
    simp only [run] at h
    split at h
    · split at h
      · cases h
        exact .issue rfl _ _ _
      · cases h
        exact range.wordedFor_issues _ hnames _ _
    · cases h
      exact .issue rfl _ _ _
  | time =>
    simp only [run] at h
    split at h
    · cases h
      exact .nil
    · split at h
      · cases h
        exact .nil
      · cases h
        exact .issue rfl _ _ _
  | file rule =>
    simp only [run] at h
    split at h
    · cases h
      exact rule.wordedFor_issues _ _
    · cases h
      exact .issue rfl _ _ _
  | json schema =>
    simp only [run] at h
    split at h
    · split at h
      · exact wordedFor_checkSchema h
      · cases h
        exact .issue rfl _ _ _
    · exact wordedFor_checkSchema h

end

/-- What a finding reports to be broken is what its code names on fields of a kind. -/
def Finding.Fits (kind : FieldKind) (finding : Finding) : Prop :=
  finding.constraint.name = finding.code.constraintName kind

/-- Options that give every constraint of a label its name as the message. -/
def Options.naming (label : String) : Options :=
  { Options.standard with
    messages := Constraint.all.map fun constraint =>
      (label ++ "." ++ constraint.name, constraint.name) }

/-- Under such options an issue shows the name of its constraint. -/
theorem Site.message_naming (subject : Subject) (path : DataPath) (constraint : Constraint)
    (standard : String) :
    Site.message ⟨subject, .naming subject.label, path⟩ constraint standard = constraint.name := by
  have hkeys : Function.Injective fun c : Constraint => subject.label ++ "." ++ c.name := by
    intro c other h
    exact Constraint.name_injective ((String.append_right_inj _).mp h)
  have hnodup : ((Options.naming subject.label).messages.map (·.1)).Nodup := by
    have hall : Constraint.all.Nodup := by decide
    have hmap := List.Nodup.map hkeys hall
    rwa [Options.naming, List.map_map]
  have hgiven : (Options.naming subject.label).messages.lookup
      (subject.label ++ "." ++ constraint.name) = some constraint.name :=
    lookup_of_mem hnodup (List.mem_map_of_mem constraint.mem_all)
  refine Site.message_of_given ?_ standard
  rw [Site.givenMessage, hgiven]
  simp [constraint.name_ne]

/-- Findings that are told in the words of the constraints that their codes name fit the kind of
their field. -/
theorem fits_of_wordedFor {subject : Subject} {path : DataPath} {findings : List Finding}
    (h : WordedFor ⟨subject, .naming subject.label, path⟩
      (findings.map (Site.tell ⟨subject, .naming subject.label, path⟩))) :
    ∀ finding ∈ findings, finding.Fits subject.kind := by
  intro finding hm
  obtain ⟨constraint, standard, hname, hmessage⟩ := h _ (List.mem_map_of_mem hm)
  have htold : (Site.tell ⟨subject, .naming subject.label, path⟩ finding).message =
      finding.constraint.name := Site.message_naming subject path _ _
  rw [Site.message_naming] at hmessage
  have hsame : finding.constraint.name = constraint.name := htold.symm.trans hmessage
  exact hsame.trans hname

/-- Issues tell of the same findings wherever a check of a field stands, and these fit the kind of the
field. -/
def ToldFitting (subject : Subject) (issues : Options → DataPath → List Issue) : Prop :=
  ∃ findings : List Finding, (∀ finding ∈ findings, finding.Fits subject.kind) ∧
    ∀ options path, issues options path = findings.map (Site.tell ⟨subject, options, path⟩)

theorem Told.fitting {subject : Subject} {issues : Options → DataPath → List Issue}
    (h : Told subject issues)
    (hworded : ∀ options path, WordedFor ⟨subject, options, path⟩ (issues options path)) :
    ToldFitting subject issues := by
  obtain ⟨findings, hfindings⟩ := h
  have hnaming := hworded (.naming subject.label) []
  rw [hfindings] at hnaming
  exact ⟨findings, fits_of_wordedFor hnaming, hfindings⟩

/-- A judgement of a rule on a value of its field, wherever it is told, is made of findings that fit
the kind of the field. -/
theorem LeafRule.fits_of_judgement {rule : LeafRule} {subject : Subject}
    (hkind : subject.kind ∈ rule.kinds) {v : Value} {judgement : Judgement rule.declared v}
    (h : ∀ options path, rule.run ⟨subject, options, path⟩ v =
      .ok (Site.conclude ⟨subject, options, path⟩ judgement)) :
    ∀ finding ∈ judgement.findings, finding.Fits subject.kind := by
  have hnaming := LeafRule.wordedFor_run hkind (h (.naming subject.label) [])
  exact fits_of_wordedFor hnaming

end Intake
