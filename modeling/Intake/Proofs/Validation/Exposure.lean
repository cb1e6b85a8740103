import Intake.Proofs.Validation.Secrecy
import Mathlib.Data.Finset.Basic
import Mathlib.Data.Fintype.EquivFin

/-!
# Issues that show values

Data for a part becomes data for the whole that holds this part and no other, so what the check of a
definition tells of some value, a validator that goes on after an issue tells of data that leads to the
place of the definition through first items. Each field that is not secret refuses some value with an
issue that shows it or a part of it, unless it is a file on which nothing is restricted. Main statement:
so for every place that is not secret there is data on which a validator shows a value there. Items are
looked at in lists of one.
-/

namespace Intake

/-- The check of some value at a path tells an issue. -/
def Raises (options : Options) (base : DataPath) (check : Check) (issue : Issue) : Prop :=
  ∃ v o, v.isNull = false ∧ check.run options base v = .ok o ∧ issue ∈ o.issues

namespace Definition

variable {d e : Definition} {label : String} {check : Check} {options : Options} {rest : DataPath}

/-- What the check of a definition below another one tells, the check of the other one tells of data
that leads to it through first items. -/
theorem At.raises (h : d.At rest e) (hstop : options.abortEarly = false) (base : DataPath)
    (hnames : ∀ path p, d.At path p → p.NamesUnique) (hc : d.compile label = .ok check) :
    ∃ below part, e.compile below = .ok part ∧
      ∀ issue, Raises options (base ++ rest.throughFirst) part issue →
        Raises options base check issue := by
  induction h generalizing label check base with
  | here d =>
    have hpath : base ++ DataPath.throughFirst [] = base := List.append_nil base
    rw [hpath]
    exact ⟨label, check, hc, fun _ h => h⟩
  | @items d item e path hk hi i h ih =>
    obtain ⟨part, hpart, rfl⟩ := exists_of_compile_items hk hi hc
    obtain ⟨below, inner, hinner, hraises⟩ := ih (base ++ [.index 0])
      (fun path p hat => hnames _ p (.items hk hi 0 hat)) hpart
    have hpath : base ++ DataPath.throughFirst (.index i :: path) =
        base ++ [.index 0] ++ DataPath.throughFirst path := List.append_cons ..
    rw [hpath]
    refine ⟨below, inner, hinner, fun issue hissue => ?_⟩
    obtain ⟨v, o, -, hrun, hm⟩ := hraises issue hissue
    obtain ⟨whole, hwhole, hissues⟩ := run_listOf_single hstop _ _ hrun
    exact ⟨.list [v], whole, rfl, hwhole, List.mem_of_mem_filter (hissues ▸ hm)⟩
  | @property d p e fields name path hk hp hm h ih =>
    obtain ⟨rule, checks, hchecks, rfl⟩ := exists_of_compile_properties hk hp hc
    obtain ⟨part, hpart, hmem⟩ := compile_of_mem hchecks hm
    obtain ⟨below, inner, hinner, hraises⟩ := ih (base ++ [.key name])
      (fun path other hat => hnames _ other (.property hk hp hm hat)) hpart
    have hunique : (checks.map (·.1)).Nodup := by
      rw [names_of_compileFields hchecks]
      exact hnames [] d (.here d) hk hp
    have hpath : base ++ DataPath.throughFirst (.key name :: path) =
        base ++ [.key name] ++ DataPath.throughFirst path := List.append_cons ..
    rw [hpath]
    refine ⟨below, inner, hinner, fun issue hissue => ?_⟩
    obtain ⟨v, o, hv, hrun, hfound⟩ := hraises issue hissue
    obtain ⟨whole, hwhole, hissues⟩ := run_recordOf_single hstop _ rule hunique hmem hv hrun
    exact ⟨.record [(name, v)], whole, rfl, hwhole, List.mem_of_mem_filter (hissues ▸ hfound)⟩

end Definition

/-- What the check of the definition of a place tells there, a validator tells of data that leads to
the place through first items. -/
theorem FieldMap.Governs.raises {fields : FieldMap} {path : DataPath} {e : Definition}
    {options : Options} {checks : List (String × Check)} (h : fields.Governs path e)
    (hnames : fields.UniqueNames) (hstop : options.abortEarly = false)
    (hc : compileFields id fields = .ok checks) (name : String) :
    ∃ below part, e.compile below = .ok part ∧
      ∀ issue, Raises options path.throughFirst part issue →
        ∃ data issues, Validator.validate ⟨name, options, checks⟩ data = .ok (.rejected issues) ∧
          issue ∈ issues := by
  obtain ⟨key, d, rest, hm, rfl, hat⟩ := h
  obtain ⟨check, hcheck, hmem⟩ := Definition.compile_of_mem hc hm
  obtain ⟨below, part, hpart, hraises⟩ := hat.raises hstop [.key key]
    (fun path p hp => hnames.nested _ p ⟨key, d, path, hm, rfl, hp⟩) hcheck
  have hunique : (checks.map (·.1)).Nodup := by
    rw [names_of_compileFields hc]
    exact hnames.top
  refine ⟨below, part, hpart, fun issue hissue => ?_⟩
  obtain ⟨v, o, hv, hrun, hfound⟩ := hraises issue hissue
  obtain ⟨verdict, hverdict, hissues⟩ :=
    validate_single ⟨name, options, checks⟩ hstop hunique hmem hv hrun
  have hmember : issue ∈ verdict.issues := List.mem_of_mem_filter (hissues ▸ hfound)
  cases verdict with
  | accepted output => cases hmember
  | rejected issues => exact ⟨_, issues, hverdict, hmember⟩

/-- An issue shows a value at a path. -/
structure Issue.ShowsAt (issue : Issue) (path : DataPath) : Prop where
  /-- The issue lies at the path. -/
  path : issue.path = path
  /-- The value may be shown. -/
  secret : issue.secret = false
  /-- There is a value. -/
  value : issue.value ≠ .null
  /-- The value is not the replacement of a secret. -/
  unmasked : issue.value ≠ .text redactedText

/-- The check of some value at a path shows a value at another one. -/
def Exposes (options : Options) (base path : DataPath) (check : Check) : Prop :=
  ∃ v o, v.isNull = false ∧ check.run options base v = .ok o ∧
    ∃ issue ∈ o.issues, issue.ShowsAt path

/-- The description of a file that has something in it that is no number. -/
def fileValue (size : Int) (type : String) : Value :=
  .record [("", .float .nan), ("name", .text ""), ("size", .number (.int size)),
    ("type", .text type)]

theorem parts?_fileValue (size : Int) (type : String) :
    FileRule.parts? (fileValue size type) = some (.int size, type) := rfl

/-- What has something in it that is no number is none of several values. -/
theorem not_isMember_fileValue (size : Int) (type : String) (values : List Value) :
    isMember (fileValue size type) values = false := by
  have hentry (others : List (String × Value)) (rest : List (String × Value)) :
      Value.entriesCountInBy Number.sameAs (("", .float .nan) :: rest) others = false := by
    rw [Value.entriesCountInBy]
    cases others.lookup "" with
    | none => rfl
    | some other => cases other <;> rfl
  have hsame (v : Value) : (fileValue size type).sameAs v = false := by
    cases v with
    | record others => simp [Value.sameAs, Value.sameAsBy, fileValue, Value.countsAsBy, hentry]
    | _ => rfl
  simp [isMember, hsame]

/-- Some text is neither among some texts nor the replacement of a secret. -/
theorem exists_fresh_text (texts : List String) : ∃ text, text ∉ texts ∧ text ≠ redactedText := by
  have hinjective : Function.Injective fun n : Nat => String.ofList (List.replicate n 'a') := by
    intro m n h
    have hlists := String.ofList_injective h
    simpa using congrArg List.length hlists
  have := Infinite.of_injective _ hinjective
  obtain ⟨text, htext⟩ := Infinite.exists_notMem_finset (redactedText :: texts).toFinset
  rw [List.mem_toFinset, List.mem_cons, not_or] at htext
  exact ⟨text, htext.2, htext.1⟩

/-- Looking at enumerated members keeps all issues. -/
theorem Site.mem_withMembers (site : Site) (v : Value) {o : Outcome} {issue : Issue}
    (h : issue ∈ o.issues) : issue ∈ (site.withMembers v o).issues := by
  rcases site.withMembers_issues v o with heq | ⟨hnil, -⟩
  · rwa [heq]
  · rw [hnil] at h
    cases h

/-- A file that is too large shows its size. -/
theorem FileRule.exists_sizeIssue (site : Site) (types : Option (List String)) (greatest : Int)
    (type : String) (hsecret : site.subject.secret = false) :
    ∃ issue ∈ FileRule.issues ⟨types, some greatest⟩ site (.int (greatest + 1)) type,
      issue.ShowsAt site.path := by
  have hlarge : (Number.int greatest).lessThan (.int (greatest + 1)) = true := by
    have hcompare : compare greatest (greatest + 1) = .lt :=
      compare_lt_iff_lt.mpr (Int.lt_succ greatest)
    simp [Number.lessThan, Number.order?, Number.place?, Extended.order, hcompare]
  unfold FileRule.issues
  simp only [hlarge, issueIf, if_true]
  exact ⟨_, List.mem_append_left _ List.mem_cons_self,
    ⟨rfl, hsecret, by simp [Site.issue], by simp [Site.issue]⟩⟩

/-- A file of a type that is not listed shows its type. -/
theorem FileRule.exists_typeIssue (site : Site) (types : List String) (size : Number)
    {type : String} (htype : type ∉ types) (hmask : type ≠ redactedText)
    (hsecret : site.subject.secret = false) :
    ∃ issue ∈ FileRule.issues ⟨some types, none⟩ site size type, issue.ShowsAt site.path := by
  have hlisted : types.contains type = false := by simpa using htype
  unfold FileRule.issues
  simp only [hlisted, issueIf, Bool.not_false, if_true]
  exact ⟨_, List.mem_append_right _ List.mem_cons_self,
    ⟨rfl, hsecret, by simp [Site.issue], by simpa [Site.issue] using hmask⟩⟩

/-- A file that is none of the enumerated values is shown. -/
theorem Site.exists_choiceIssue (site : Site) {values : List Value}
    (hvalues : site.subject.members = some values) (size : Int) (type : String)
    (hsecret : site.subject.secret = false) :
    ∃ issue ∈ (site.withMembers (fileValue size type) ⟨fileValue size type, []⟩).issues,
      issue.ShowsAt site.path := by
  have hnone := not_isMember_fileValue size type values
  simp only [withMembers, hvalues, hnone, Outcome.isAccepted, List.isEmpty_nil, Bool.not_false,
    Bool.and_self, if_true]
  exact ⟨_, List.mem_cons_self,
    ⟨rfl, hsecret, by simp [choiceIssue, issueWith, issue, fileValue],
      by simp [choiceIssue, issueWith, issue, fileValue]⟩⟩

namespace Definition

variable {d : Definition} {label : String} {check : Check} {options : Options} {base : DataPath}

/-- What is shown of a description of a file is exposed by the check. -/
theorem exposes_of_file {subject : Subject} {rule : FileRule} (size : Int) (type : String)
    (h : ∃ issue ∈ (Site.withMembers ⟨subject, options, base⟩ (fileValue size type)
      ⟨fileValue size type, rule.issues ⟨subject, options, base⟩ (.int size) type⟩).issues,
        issue.ShowsAt base) : Exposes options base base (.leaf subject (.file rule)) := by
  refine ⟨fileValue size type, _, rfl, ?_, h⟩
  unfold Check.run
  simp only [LeafRule.run, parts?_fileValue]
  rfl

/-- A file on which something is restricted exposes a value where it stands. -/
theorem exposes_file (hk : d.kind = .file) (hsecret : d.isSecret = false)
    (hshows : ¬ d.ShowsNothing) (hc : d.compile label = .ok check) :
    Exposes options base base check := by
  obtain rfl := eq_of_compile_file hk hc
  have hraise (size : Int) (type : String)
      (h : ∃ issue ∈ d.fileRule.issues ⟨Compile.subject label d.attributes, options, base⟩ (.int size)
        type, issue.ShowsAt base) :
      Exposes options base base (.leaf (Compile.subject label d.attributes) (.file d.fileRule)) :=
    exposes_of_file size type (h.imp fun _ => And.imp_left (Site.mem_withMembers _ _))
  unfold fileRule at hraise ⊢
  -- The value shown is the size, the type or the description, whichever is restricted first.
  cases hsize : d.attributes.maxFileSize.value? with
  | some greatest =>
    rw [hsize] at hraise
    exact hraise (greatest + 1) "" (FileRule.exists_sizeIssue
      ⟨Compile.subject label d.attributes, options, base⟩ _ greatest "" hsecret)
  | none =>
    cases htypes : d.attributes.allowedMimeTypes.value?.filter (!·.isEmpty) with
    | some types =>
      rw [hsize, htypes] at hraise
      obtain ⟨type, htype, hmask⟩ := exists_fresh_text types
      exact hraise 0 type (FileRule.exists_typeIssue
        ⟨Compile.subject label d.attributes, options, base⟩ types (.int 0) htype hmask hsecret)
    | none =>
      cases hvalues : d.attributes.ownValues with
      | none => exact absurd ⟨hk, hsize, htypes, hvalues⟩ hshows
      | some values =>
        have hkind : d.attributes.kind = .file := hk
        have hmembers : (Compile.subject label d.attributes).members = some values := by
          simp [Compile.subject, hkind, hvalues]
        exact exposes_of_file 0 "" (Site.exists_choiceIssue
          ⟨Compile.subject label d.attributes, options, base⟩ hmembers 0 "" hsecret)

/-- A field that is not secret exposes a value where it stands, unless it shows nothing. -/
theorem exposes_here (hsecret : d.isSecret = false) (hshows : ¬ d.ShowsNothing)
    (hc : d.compile label = .ok check) : Exposes options base base check := by
  by_cases hk : d.kind = .file
  · exact exposes_file hk hsecret hshows hc
  · obtain ⟨v, issue, hrun, hpath, hsame, hvalue⟩ := refuses hc options base
    refine ⟨_, _, d.kind.isNull_refused, hrun, issue, List.mem_singleton_self _,
      ⟨hpath, hsame.trans hsecret, ?_, ?_⟩⟩
    · rw [hvalue]
      cases hkind : d.kind <;> simp_all [FieldKind.refusalShown, FieldKind.refused, Value.float]
    · rw [hvalue]
      cases hkind : d.kind <;>
        simp_all [FieldKind.refusalShown, FieldKind.refused, Value.float, redactedText]

end Definition

/-- At each place that is not secret a validator that goes on after an issue shows a value, in data
that leads to the place through first items, unless the place shows nothing. -/
theorem FieldMap.Governs.exists_shown {fields : FieldMap} {options : Options} {path : DataPath}
    {e : Definition} {name : String} {validator : Validator} (h : fields.Governs path e)
    (hnames : fields.UniqueNames) (hstop : options.abortEarly = false)
    (hsecret : e.isSecret = false) (hshows : ¬ e.ShowsNothing)
    (hc : Validator.compile options name fields = .ok validator) :
    ∃ data issues issue, validator.validate data = .ok (.rejected issues) ∧ issue ∈ issues ∧
      issue.ShowsAt path.throughFirst := by
  obtain ⟨checks, hchecks, rfl⟩ := Validator.exists_of_compile hc
  obtain ⟨below, part, hpart, hraises⟩ := h.raises hnames hstop hchecks name
  have hexposes : Exposes options path.throughFirst path.throughFirst part :=
    Definition.exposes_here hsecret hshows hpart
  obtain ⟨v, o, hv, hrun, issue, hm, hshown⟩ := hexposes
  obtain ⟨data, issues, hrejected, hissue⟩ := hraises issue ⟨v, o, hv, hrun, hm⟩
  exact ⟨data, issues, issue, hrejected, hissue, hshown⟩

end Intake
