import Intake.Condition.Basic
import Intake.Document.Page
import Intake.Proofs.Document.Bounds
import Intake.Tool.Registry

/-!
# Required fields told and enforced

The names that a description lists as required are those of the fields that a record without entries
is reported to miss, in the same order: of the properties of a record, of the fields of each side on
the page of a tool, and of the configuration that a contract asks for. A check that stops early
reports the first of them only. Main statement: what the documentation tells of bounds and of
required fields is what is enforced.
-/

namespace Intake

/-- The paths at which issues tell of something missing, in order. -/
def unfilledPaths (issues : List Issue) : List DataPath :=
  (issues.filter (·.code = .required)).map (·.path)

/-- The names that are reported of several: all, or the first one if a check stops early. -/
def Options.reported (options : Options) (names : List String) : List String :=
  if options.abortEarly then names.take 1 else names

/-- The names of required fields: those that say so and those that are listed. -/
def FieldMap.needed (fields : FieldMap) (listed : List String) : List String :=
  (fields.filter fun field => field.2.isRequired || listed.contains field.1).map (·.1)

/-- What is told of the properties of a record are the names of the required ones. -/
theorem requiredNames_eq (a : FieldAttributes) (fields : FieldMap) :
    requiredNames a fields = fields.needed (a.requiredProperties.value?.getD []) := rfl

/-- Checks are required as the fields are that they are made of. -/
theorem map_filter_of_compileFields {labelOf : String → String} {fields : FieldMap}
    {checks : List (String × Check)} (h : compileFields labelOf fields = .ok checks)
    (listed : List String) :
    (checks.filter fun part => part.2.subject.required || listed.contains part.1).map (·.1) =
      fields.needed listed := by
  unfold FieldMap.needed
  induction fields generalizing checks with
  | nil =>
    cases h
    rfl
  | cons field rest ih =>
    obtain ⟨name, d⟩ := field
    rw [compileFields] at h
    split at h
    · cases h
    · rename_i check hcheck
      split at h
      · cases h
      · rename_i others hothers
        cases h
        have hrequired : check.subject.required = d.isRequired := by
          rw [subject_of_compile hcheck]
          rfl
        simp only [List.filter_cons, hrequired]
        split
        · rw [List.map_cons, List.map_cons, ih hothers]
        · exact ih hothers

section

variable (options : Options) (path : DataPath)

/-- The issues of checks of which none finds its property: one for each that is required. -/
def missingIssues (required : List (String × Check)) : List Issue :=
  required.map fun part => Site.missingIssue ⟨part.2.subject, options, path ++ [.key part.1]⟩

/-- In a record without entries every required property is found missing, the first one only if the
check stops early. -/
theorem resolveProperties_nil (listed : List String) (checks : List (String × Check)) :
    ∃ found, resolveProperties options path listed [] checks = .ok found ∧
      found.issues = limitIssues options.abortEarly (missingIssues options path
        (checks.filter fun part => part.2.subject.required || listed.contains part.1)) := by
  induction checks with
  | nil => exact ⟨_, rfl, by cases options.abortEarly <;> rfl⟩
  | cons part rest ih =>
    obtain ⟨name, check⟩ := part
    obtain ⟨others, hothers, hissues⟩ := ih
    have hfirst : resolveProperty options path listed [] name check =
        .ok (Site.resolveAbsent ⟨check.subject, options, path ++ [.key name]⟩ name
          (check.subject.required || listed.contains name)) := rfl
    rw [resolveProperties_cons, hfirst, hothers, List.filter_cons]
    cases hrequired : check.subject.required || listed.contains name with
    | true =>
      cases hstop : options.abortEarly with
      | true => exact ⟨_, rfl, rfl⟩
      | false =>
        rw [hstop] at hissues
        refine ⟨_, rfl, ?_⟩
        simp [Gathered.append, hissues, Site.resolveAbsent, limitIssues, missingIssues]
    | false =>
      have hnone := (issues_resolveAbsent_eq_nil_iff
        ⟨check.subject, options, path ++ [.key name]⟩ name false).mpr rfl
      refine ⟨_, by rw [Except.bind, hnone, List.isEmpty_nil, Bool.not_true, Bool.and_false]; rfl, ?_⟩
      simpa [Gathered.append, hnone] using hissues

/-- What is missing of checks has the paths of their names. -/
theorem unfilledPaths_missingIssues (required : List (String × Check)) :
    unfilledPaths (limitIssues options.abortEarly (missingIssues options path required)) =
      (options.reported (required.map (·.1))).map fun name => path ++ [.key name] := by
  have hall (parts : List (String × Check)) : unfilledPaths (missingIssues options path parts) =
      (parts.map (·.1)).map fun name => path ++ [.key name] := by
    induction parts with
    | nil => rfl
    | cons part rest ih => exact congrArg (List.cons (path ++ [.key part.1])) ih
  unfold limitIssues Options.reported
  split
  · rw [missingIssues, ← List.map_take, ← List.map_take]
    exact hall _
  · exact hall required

end

/-- Enumerated members miss nothing. -/
theorem unfilledPaths_withMembers (site : Site) (v : Value) (o : Outcome) :
    unfilledPaths (site.withMembers v o).issues = unfilledPaths o.issues := by
  unfold Site.withMembers
  split
  · split
    · rename_i hnil
      simp only [Outcome.isAccepted, Bool.and_eq_true, List.isEmpty_iff] at hnil
      rw [hnil.1]
      rfl
    · rfl
  · rfl

/-- A record without entries has no keys to refuse. -/
theorem issues_closeRecord_nil (options : Options) (unknown : UnknownKeys) (path : DataPath)
    (declared : List String) (found : Gathered (List (String × Value))) :
    (closeRecord options unknown path declared [] found).issues =
      limitIssues options.abortEarly found.issues := by
  simp [closeRecord, undeclaredKeys]

theorem limitIssues_limitIssues (stop : Bool) (issues : List Issue) :
    limitIssues stop (limitIssues stop issues) = limitIssues stop issues := by
  cases stop <;> simp [limitIssues, List.take_take]

namespace Definition

/-- Required properties are told as they are enforced: a check of a record without entries comes to an
end and reports the told properties as missing, the first one only if it stops early. -/
def TellsRequired (check : Check) (fragment : Value) : Prop :=
  ∀ (options : Options) (path : DataPath), ∃ o, check.run options path (.record []) = .ok o ∧
    unfilledPaths o.issues =
      (options.reported (fragment.namesUnder "required")).map fun name => path ++ [.key name]

variable {d : Definition} {label : String} {check : Check} {fragment : Value}

/-- The required properties of a record are told as they are enforced. -/
theorem tellsRequired {fields : FieldMap} (hk : d.kind = .object) (hp : d.properties = .of fields)
    (hc : d.compile label = .ok check) (hf : d.describe = .ok fragment) :
    TellsRequired check fragment := by
  intro options path
  obtain ⟨checks, hchecks, rfl⟩ := exists_of_compile_record hk hp hc
  obtain ⟨found, hfound, hissues⟩ := resolveProperties_nil options path
    (d.attributes.requiredProperties.value?.getD []) checks
  rw [Check.run_recordOf_record, hfound]
  refine ⟨_, rfl, ?_⟩
  rw [unfilledPaths_withMembers, Gathered.asRecord, issues_closeRecord_nil, hissues,
    limitIssues_limitIssues, unfilledPaths_missingIssues, map_filter_of_compileFields hchecks,
    namesUnder_required hf hk hp, requiredNames_eq]

end Definition

/-- The name of a side in the body of a request. -/
def Side.partName : Side → String
  | .input => "input_data"
  | .config => "config"

/-- The keys that lead to a side on the page of a tool. -/
def Side.pageKeys (side : Side) : List String :=
  ["paths", "/api/execute", "post", "requestBody", "content", "application/json", "schema",
    "properties", side.partName]

/-- The names that the page of a tool tells as required on one side; none if it does not tell the
side. -/
def Value.requiredOn (page : Value) (side : Side) : List String :=
  match page.follow? ["paths", "/api/execute", "post", "requestBody", "content", "application/json",
    "schema", "properties", side.partName] with
  | some told => told.namesUnder "required"
  | none => []

namespace Schema

variable {schema : Schema} {title : PageTitle} {page : Value}

/-- The schema of a side lists the required fields. -/
theorem namesUnder_sideSchema {fields : FieldMap} {told : Value}
    (h : Page.sideSchema fields = .ok told) : told.namesUnder "required" = fields.needed [] := by
  unfold Page.sideSchema at h
  obtain ⟨fragments, -, h⟩ := exists_of_bind_eq_ok h
  cases h
  have hneeded : fields.needed [] =
      (fields.filter fun field => field.2.isRequired).map (·.1) := by
    simp [FieldMap.needed]
  rw [hneeded]
  exact Value.namesUnder_of_texts (by simp [Value.get?, lookup_cons_eq])

/-- A side with fields has a part in a request. -/
theorem exists_of_sidePart {fields : FieldMap} {name : String} {part : List (String × Value)}
    (h : Page.sidePart name fields = .ok part) :
    (fields = [] ∧ part = []) ∨ ∃ told, part = [(name, told)] ∧ Page.sideSchema fields = .ok told := by
  unfold Page.sidePart at h
  split at h
  · rename_i hempty
    cases h
    exact .inl ⟨List.isEmpty_iff.mp hempty, rfl⟩
  · obtain ⟨told, htold, rfl⟩ := exists_of_map_eq_ok h
    exact .inr ⟨told, rfl, htold⟩

/-- The part of a side is told if its fields are described. -/
theorem exists_sidePart_iff (name : String) (fields : FieldMap) :
    (∃ part, Page.sidePart name fields = .ok part) ↔
      ∀ other d, (other, d) ∈ fields → d.IsDescribed := by
  rw [← Definition.exists_describeFields_iff]
  unfold Page.sidePart Page.sideSchema
  split
  · rename_i hempty
    rw [List.isEmpty_iff.mp hempty]
    exact iff_of_true ⟨_, rfl⟩ ⟨_, rfl⟩
  · cases Definition.describeFields fields <;>
      simp [bind, Except.bind, pure, Except.pure, Except.map]

/-- A tool has a page if the fields of its sides are described. -/
theorem exists_page_iff (schema : Schema) (title : PageTitle) :
    (∃ page, schema.page title = .ok page) ↔
      ∀ side name d, (name, d) ∈ schema.fields side → d.IsDescribed := by
  have hsides : (∀ side name d, (name, d) ∈ schema.fields side → d.IsDescribed) ↔
      (∃ input, Page.sidePart "input_data" schema.input = .ok input) ∧
        ∃ config, Page.sidePart "config" schema.config = .ok config := by
    rw [exists_sidePart_iff, exists_sidePart_iff]
    exact ⟨fun h => ⟨h .input, h .config⟩, fun h side => by cases side; exacts [h.1, h.2]⟩
  rw [hsides]
  unfold page Page.requestSchema
  cases Page.sidePart "input_data" schema.input <;> cases Page.sidePart "config" schema.config <;>
    simp [bind, Except.bind, pure, Except.pure]

/-- The page of a tool tells the parts that the body of a request has. -/
theorem exists_of_page (h : schema.page title = .ok page) :
    ∃ input config, Page.sidePart "input_data" schema.input = .ok input ∧
      Page.sidePart "config" schema.config = .ok config ∧
      ∀ side : Side, page.follow? side.pageKeys = (input ++ config).lookup side.partName := by
  obtain ⟨request, hrequest, h⟩ := exists_of_bind_eq_ok h
  obtain ⟨input, hinput, hrequest⟩ := exists_of_bind_eq_ok hrequest
  obtain ⟨config, hconfig, hrequest⟩ := exists_of_bind_eq_ok hrequest
  cases hrequest
  cases h
  refine ⟨input, config, hinput, hconfig, fun side => ?_⟩
  simp [Side.pageKeys, Value.follow?, Value.get?, lookup_cons_eq, Page.runOperation,
    Page.jsonContent]

/-- The page of a tool tells each side that has fields. -/
theorem side_of_page (h : schema.page title = .ok page) (side : Side) :
    (schema.fields side = [] ∧ page.follow? side.pageKeys = none) ∨
      ∃ told, page.follow? side.pageKeys = some told ∧
        Page.sideSchema (schema.fields side) = .ok told := by
  obtain ⟨input, config, hinput, hconfig, hside⟩ := exists_of_page h
  rw [hside]
  rcases exists_of_sidePart hinput with ⟨hinput, rfl⟩ | ⟨told, rfl, htold⟩ <;>
    rcases exists_of_sidePart hconfig with ⟨hconfig, rfl⟩ | ⟨told', rfl, htold'⟩ <;>
    cases side <;>
    simp_all [Side.partName, fields, lookup_cons_eq]

/-- The page of a tool tells the required fields of each side. -/
theorem requiredOn_page (h : schema.page title = .ok page) (side : Side) :
    page.requiredOn side = (schema.fields side).needed [] := by
  have hfollow : page.requiredOn side =
      match page.follow? side.pageKeys with
      | some told => told.namesUnder "required"
      | none => [] := rfl
  rw [hfollow]
  rcases side_of_page h side with ⟨hnil, hnone⟩ | ⟨told, hsome, htold⟩
  · rw [hnone, hnil]
    rfl
  · rw [hsome]
    exact namesUnder_sideSchema htold

end Schema

theorem issues_verdict (found : Gathered (List (String × Value))) :
    found.verdict.issues = found.issues := by
  unfold Gathered.verdict
  split
  · rename_i hnil
    rw [hnil]
    rfl
  · rfl

namespace Validator

variable {fields : FieldMap} {options : Options} {name : String} {validator : Validator}

/-- A record without entries comes to a verdict, and so does data that is null: every required field
is missing, the first one only if the validation stops early. -/
theorem unfilledPaths_validate (h : Validator.compile options name fields = .ok validator) {data : Value}
    (hdata : data = .null ∨ data = .record []) :
    ∃ verdict, validator.validate data = .ok verdict ∧
      unfilledPaths verdict.issues = (options.reported (fields.needed [])).map fun key => [.key key] := by
  obtain ⟨checks, hchecks, rfl⟩ := exists_of_compile h
  obtain ⟨found, hfound, hissues⟩ := resolveProperties_nil options [] [] checks
  have hvalidate : Validator.validate ⟨name, options, checks⟩ data =
      Validator.validateRecord ⟨name, options, checks⟩ [] := by
    rcases hdata with rfl | rfl <;> rfl
  rw [hvalidate, validateRecord_eq, hfound]
  refine ⟨_, rfl, ?_⟩
  rw [issues_verdict, issues_closeRecord_nil, hissues, limitIssues_limitIssues,
    unfilledPaths_missingIssues, map_filter_of_compileFields hchecks]
  rfl

end Validator

/-- Issues tell of something missing if one of them bears the code. -/
theorem unfilledPaths_ne_nil_iff (issues : List Issue) :
    unfilledPaths issues ≠ [] ↔ ∃ issue ∈ issues, issue.code = .required := by
  simp [unfilledPaths, List.filter_eq_nil_iff]

/-- A contract requires a configuration exactly if the validation of an absent one reports that
something is missing. -/
theorem Contract.requiresConfig_iff {c : Contract} {options : Options} {name : String}
    {validator : Validator} (h : Validator.compile options name c.schema.config = .ok validator) :
    c.requiresConfig = true ↔ ∃ verdict, validator.validate .null = .ok verdict ∧
      ∃ issue ∈ verdict.issues, issue.code = .required := by
  obtain ⟨verdict, hverdict, hmissing⟩ := Validator.unfilledPaths_validate h (.inl rfl)
  have hneeded : c.requiresConfig = true ↔ c.schema.config.needed [] ≠ [] := by
    simp [requiresConfig, FieldMap.needed, List.filter_eq_nil_iff]
  have hreported (names : List String) : options.reported names ≠ [] ↔ names ≠ [] := by
    unfold Options.reported
    split <;> cases names <;> simp
  simp only [hverdict, Except.ok.injEq, exists_eq_left']
  rw [hneeded, ← unfilledPaths_ne_nil_iff, hmissing, ← hreported]
  simp

/-- What the documentation tells of bounds and of required fields is what is enforced: the bounds of
every field that can be made ready, the required properties of a record, the required fields of each
side on the page of a tool, and whether a contract requires a configuration. What can be made ready
is told, unless decimal places lie beyond the range of doubles. -/
theorem told_is_enforced :
    (∀ (d : Definition) (label : String) (check : Check), d.compile label = .ok check →
      (d.IsDescribed ↔ d.HasSteps) ∧ ∀ fragment, d.describe = .ok fragment →
        (d.kind.boundKeywords?.isSome = true → d.TellsBounds check fragment) ∧
        ∀ fields : FieldMap, d.kind = .object → d.properties = .of fields →
          Definition.TellsRequired check fragment) ∧
    (∀ (schema : Schema) (title : PageTitle),
      ((∃ page, schema.page title = .ok page) ↔
        ∀ side name d, (name, d) ∈ schema.fields side → d.IsDescribed) ∧
      ∀ page, schema.page title = .ok page →
        ∀ (side : Side) (options : Options) (name : String) (validator : Validator),
          Validator.compile options name (schema.fields side) = .ok validator →
            ∃ verdict, validator.validate (.record []) = .ok verdict ∧
              unfilledPaths verdict.issues =
                (options.reported (page.requiredOn side)).map fun key => [.key key]) ∧
    ∀ (c : Contract) (options : Options) (name : String) (validator : Validator),
      Validator.compile options name c.schema.config = .ok validator →
        (c.requiresConfig = true ↔ ∃ verdict, validator.validate .null = .ok verdict ∧
          ∃ issue ∈ verdict.issues, issue.code = .required) := by
  refine ⟨fun d label check hc => ⟨Definition.isDescribed_iff_of_compile hc, fun fragment hf =>
    ⟨fun hk => Definition.tellsBounds hk hc hf,
      fun fields hk hp => Definition.tellsRequired hk hp hc hf⟩⟩, fun schema title =>
    ⟨schema.exists_page_iff title, fun page hpage side options name validator hc => ?_⟩,
    fun c options name validator hc => Contract.requiresConfig_iff hc⟩
  rw [Schema.requiredOn_page hpage]
  exact Validator.unfilledPaths_validate hc (.inr rfl)

/-- A text that must be there and has two characters at least. -/
def codeDefinition : Definition where
  attributes :=
    { FieldAttributes.ofKind .string with required := some true, minLength := .of 2 }
  items := .undeclared
  properties := .undeclared

/-- A record with two codes. -/
def codesDefinition : Definition where
  attributes := FieldAttributes.ofKind .object
  items := .undeclared
  properties := .of [("x", codeDefinition), ("y", codeDefinition)]

/-- Two codes can be made ready. -/
theorem compiles_codes : codesDefinition.Compiles "codes" := by
  unfold Definition.Compiles
  rw [Definition.compile_of_properties rfl rfl, Definition.properties_compile_iff]
  refine ⟨fun name p hm => ?_, fun name hm => absurd hm List.not_mem_nil⟩
  rcases List.mem_cons.mp hm with heq | hm
  · cases heq
    exact ⟨_, rfl⟩
  · cases List.mem_singleton.mp hm
    exact ⟨_, rfl⟩

/-- A tool that is set up with a code. -/
def codeContract : Contract where
  name := "codes"
  version := "1.0.0"
  description := ""
  schema := ⟨some [("codes", codesDefinition)], some [("code", codeDefinition)], none⟩
  capabilities := []
  timeoutSeconds := 30

/-- A code is told and enforced. -/
theorem told_is_enforced_code :
    ∃ check fragment record told page validator,
      codeDefinition.compile "code" = .ok check ∧ codeDefinition.describe = .ok fragment ∧
      codeDefinition.TellsBounds check fragment ∧
      codesDefinition.compile "codes" = .ok record ∧ codesDefinition.describe = .ok told ∧
      Definition.TellsRequired record told ∧
      codeContract.schema.page .standard = .ok page ∧
      Validator.compile .standard "config" codeContract.schema.config = .ok validator ∧
      (∃ verdict, validator.validate (.record []) = .ok verdict ∧
        unfilledPaths verdict.issues = (page.requiredOn .config).map fun key => [.key key]) ∧
      codeContract.requiresConfig = true ∧
      ∃ verdict, validator.validate .null = .ok verdict ∧
        ∃ issue ∈ verdict.issues, issue.code = .required := by
  obtain ⟨hfields, hpage, hconfig⟩ := told_is_enforced
  obtain ⟨hbounds, -⟩ := (hfields codeDefinition "code" _ rfl).2 _ rfl
  obtain ⟨record, hrecord⟩ := compiles_codes
  obtain ⟨-, hrequired⟩ := (hfields codesDefinition "codes" record hrecord).2 _ rfl
  have hcontract : codeContract.requiresConfig = true := rfl
  exact ⟨_, _, record, _, _, _, rfl, rfl, hbounds rfl, hrecord, rfl, hrequired _ rfl rfl, rfl, rfl,
    (hpage codeContract.schema .standard).2 _ rfl .config .standard "config" _ rfl, hcontract,
    (hconfig codeContract .standard "config" _ rfl).mp hcontract⟩

/-- A check that stops early does not report all that is told to be required. -/
theorem not_all_required_reported :
    ∃ check fragment o,
      codesDefinition.compile "codes" = .ok check ∧ codesDefinition.describe = .ok fragment ∧
      check.run { Options.standard with abortEarly := true } [] (.record []) = .ok o ∧
      fragment.namesUnder "required" = ["x", "y"] ∧ unfilledPaths o.issues = [[.key "x"]] := by
  obtain ⟨check, hc⟩ := compiles_codes
  have htells := Definition.tellsRequired (d := codesDefinition) rfl rfl hc rfl
  obtain ⟨o, ho, hmissing⟩ := htells { Options.standard with abortEarly := true } []
  exact ⟨check, _, o, hc, rfl, ho, rfl, hmissing⟩

end Intake
