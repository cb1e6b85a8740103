import Intake.Proofs.Engine.Verdict
import Intake.Proofs.Validation.Independence

/-!
# Testing one field

An engine can test the value of one field without the others. Main statement: fields are independent
of one another, and in every run the test of a field tells what the validation of all fields tells
at the name of the field and below. That is so if the validation of all fields comes to a verdict:
where the check of some field fails, the validation as a whole is answered by this failure, and the
other fields can still be tested.
-/

namespace Intake

/-- The details at a path or below it, in order. -/
def detailsUnder (base : DataPath) (details : List Detail) : List Detail :=
  details.filter fun detail => base.isPrefixOf detail.path

theorem map_detail_issuesUnder (base : DataPath) (issues : List Issue) :
    (issuesUnder base issues).map (·.detail) = detailsUnder base (issues.map (·.detail)) := by
  rw [issuesUnder, detailsUnder, List.filter_map]
  rfl

theorem Verdict.details_answerOf (verdict : Verdict) :
    (EngineParts.answerOf verdict).details = verdict.issues.map (·.detail) := by
  cases verdict <;> rfl

namespace ValidatorSource

variable {side : Side} {fields : FieldMap} {options : Options} {entries : List (String × Value)}

/-- A verdict on a record is the answer of a fresh validation. -/
theorem answer_of_judge {verdict : Verdict}
    (h : fields.judge options side.name entries = .ok (.ok verdict)) :
    (ValidatorSource.mk side fields options).answer (.record entries) =
      .ok (EngineParts.answerOf verdict) := by
  obtain ⟨validator, hvalidator, hverdict⟩ := exists_of_map_eq_ok h
  have hcompile : (ValidatorSource.mk side fields options).compile = .ok validator := hvalidator
  exact answer_of_verdict hcompile hverdict

/-- An answer that tells of no failure is that of a verdict. -/
theorem exists_judge_of_answer {answer : Answer}
    (h : (ValidatorSource.mk side fields options).answer (.record entries) = .ok answer)
    (hverdict : ¬ answer.TellsFailure) :
    ∃ verdict, fields.judge options side.name entries = .ok (.ok verdict) ∧
      answer = EngineParts.answerOf verdict := by
  have hfailure (failure : Failure)
      (heq : answer = .rejected [failureDetail (EngineParts.failureLabel side) failure]) : False := by
    subst heq
    exact hverdict ⟨_, List.mem_cons_self, rfl⟩
  unfold ValidatorSource.answer at h
  dsimp only at h
  split at h
  · cases h
  · exact (hfailure _ (Except.ok.inj h).symm).elim
  · next validator hcompile =>
    split at h
    · exact (hfailure _ (Except.ok.inj h).symm).elim
    · next verdict hv =>
      refine ⟨verdict, ?_, (Except.ok.inj h).symm⟩
      have hcompile' : Validator.compile options side.name fields = .ok validator := hcompile
      rw [FieldMap.judge, hcompile', Except.map, hv]

end ValidatorSource

namespace EngineParts

variable {p : EngineParts} {calls before : List EngineCall} {call : EngineCall}

/-- The validation of all fields of a side against a record. -/
def wholeCall (schema : Schema) (side : Side) (entries : List (String × Value)) : EngineCall :=
  .ofSide side (.record entries) (schema.fields side) .standard

/-- The test of one field with the value that it has in a record. -/
def testCall (schema : Schema) (side : Side) (entries : List (String × Value)) (name : String) :
    EngineCall :=
  .ofField schema side name ((Value.record entries).get name)

/-- In a run, whatever the validation of all fields tells at the name of a field and below, the test
of the field tells, and nothing else, if the validation comes to a verdict. -/
def TestsFields (p : EngineParts) (step : Binary64) (calls : List EngineCall) (schema : Schema)
    (side : Side) (entries : List (String × Value)) : Prop :=
  ∀ name ∈ (schema.fields side).map (·.1), ∀ before before',
    before ++ [wholeCall schema side entries] <+: calls →
    before' ++ [testCall schema side entries name] <+: calls →
    ∀ whole, p.outcomeAfter step before (wholeCall schema side entries) = some (.ok whole) →
      ¬ whole.answer.TellsFailure →
      ∃ tested, p.outcomeAfter step before' (testCall schema side entries name) =
          some (.ok tested) ∧
        tested.answer.details = detailsUnder [.key name] whole.answer.details

/-- Where keys of validators differ, fields are tested as they are validated among others. -/
theorem testsFields_of_keysDiffer (hp : p.IsCached)
    (hk : KeysDiffer (· ∈ calls.flatMap EngineCall.sources)) (step : Binary64) {schema : Schema}
    {side : Side} (hnames : ((schema.fields side).map (·.1)).Nodup)
    (entries : List (String × Value)) : p.TestsFields step calls schema side entries := by
  intro name hname before before' hwhole htest whole hresult hverdict
  -- The whole is answered by a verdict of a fresh validator.
  have hfresh := answer_outcomeAfter hp step hk hwhole
  rw [hresult] at hfresh
  obtain ⟨verdict, hjudge, hanswer⟩ := ValidatorSource.exists_judge_of_answer
    (Option.some.inj hfresh).symm hverdict
  have hdetails : whole.answer = answerOf verdict := hanswer
  -- The field alone is judged as it is judged in the whole.
  obtain ⟨⟨name, d⟩, hm, rfl⟩ := List.mem_map.mp hname
  obtain ⟨alone, halone, hissues⟩ := FieldMap.exists_judgeAlone rfl hnames hjudge hm
  have hrequest : p.freshAnswer (testCall schema side entries name) =
      some (.ok (answerOf alone)) := by
    simp only [testCall, freshAnswer, lookup_of_mem hnames hm]
    exact congrArg some (ValidatorSource.answer_of_judge halone)
  obtain ⟨tested, houtcome, htested⟩ :=
    exists_result ((answer_outcomeAfter hp step hk htest).trans hrequest)
  refine ⟨tested, houtcome, ?_⟩
  rw [htested, hdetails, Verdict.details_answerOf, Verdict.details_answerOf, hissues,
    map_detail_issuesUnder]

/-- Fields are validated independently. Without an early stop the verdict on a record joins the
verdicts on its fields, each alone in a record of its own, and ends with the issue of undeclared
keys; both sides judge in the same way; and a field is tested as it is validated among the others,
where these come to a verdict. -/
theorem fields_independent :
    (∀ (fields : FieldMap) (options : Options) (side : Side) (entries : List (String × Value)),
      options.abortEarly = false →
      fields.judge options side.name entries =
        (fields.mapM (FieldMap.judgeAlone options side.name entries)).map fun results =>
          (results.mapM id).map
            (Verdict.joined (options.strayIssues (fields.map (·.1)) entries))) ∧
    (∀ (fields : FieldMap) (options : Options) (entries : List (String × Value)),
      fields.judge options Side.input.name entries =
        fields.judge options Side.config.name entries) ∧
    ∀ (p : EngineParts) (step : Binary64) (calls : List EngineCall), p.IsCached →
      KeysDiffer (· ∈ calls.flatMap EngineCall.sources) →
      ∀ (schema : Schema) (side : Side) (entries : List (String × Value)),
        ((schema.fields side).map (·.1)).Nodup → p.TestsFields step calls schema side entries :=
  ⟨fun fields _ side entries hstop => FieldMap.judge_eq_joined hstop side.name entries fields,
    fun fields options entries => fields.judge_name options _ _ entries,
    fun _ step _ hp hk _ _ entries hnames => testsFields_of_keysDiffer hp hk step hnames entries⟩

/-- A schema with a single number. -/
def portSchema : Schema := ⟨some [("port", .ofKind .number)], none, none⟩

/-- A text where the number should be, beside a key that is not declared. -/
def portEntries : List (String × Value) := [("port", .text "http"), ("path", .text "/")]

/-- A run in which the number is validated and then tested. -/
def portCalls : List EngineCall :=
  [wholeCall portSchema .input portEntries, testCall portSchema .input portEntries "port"]

/-- Both calls ask for the same validator. -/
theorem keysDiffer_portCalls : KeysDiffer (· ∈ portCalls.flatMap EngineCall.sources) := by
  have hsource : ∀ source ∈ portCalls.flatMap EngineCall.sources,
      source = ⟨.input, portSchema.input, .standard⟩ := by
    intro source hm
    have hsources : portCalls.flatMap EngineCall.sources =
        [⟨.input, portSchema.input, .standard⟩, ⟨.input, portSchema.input, .standard⟩] := rfl
    rw [hsources] at hm
    simpa using hm
  exact fun a b ha hb _ => (hsource a ha).trans (hsource b hb).symm

/-- The number is refused by the validation, and its test tells the same; where undeclared keys are
refused, these come last. -/
theorem fields_independent_port :
    (∃ whole tested,
      standard.outcomeAfter (.zero false) [] (wholeCall portSchema .input portEntries) =
          some (.ok whole) ∧
        whole.answer.details.map (·.code) = [.invalidType] ∧
        standard.outcomeAfter (.zero false) [wholeCall portSchema .input portEntries]
          (testCall portSchema .input portEntries "port") = some (.ok tested) ∧
        tested.answer.details = detailsUnder [.key "port"] whole.answer.details) ∧
      portSchema.input.judge ⟨false, true, false, []⟩ "input" portEntries =
        (portSchema.input.mapM
          (FieldMap.judgeAlone ⟨false, true, false, []⟩ "input" portEntries)).map fun results =>
            (results.mapM id).map
              (Verdict.joined [keysIssue ⟨false, true, false, []⟩ [] ["path"]]) := by
  have hfirst : [] ++ [wholeCall portSchema .input portEntries] <+: portCalls :=
    List.prefix_append [_] [_]
  have hanswer : standard.freshAnswer (wholeCall portSchema .input portEntries) =
      some (.ok (.rejected [⟨[.key "port"], .invalidType, "port must be of type number, got string",
        .text "http", some "number", none⟩])) := rfl
  obtain ⟨whole, hwhole, hdetails⟩ := exists_result
    ((answer_outcomeAfter standard_isCached (.zero false) keysDiffer_portCalls hfirst).trans hanswer)
  have hcodes : whole.answer.details.map (·.code) = [.invalidType] := by rw [hdetails]; rfl
  have hverdict : ¬ whole.answer.TellsFailure := by
    rw [hdetails]
    simp [Answer.TellsFailure, Answer.details]
  obtain ⟨tested, htested, hsame⟩ := fields_independent.2.2 standard (.zero false) _
    standard_isCached keysDiffer_portCalls portSchema .input portEntries (List.nodup_singleton _)
    "port" List.mem_cons_self [] [wholeCall portSchema .input portEntries] hfirst
    List.prefix_rfl whole hwhole hverdict
  exact ⟨⟨whole, tested, hwhole, hcodes, htested, hsame⟩,
    fields_independent.1 portSchema.input ⟨false, true, false, []⟩ .input portEntries rfl⟩

/-- A text, and a value whose JSON Schema refers to nothing. -/
def mixedSchema : Schema :=
  ⟨some [("a", .ofKind .string), ("b", danglingDefinition)], none, none⟩

/-- A number for both. -/
def mixedEntries : List (String × Value) := [("a", .int 1), ("b", .int 1)]

/-- A first call of an engine that asks for one validator tells at the paths at which a fresh one
does. -/
theorem exists_first_paths {source : ValidatorSource} (hsources : call.sources = [source])
    (paths : List DataPath)
    (h : (standard.freshAnswer call).map (·.toOption.map (·.details.map (·.path))) =
      some (some paths)) :
    ∃ r, standard.outcomeAfter (.zero false) [] call = some (.ok r) ∧
      r.answer.details.map (·.path) = paths := by
  have hk : KeysDiffer (· ∈ [call].flatMap EngineCall.sources) := by
    rw [List.flatMap_singleton, hsources]
    exact fun a b ha hb _ => (List.mem_singleton.mp ha).trans (List.mem_singleton.mp hb).symm
  have hfirst : [] ++ [call] <+: [call] := List.prefix_rfl
  rw [← answer_outcomeAfter standard_isCached (.zero false) hk hfirst] at h
  generalize standard.outcomeAfter (.zero false) [] call = outcome at h ⊢
  rcases outcome with - | fault | r
  · cases h
  · cases h
  · exact ⟨r, rfl, Option.some.inj (Option.some.inj h)⟩

/-- The test of a field may tell what the validation of all fields does not tell: if the check of
another field fails, the failure is all that this tells. -/
theorem not_testsFields_of_failure :
    ¬ ∀ (schema : Schema) (side : Side) (entries : List (String × Value)) (name : String),
      name ∈ (schema.fields side).map (·.1) → ∀ whole tested,
      standard.outcomeAfter (.zero false) [] (wholeCall schema side entries) = some (.ok whole) →
      standard.outcomeAfter (.zero false) [] (testCall schema side entries name) =
        some (.ok tested) →
      tested.answer.details = detailsUnder [.key name] whole.answer.details := by
  intro h
  obtain ⟨whole, hwhole, hroot⟩ : ∃ r, standard.outcomeAfter (.zero false) []
      (wholeCall mixedSchema .input mixedEntries) = some (.ok r) ∧
        r.answer.details.map (·.path) = [[]] := exists_first_paths rfl _ (by decide +kernel)
  obtain ⟨tested, htested, hplace⟩ : ∃ r, standard.outcomeAfter (.zero false) []
      (testCall mixedSchema .input mixedEntries "a") = some (.ok r) ∧
        r.answer.details.map (·.path) = [[.key "a"]] := exists_first_paths rfl _ (by decide +kernel)
  have hsame := h mixedSchema .input mixedEntries "a" List.mem_cons_self whole tested hwhole htested
  have hpaths := congrArg (List.map (·.path)) hsame
  have hunder : (detailsUnder [.key "a"] whole.answer.details).map (·.path) =
      (whole.answer.details.map (·.path)).filter fun path => [.key "a"].isPrefixOf path := by
    rw [detailsUnder, List.filter_map]
    rfl
  rw [hunder, hroot, hplace] at hpaths
  exact absurd hpaths (by decide)

end EngineParts

end Intake
