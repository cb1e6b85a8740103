import Intake.Proofs.Engine.Transparency

/-!
# The phases of a tool

The validation of a tool is that of its input, that of its configuration and the check of its rules,
one after the other. Main statement: a phase that ends with a fault of the schema or with a refusal
ends the whole validation, with its result and its state, whatever the later phases would do; if the
first two phases accept, the rules are checked on exactly their outputs and decide the rest, and only
the timer goes on. A phase starts after the timer was read once more than by itself, which changes
nothing but durations.
-/

namespace Intake

/-- Two states of an engine differ in the timer and in durations only. -/
structure EngineState.SameButTimes (s t : EngineState) : Prop where
  /-- The caches are the same. -/
  cache : s.cache = t.cache
  /-- The times by which the caches age are the same. -/
  clock : s.clock = t.clock
  /-- As many validations were counted. -/
  validations : s.tally.validations = t.tally.validations
  /-- As many of them had their validator at hand. -/
  hits : s.tally.hits = t.tally.hits

/-- What a result tells, its duration apart. -/
def Result.told (r : Result) : Answer × Bool := (r.answer, r.fromCache)

theorem Result.told_mk (answer : Answer) (timing : Timing) :
    (⟨answer, some timing⟩ : Result).told = (answer, timing.fromCache) := rfl

namespace EngineParts

/-- The validation of one side of a tool. -/
def phase (p : EngineParts) (s : EngineState) (data : Value) (schema : Schema) (options : Options)
    (side : Side) : EngineStep :=
  p.respond s (EngineCall.toolRequest data schema options side)

/-- A phase ends the validation of a tool: by a fault of the schema or by a refusal. -/
def EndsTool : Except SchemaFault Result → Prop
  | .error _ => True
  | .ok r => r.answer.isAccepted = false

/-- The outputs of the two sides as the data of a tool. -/
def toolOutput (input config : List (String × Value)) : List (String × Value) :=
  [("input", .record input), ("config", .record config)]

/-- How the rules of a tool decide on the outputs of its sides. -/
structure RulesDecide (p : EngineParts) (rules : List Rule) (input config : List (String × Value))
    (fromCache : Bool) (r : Result) : Prop where
  /-- If no rule tells of anything, the outputs are accepted as they are. -/
  accepted : (rules = [] ∨ p.rulesFailure = none) →
    checkRules p.handler (.record (toolOutput input config)) rules = [] →
      r.told = (.accepted (toolOutput input config), fromCache)
  /-- If some rule does, the outputs are refused with what the rules tell. -/
  rejected : (rules = [] ∨ p.rulesFailure = none) →
    checkRules p.handler (.record (toolOutput input config)) rules ≠ [] →
      r.told = (.rejected (checkRules p.handler (.record (toolOutput input config)) rules), fromCache)
  /-- If the check of the rules fails, this is told of as one failure of the engine. -/
  failed : ∀ message, p.rulesFailure = some message → rules ≠ [] →
    r.told = (.rejected [failureDetail "Tool schema validation error" (.outside message)], false)

/-- The validation of a tool goes through its phases, one after the other. -/
structure InSequence (p : EngineParts) (s : EngineState) (data : Value) (schema : Schema)
    (options : Options) : Prop where
  /-- What is no record is taken for the input. -/
  unrecorded : (∀ entries, data ≠ .record entries) →
    p.validateTool s data schema options =
      p.validateTool s (.record [("input", data)]) schema options
  /-- If the input ends the validation, this is all that happens, whatever the configuration and the
  rules are. -/
  input_ends : ∀ t outcome, p.phase s.startTimer.2 data schema options .input = (t, outcome) →
    EndsTool outcome → ∀ other : Schema, other.input = schema.input →
      p.validateTool s data other options = (t, outcome)
  /-- Otherwise, if the configuration ends the validation, this is all that happens after the input,
  whatever the rules are. -/
  config_ends : ∀ t first, p.phase s.startTimer.2 data schema options .input = (t, .ok first) →
    first.answer.isAccepted = true →
      ∀ u outcome, p.phase t data schema options .config = (u, outcome) → EndsTool outcome →
        ∀ other : Schema, other.input = schema.input → other.config = schema.config →
          p.validateTool s data other options = (u, outcome)
  /-- Otherwise the rules decide on the outputs, and only the timer goes on. -/
  rules_decide : ∀ t first input,
    p.phase s.startTimer.2 data schema options .input = (t, .ok first) →
      first.answer = .accepted input →
        ∀ u second config, p.phase t data schema options .config = (u, .ok second) →
          second.answer = .accepted config →
            ∃ r, p.validateTool s data schema options =
                ({ u with timer := u.timer.read.2 }, .ok r) ∧
              p.RulesDecide schema.rules input config (first.fromCache && second.fromCache) r
  /-- When a phase starts changes nothing but times. -/
  untimed : ∀ t u : EngineState, t.SameButTimes u → ∀ side,
    (p.phase t data schema options side).1.SameButTimes (p.phase u data schema options side).1 ∧
      (p.phase t data schema options side).2.map (·.told) =
        (p.phase u data schema options side).2.map (·.told)

variable {p : EngineParts} {s t u : EngineState} {data : Value} {schema : Schema}
  {options : Options}

/-- Data that is no record is the input of a tool without a configuration. -/
theorem toolData_of_ne_record (h : ∀ entries, data ≠ .record entries) :
    toolData data = toolData (.record [("input", data)]) := by
  cases data with
  | record entries => exact absurd rfl (h entries)
  | _ => rfl

/-- A tool that is ended by its input. -/
theorem validateTool_of_input_ends {outcome : Except SchemaFault Result}
    (hinput : p.phase s.startTimer.2 data schema options .input = (t, outcome))
    (hends : EndsTool outcome) : p.validateTool s data schema options = (t, outcome) := by
  change p.validate s.startTimer.2 .input (toolData data).1 schema.input options = _ at hinput
  rcases outcome with fault | ⟨output | details, timing⟩
  · simp only [validateTool, hinput]
  · cases hends
  · exact validateTool_of_input_rejected hinput rfl

/-- A tool that is ended by its configuration. -/
theorem validateTool_of_config_ends {first : Result} {outcome : Except SchemaFault Result}
    (hinput : p.phase s.startTimer.2 data schema options .input = (t, .ok first))
    (haccepted : first.answer.isAccepted = true)
    (hconfig : p.phase t data schema options .config = (u, outcome)) (hends : EndsTool outcome) :
    p.validateTool s data schema options = (u, outcome) := by
  change p.validate s.startTimer.2 .input (toolData data).1 schema.input options = _ at hinput
  change p.validate t .config (toolData data).2 schema.config options = _ at hconfig
  obtain ⟨output | details, timing⟩ := first
  · simp only [validateTool, hinput, hconfig]
    rcases outcome with fault | ⟨output | details, timing⟩
    · rfl
    · cases hends
    · rfl
  · cases haccepted

/-- A tool whose sides are accepted is left to its rules. -/
theorem validateTool_of_accepted {first second : Result} {input config : List (String × Value)}
    (hinput : p.phase s.startTimer.2 data schema options .input = (t, .ok first))
    (hfirst : first.answer = .accepted input)
    (hconfig : p.phase t data schema options .config = (u, .ok second))
    (hsecond : second.answer = .accepted config) :
    p.validateTool s data schema options =
      p.checkTool u s.startTimer.1 (first.fromCache && second.fromCache) schema.rules input
        config := by
  change p.validate s.startTimer.2 .input (toolData data).1 schema.input options = _ at hinput
  change p.validate t .config (toolData data).2 schema.config options = _ at hconfig
  simp only [validateTool, hinput, hfirst, hconfig, hsecond]

/-- What is told of a tool once its rules were checked. -/
theorem exists_checkTool_of_checked (s : EngineState) (start : Binary64) (fromCache : Bool)
    {rules : List Rule} (input config : List (String × Value))
    (hchecked : rules = [] ∨ p.rulesFailure = none) :
    ∃ r, p.checkTool s start fromCache rules input config =
        ({ s with timer := s.timer.read.2 }, .ok r) ∧
      r.told = (match checkRules p.handler (.record (toolOutput input config)) rules with
        | [] => .accepted (toolOutput input config)
        | details => .rejected details, fromCache) := by
  unfold checkTool toolOutput
  cases rules with
  | nil => exact ⟨_, rfl, rfl⟩
  | cons rule others =>
    have hfailure : p.rulesFailure = none := hchecked.resolve_left (by simp)
    simp only [hfailure]
    cases checkRules p.handler (.record [("input", .record input), ("config", .record config)])
      (rule :: others) with
    | nil => exact ⟨_, rfl, rfl⟩
    | cons detail details => exact ⟨_, rfl, rfl⟩

/-- The rules of a tool decide on its outputs, and only the timer goes on. -/
theorem exists_checkTool_eq (p : EngineParts) (s : EngineState) (start : Binary64)
    (fromCache : Bool) (rules : List Rule) (input config : List (String × Value)) :
    ∃ r, p.checkTool s start fromCache rules input config =
        ({ s with timer := s.timer.read.2 }, .ok r) ∧
      p.RulesDecide rules input config fromCache r := by
  by_cases hchecked : rules = [] ∨ p.rulesFailure = none
  · obtain ⟨r, hr, htold⟩ := exists_checkTool_of_checked s start fromCache input config hchecked
    refine ⟨r, hr, fun _ hnone => ?_, fun _ hsome => ?_, fun message hmessage hrules => ?_⟩
    · rw [htold, hnone]
    · rw [htold]
      cases hdetails : checkRules p.handler (.record (toolOutput input config)) rules with
      | nil => exact absurd hdetails hsome
      | cons detail details => rfl
    · rcases hchecked with hnil | hnone
      · exact absurd hnil hrules
      · rw [hnone] at hmessage
        cases hmessage
  · obtain ⟨hrules, hfails⟩ := not_or.mp hchecked
    cases rules with
    | nil => exact absurd rfl hrules
    | cons rule others =>
      cases hfailure : p.rulesFailure with
      | none => exact absurd hfailure hfails
      | some message =>
        refine ⟨⟨.rejected [failureDetail "Tool schema validation error" (.outside message)],
          some (s.stopTimer start false).1⟩, ?_, fun h => absurd h hchecked,
          fun h => absurd h hchecked, ?_⟩
        · simp only [checkTool, hfailure]
          rfl
        · intro other hother _
          obtain rfl : message = other := Option.some.inj (hfailure.symm.trans hother)
          rfl

/-- A validator is asked for whatever the timer says. -/
theorem validatorFor_untimed (p : EngineParts) (h : t.SameButTimes u) (side : Side)
    (fields : FieldMap) (options : Options) :
    (p.validatorFor t side fields options).1.SameButTimes
        (p.validatorFor u side fields options).1 ∧
      (p.validatorFor t side fields options).2 = (p.validatorFor u side fields options).2 := by
  unfold validatorFor
  rw [h.cache, h.clock]
  cases p.cacheFailure with
  | some message => exact ⟨⟨h.cache, h.clock, h.validations, h.hits⟩, rfl⟩
  | none =>
    dsimp only
    generalize u.cache.get p.policy u.clock (.of side.name fields options) = found
    obtain ⟨cache, _ | validator⟩ := found
    · cases Validator.compile options side.name fields with
      | error e => exact ⟨⟨rfl, rfl, h.validations, h.hits⟩, rfl⟩
      | ok validator =>
        dsimp only
        generalize cache.put p.policy u.clock (.of side.name fields options) validator = written
        obtain ⟨cache, failure | ⟨⟩⟩ := written
        · exact ⟨⟨rfl, rfl, h.validations, h.hits⟩, rfl⟩
        · exact ⟨⟨rfl, rfl, h.validations, h.hits⟩, rfl⟩
    · exact ⟨⟨rfl, rfl, h.validations, h.hits⟩, rfl⟩

/-- A request leads to the same whatever the timer says. -/
theorem respond_untimed (p : EngineParts) (h : t.SameButTimes u) (request : SideRequest) :
    (p.respond t request).1.SameButTimes (p.respond u request).1 ∧
      (p.respond t request).2.map (·.told) = (p.respond u request).2.map (·.told) := by
  have hstart : t.startTimer.2.SameButTimes u.startTimer.2 :=
    ⟨h.cache, h.clock, h.validations, h.hits⟩
  obtain ⟨hstate, houtcome⟩ := validatorFor_untimed p hstart request.source.side
    request.source.fields request.source.options
  unfold respond validate
  dsimp only
  generalize p.validatorFor t.startTimer.2 request.source.side request.source.fields
    request.source.options = first at hstate houtcome ⊢
  generalize p.validatorFor u.startTimer.2 request.source.side request.source.fields
    request.source.options = second at hstate houtcome ⊢
  obtain ⟨t', outcome⟩ := first
  obtain ⟨u', other⟩ := second
  obtain rfl : outcome = other := houtcome
  have h' : t'.SameButTimes u' := hstate
  rcases outcome with (fault | failure) | ⟨validator, atHand⟩
  · exact ⟨h', rfl⟩
  · refine ⟨⟨h'.cache, h'.clock, h'.validations, h'.hits⟩, ?_⟩
    simp only [failed, EngineState.stopTimer, Except.map, Result.told_mk]
  · dsimp only
    cases validator.validate request.data with
    | error failure =>
      refine ⟨⟨h'.cache, h'.clock, h'.validations, h'.hits⟩, ?_⟩
      simp only [failed, EngineState.stopTimer, Except.map, Result.told_mk]
    | ok verdict =>
      refine ⟨⟨h'.cache, h'.clock, ?_, ?_⟩, ?_⟩
      · exact congrArg (· + 1) h'.validations
      · exact congrArg (· + if atHand then 1 else 0) h'.hits
      · simp only [EngineState.stopTimer, Except.map, Result.told_mk]

/-- The validation of a tool goes through its phases. -/
theorem validateTool_inSequence (p : EngineParts) (s : EngineState) (data : Value)
    (schema : Schema) (options : Options) : p.InSequence s data schema options where
  unrecorded h := by
    unfold validateTool
    rw [toolData_of_ne_record h]
  input_ends t outcome hinput hends other hother := by
    have hsame : EngineCall.toolRequest data other options .input =
        EngineCall.toolRequest data schema options .input := by
      simp only [EngineCall.toolRequest, hother]
    exact validateTool_of_input_ends ((congrArg _ hsame).trans hinput) hends
  config_ends t first hinput haccepted u outcome hconfig hends other hother hother' := by
    have hsame : EngineCall.toolRequest data other options .input =
        EngineCall.toolRequest data schema options .input := by
      simp only [EngineCall.toolRequest, hother]
    have hsame' : EngineCall.toolRequest data other options .config =
        EngineCall.toolRequest data schema options .config := by
      simp only [EngineCall.toolRequest, hother']
    exact validateTool_of_config_ends ((congrArg _ hsame).trans hinput) haccepted
      ((congrArg _ hsame').trans hconfig) hends
  rules_decide t first input hinput hfirst u second config hconfig hsecond := by
    rw [validateTool_of_accepted hinput hfirst hconfig hsecond]
    exact exists_checkTool_eq ..
  untimed t u h side := respond_untimed p h _

end EngineParts

end Intake
