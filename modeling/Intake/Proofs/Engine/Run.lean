import Intake.Proofs.Engine.Faithful

/-!
# Runs of an engine

A run is a list of calls of one engine. Beside the calls as the engine makes them stand fresh ones,
which make their validators anew, and the requests of a call: the validations of a side that it asks
for, each with the moment at which it starts.
-/

namespace Intake

/-!
## Validations compared with fresh ones

A fresh validation makes its validator anew and uses no cache. Main statement: an engine with a
faithful cache answers a validation as a fresh one does, and says that its validator was at hand
exactly if the validation comes to a verdict and the entry was held. Durations are not covered.
-/

namespace ValidatorSource

/-- The answer of a fresh validation. -/
def answer (source : ValidatorSource) (data : Value) : Except SchemaFault Answer :=
  match source.compile with
  | .error (.schema fault) => .error fault
  | .error (.failure failure) =>
    .ok (.rejected [failureDetail (EngineParts.failureLabel source.side) failure])
  | .ok validator =>
    match validator.validate data with
    | .error failure =>
      .ok (.rejected [failureDetail (EngineParts.failureLabel source.side) failure])
    | .ok verdict => .ok (EngineParts.answerOf verdict)

/-- A validation comes to a verdict: nothing fails on the way. -/
def Decides (source : ValidatorSource) (data : Value) : Prop :=
  ∃ validator verdict, source.compile = .ok validator ∧ validator.validate data = .ok verdict

theorem not_decides_of_compile {source : ValidatorSource} {e : CompileError}
    (h : source.compile = .error e) (data : Value) : ¬ source.Decides data := by
  rintro ⟨validator, verdict, hv, -⟩
  rw [h] at hv
  cases hv

theorem decides_iff {source : ValidatorSource} {validator : Validator}
    (h : source.compile = .ok validator) (data : Value) :
    source.Decides data ↔ ∃ verdict, validator.validate data = .ok verdict := by
  constructor
  · rintro ⟨other, verdict, hv, hverdict⟩
    rw [h] at hv
    cases hv
    exact ⟨verdict, hverdict⟩
  · rintro ⟨verdict, hverdict⟩
    exact ⟨validator, verdict, h, hverdict⟩

end ValidatorSource

namespace EngineParts

variable {known : ValidatorSource → Prop} {p : EngineParts} {s : EngineState}
  {history : List (CacheEvent ValidatorKey)}

/-- A validation tells where its validator came from as it should: it was at hand exactly if the
validation comes to a verdict and the entry was held when it was asked for. -/
def TellsOrigin (source : ValidatorSource) (data : Value)
    (history : List (CacheEvent ValidatorKey)) (r : Result) : Prop :=
  ∃ timing, r.timing = some timing ∧
    (timing.fromCache = true ↔ source.Decides data ∧ CacheEvent.Held source.key history)

/-- With a faithful cache a validation is answered as a fresh one is, tells where its validator came
from and leaves the cache faithful. -/
theorem validate_spec (hp : p.IsCached) (hk : KeysDiffer known)
    (h : s.cache.Faithful known history) {source : ValidatorSource} (hs : known source)
    (data : Value) {t : EngineState} {outcome : Except SchemaFault Result}
    (hv : p.validate s source.side data source.fields source.options = (t, outcome)) :
    outcome.map (·.answer) = source.answer data ∧
      t.cache.Faithful known (history ++ p.askEvents s source ++ p.makeEvents s source) ∧
      ∀ r, outcome = .ok r → TellsOrigin source data (history ++ p.askEvents s source) r := by
  obtain ⟨cache, atHand, hvalidator, hfaithful, hheld⟩ :=
    exists_validatorFor_eq (s := s.startTimer.2) hp hk h hs
  simp only [validate, hvalidator] at hv
  unfold ValidatorSource.answer
  cases hcompile : source.compile with
  | error e =>
    rw [hcompile] at hv
    have hd := ValidatorSource.not_decides_of_compile hcompile data
    cases e with
    | schema fault =>
      cases hv
      exact ⟨rfl, hfaithful, by simp⟩
    | failure failure =>
      cases hv
      refine ⟨rfl, hfaithful, ?_⟩
      rintro _ ⟨⟩
      exact ⟨_, rfl, by simp [hd]⟩
  | ok validator =>
    rw [hcompile] at hv
    have hd := ValidatorSource.decides_iff hcompile data
    simp only [Except.map] at hv
    dsimp only
    cases hverdict : validator.validate data with
    | error failure =>
      rw [hverdict] at hv hd
      cases hv
      refine ⟨rfl, hfaithful, ?_⟩
      rintro _ ⟨⟩
      exact ⟨_, rfl, by simp [hd]⟩
    | ok verdict =>
      rw [hverdict] at hv hd
      cases hv
      refine ⟨rfl, hfaithful, ?_⟩
      rintro _ ⟨⟩
      refine ⟨_, rfl, ?_⟩
      rw [hd]
      exact hheld.trans ⟨fun held => ⟨⟨verdict, rfl⟩, held⟩, And.right⟩

end EngineParts

/-! ## Runs of an engine -/

/-- A call of an engine. -/
inductive EngineCall where
  /-- Data is validated against the fields of a side. -/
  | ofSide (side : Side) (data : Value) (fields : FieldMap) (options : Options)
  /-- Data is validated against the schema of a tool. -/
  | ofTool (data : Value) (schema : Schema) (options : Options)
  /-- A value is validated against a field of a schema. -/
  | ofField (schema : Schema) (side : Side) (name : String) (value : Value)
  /-- A value is validated against a definition. -/
  | ofValue (d : Definition) (name : String) (value : Value) (options : Options)
  /-- The cache is emptied and the count set to zero. -/
  | reset
  /-- Time passes. -/
  | advance (seconds : Binary64)

/-- A validation of data by the validator made of a source. -/
structure SideRequest where
  /-- What the validator is made of. -/
  source : ValidatorSource
  /-- The data. -/
  data : Value

/-- A moment of a run. -/
structure Moment where
  /-- The state of the engine. -/
  state : EngineState
  /-- What has happened to the entries of its cache. -/
  history : List (CacheEvent ValidatorKey)

/-- The start of a run, with a timer that goes on by a step. -/
def Moment.initial (step : Binary64) : Moment := ⟨.initial step, []⟩

/-- The cache of a moment is faithful to its history and to what is known. -/
def Moment.Faithful (known : ValidatorSource → Prop) (m : Moment) : Prop :=
  m.state.cache.Faithful known m.history

theorem Moment.faithful_initial (known : ValidatorSource → Prop) (step : Binary64) :
    (initial step).Faithful known := Cache.faithful_empty

namespace EngineCall

/-- The request of a side of the schema of a tool. -/
def toolRequest (data : Value) (schema : Schema) (options : Options) : Side → SideRequest
  | .input => ⟨⟨.input, schema.input, options⟩, (EngineParts.toolData data).1⟩
  | .config => ⟨⟨.config, schema.config, options⟩, (EngineParts.toolData data).2⟩

/-- The request of a value as a field of a name. -/
def valueRequest (d : Definition) (name : String) (value : Value) (options : Options) :
    SideRequest :=
  ⟨⟨if d.attributes.isConfigField then .config else .input, [(name, d)], options⟩,
    .record [(name, value)]⟩

/-- The request of a value as a declared field of a side. -/
def fieldRequest (d : Definition) (side : Side) (name : String) (value : Value) : SideRequest :=
  ⟨⟨side, [(name, d)], .standard⟩, .record [(name, value)]⟩

/-- What the validators of a call are made of. -/
def sources : EngineCall → List ValidatorSource
  | .ofSide side _ fields options => [⟨side, fields, options⟩]
  | .ofTool data schema options =>
    [(toolRequest data schema options .input).source,
      (toolRequest data schema options .config).source]
  | .ofField schema side name value =>
    match (schema.fields side).lookup name with
    | none => []
    | some d => [(fieldRequest d side name value).source]
  | .ofValue d name value options => [(valueRequest d name value options).source]
  | .reset => []
  | .advance _ => []

/-- What a call does to the entries of the cache by itself. -/
def ownEvents : EngineCall → List (CacheEvent ValidatorKey)
  | .reset => [.cleared]
  | _ => []

end EngineCall

namespace EngineParts

/-- What a call leads to: the state afterwards, and a result or a fault of the schema if the call
asks for a validation. -/
def run (p : EngineParts) (s : EngineState) :
    EngineCall → EngineState × Option (Except SchemaFault Result)
  | .ofSide side data fields options =>
    (p.validate s side data fields options).map id some
  | .ofTool data schema options => (p.validateTool s data schema options).map id some
  | .ofField schema side name value => (p.testField s schema side name value).map id some
  | .ofValue d name value options => (p.validateValue s d name value options).map id some
  | .reset => (s.reset, none)
  | .advance seconds => (s.advance seconds, none)

/-- What a request leads to. -/
def respond (p : EngineParts) (s : EngineState) (request : SideRequest) : EngineStep :=
  p.validate s request.source.side request.data request.source.fields request.source.options

/-- The moment after a request. -/
def afterRequest (p : EngineParts) (m : Moment) (request : SideRequest) : Moment :=
  ⟨(p.respond m.state request).1,
    m.history ++ p.askEvents m.state request.source ++ p.makeEvents m.state request.source⟩

/-- The requests of a call, each with the moment at which it is made. -/
def requests (p : EngineParts) (m : Moment) : EngineCall → List (Moment × SideRequest)
  | .ofSide side data fields options => [(m, ⟨⟨side, fields, options⟩, data⟩)]
  | .ofTool data schema options =>
    let start : Moment := ⟨m.state.startTimer.2, m.history⟩
    let input := EngineCall.toolRequest data schema options .input
    let config := EngineCall.toolRequest data schema options .config
    match (p.respond start.state input).2 with
    | .ok ⟨.accepted _, _⟩ => [(start, input), (p.afterRequest start input, config)]
    | _ => [(start, input)]
  | .ofField schema side name value =>
    match (schema.fields side).lookup name with
    | none => []
    | some d => [(m, EngineCall.fieldRequest d side name value)]
  | .ofValue d name value options => [(m, EngineCall.valueRequest d name value options)]
  | .reset => []
  | .advance _ => []

/-- The moment after a call. -/
def after (p : EngineParts) (m : Moment) (call : EngineCall) : Moment :=
  ⟨(p.run m.state call).1,
    ((p.requests m call).getLast?.map fun (start, request) =>
      (p.afterRequest start request).history).getD m.history ++ call.ownEvents⟩

/-- The answer of the rules of a tool on the outputs of its sides. -/
def rulesAnswer (p : EngineParts) (rules : List Rule) (input config : List (String × Value)) :
    Answer :=
  let output := [("input", Value.record input), ("config", Value.record config)]
  match rules, p.rulesFailure with
  | _ :: _, some message =>
    .rejected [failureDetail "Tool schema validation error" (.outside message)]
  | rules, _ =>
    match checkRules p.handler (.record output) rules with
    | [] => .accepted output
    | details => .rejected details

/-- The answer of phases: a fault or a refusal ends them, and the last one works on outputs. -/
def inPhases (input config : Except SchemaFault Answer)
    (last : List (String × Value) → List (String × Value) → Answer) : Except SchemaFault Answer :=
  match input, config with
  | .error fault, _ => .error fault
  | .ok (.rejected details), _ => .ok (.rejected details)
  | .ok (.accepted _), .error fault => .error fault
  | .ok (.accepted _), .ok (.rejected details) => .ok (.rejected details)
  | .ok (.accepted inputOutput), .ok (.accepted configOutput) =>
    .ok (last inputOutput configOutput)

/-- The answer of a fresh validation of a tool. -/
def toolAnswer (p : EngineParts) (data : Value) (schema : Schema) (options : Options) :
    Except SchemaFault Answer :=
  let input := EngineCall.toolRequest data schema options .input
  let config := EngineCall.toolRequest data schema options .config
  inPhases (input.source.answer input.data) (config.source.answer config.data)
    (p.rulesAnswer schema.rules)

/-- The answer of a fresh call. -/
def freshAnswer (p : EngineParts) : EngineCall → Option (Except SchemaFault Answer)
  | .ofSide side data fields options =>
    some ((ValidatorSource.mk side fields options).answer data)
  | .ofTool data schema options => some (p.toolAnswer data schema options)
  | .ofField schema side name value =>
    match (schema.fields side).lookup name with
    | none => some (.ok (.rejected [unknownFieldDetail side name]))
    | some d =>
      let request := EngineCall.fieldRequest d side name value
      some (request.source.answer request.data)
  | .ofValue d name value options =>
    let request := EngineCall.valueRequest d name value options
    some (request.source.answer request.data)
  | .reset => none
  | .advance _ => none

/-- The cache cannot be told from the outside at a call, the origin of validators apart, which is
told as it should be. -/
structure CallsFresh (p : EngineParts) (m : Moment) (call : EngineCall) : Prop where
  /-- The call is answered as a fresh one is. -/
  answer : (p.run m.state call).2.map (·.map (·.answer)) = p.freshAnswer call
  /-- Each validation tells where its validator came from. -/
  origin : ∀ start request, (start, request) ∈ p.requests m call →
    ∀ r, (p.respond start.state request).2 = .ok r →
      TellsOrigin request.source request.data
        (start.history ++ p.askEvents start.state request.source) r

end EngineParts

end Intake
