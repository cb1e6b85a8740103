import Intake.Engine.Cache
import Intake.Engine.Key
import Intake.Engine.Result
import Intake.Schema.Check
import Intake.Validation.Run

/-!
# The engine

An engine validates data against schemas. It keeps validators at hand in a cache, measures how long
validations take and counts them. A fault of a schema ends a validation without a result; any other
failure on the way is a result of its own. A tool is validated in phases: its input, its
configuration, the rules across both; a phase that refuses the data ends the validation. Main
statement: data of a tool that fails its input is answered by the input phase alone.
-/

namespace Intake

/-- The parts of an engine that stay. -/
structure EngineParts where
  /-- The policy of the cache. -/
  policy : CachePolicy Binary64
  /-- The text with which the cache fails whenever it is asked, if it does. -/
  cacheFailure : Option String
  /-- The function that decides custom rules. -/
  handler : Option RuleHandler
  /-- The text with which the checking of rules fails, if it does. -/
  rulesFailure : Option String

/-- The parts of an engine that change. -/
structure EngineState where
  /-- The validators at hand. -/
  cache : Cache ValidatorKey Validator Binary64
  /-- The time by which entries of the cache age, in seconds. -/
  clock : Binary64
  /-- The timer of durations. -/
  timer : Timer
  /-- What was counted. -/
  tally : Tally

/-- What a step of an engine leads to: the state afterwards, and a result or a fault of the
schema. -/
abbrev EngineStep := EngineState × Except SchemaFault Result

namespace EngineState

/-- The state to start with. -/
def initial (step : Binary64) : EngineState :=
  ⟨.empty, .zero false, ⟨.zero false, step⟩, .zero⟩

/-- The time read from the timer. -/
def startTimer (s : EngineState) : Binary64 × EngineState :=
  (s.timer.now, { s with timer := s.timer.read.2 })

/-- The timing of what was started at a time. -/
def stopTimer (s : EngineState) (start : Binary64) (fromCache : Bool) : Timing × EngineState :=
  (⟨(s.timer.now - start) * Binary64.ofInt 1000, fromCache⟩,
    { s with timer := s.timer.read.2 })

/-- Time passes for the cache. -/
def advance (s : EngineState) (seconds : Binary64) : EngineState :=
  { s with clock := s.clock + seconds }

/-- The cache emptied and the count set to zero. -/
def reset (s : EngineState) : EngineState := { s with cache := .empty, tally := .zero }

/-- What the engine tells of its work so far. -/
def metrics (s : EngineState) : Metrics :=
  ⟨s.tally.validations, s.tally.hits, s.tally.duration, s.tally.meanDuration, s.tally.hitRate,
    s.cache.size⟩

end EngineState

namespace EngineParts

/-- The validator for fields, from the cache or made ready and put there; true if it was at
hand. -/
def validatorFor (p : EngineParts) (s : EngineState) (side : Side) (fields : FieldMap)
    (options : Options) : EngineState × Except CompileError (Validator × Bool) :=
  match p.cacheFailure with
  | some message => (s, .error (.failure (.outside message)))
  | none =>
    let key := ValidatorKey.of side.name fields options
    match s.cache.get p.policy s.clock key with
    | (cache, some validator) => ({ s with cache := cache }, .ok (validator, true))
    | (cache, none) =>
      match Validator.compile options side.name fields with
      | .error e => ({ s with cache := cache }, .error e)
      | .ok validator =>
        match cache.put p.policy s.clock key validator with
        | (cache, .ok ()) => ({ s with cache := cache }, .ok (validator, false))
        | (cache, .error failure) => ({ s with cache := cache }, .error (.failure failure))

/-- How a failure is told by the validation of a side. -/
def failureLabel : Side → String
  | .input => "Validation system error"
  | .config => "Configuration validation system error"

/-- The answer to a verdict. -/
def answerOf : Verdict → Answer
  | .accepted output => .accepted output
  | .rejected issues => .rejected (issues.map (·.detail))

/-- A result that tells of a failure. -/
def failed (s : EngineState) (start : Binary64) (what : String) (failure : Failure) : EngineStep :=
  let (timing, s) := s.stopTimer start false
  (s, .ok ⟨.rejected [failureDetail what failure], some timing⟩)

/-- The validation of data against the fields of a side. -/
def validate (p : EngineParts) (s : EngineState) (side : Side) (data : Value) (fields : FieldMap)
    (options : Options) : EngineStep :=
  let (start, s) := s.startTimer
  match p.validatorFor s side fields options with
  | (s, .error (.schema fault)) => (s, .error fault)
  | (s, .error (.failure failure)) => failed s start (failureLabel side) failure
  | (s, .ok (validator, atHand)) =>
    match validator.validate data with
    | .error failure => failed s start (failureLabel side) failure
    | .ok verdict =>
      let (timing, s) := s.stopTimer start atHand
      ({ s with tally := s.tally.add timing }, .ok ⟨answerOf verdict, some timing⟩)

/-- The parts of the data of a tool; what is no record is taken for the input. -/
def toolData : Value → Value × Value
  | .record entries => ((Value.record entries).get "input", (Value.record entries).get "config")
  | data => (data, .null)

/-- The last phase of the validation of a tool: its rules, on the outputs of the phases before. -/
def checkTool (p : EngineParts) (s : EngineState) (start : Binary64) (fromCache : Bool)
    (rules : List Rule) (input config : List (String × Value)) : EngineStep :=
  let output := [("input", Value.record input), ("config", Value.record config)]
  match rules, p.rulesFailure with
  | _ :: _, some message =>
    failed s start "Tool schema validation error" (.outside message)
  | rules, _ =>
    let (timing, s) := s.stopTimer start fromCache
    match checkRules p.handler (.record output) rules with
    | [] => (s, .ok ⟨.accepted output, some timing⟩)
    | details => (s, .ok ⟨.rejected details, some timing⟩)

/-- The validation of data against the schema of a tool. -/
def validateTool (p : EngineParts) (s : EngineState) (data : Value) (schema : Schema)
    (options : Options) : EngineStep :=
  let (start, s) := s.startTimer
  let (input, config) := toolData data
  match p.validate s .input input schema.input options with
  | (s, .error fault) => (s, .error fault)
  | (s, .ok first) =>
    match first.answer with
    | .rejected _ => (s, .ok first)
    | .accepted inputOutput =>
      match p.validate s .config config schema.config options with
      | (s, .error fault) => (s, .error fault)
      | (s, .ok second) =>
        match second.answer with
        | .rejected _ => (s, .ok second)
        | .accepted configOutput =>
          p.checkTool s start (first.fromCache && second.fromCache) schema.rules inputOutput
            configOutput

/-- What is told of a field that is not declared. -/
def unknownFieldDetail (side : Side) (name : String) : Detail where
  path := [.key name]
  code := .fieldNotFound
  message := "Field '" ++ name ++ "' not found in " ++ side.name ++ " schema"
  value := .null
  expected := none
  context := none

/-- The validation of one value against one declared field. -/
def testField (p : EngineParts) (s : EngineState) (schema : Schema) (side : Side) (name : String)
    (value : Value) : EngineStep :=
  match (schema.fields side).lookup name with
  | none => (s, .ok ⟨.rejected [unknownFieldDetail side name], none⟩)
  | some d => p.validate s side (.record [(name, value)]) [(name, d)] .standard

/-- Data that fails its input is answered by the validation of the input. -/
theorem validateTool_of_input_rejected {p : EngineParts} {s t : EngineState} {data : Value}
    {schema : Schema} {options : Options} {r : Result} {details : List Detail}
    (input : p.validate s.startTimer.2 .input (toolData data).1 schema.input options = (t, .ok r))
    (rejected : r.answer = .rejected details) :
    p.validateTool s data schema options = (t, .ok r) := by
  simp only [validateTool, input, rejected]

end EngineParts

end Intake
