import Intake.Engine.Basic

/-!
# Validation that must succeed

Callers that cannot go on with bad data ask for the output itself. Where there is none they get a
refusal, which tells of the first detail or, for a configuration, of all keys that are missing. Main
statement: an output is handed out exactly if the data is accepted.
-/

namespace Intake

/-- Why there is no output. -/
inductive Refusal where
  /-- Keys of the configuration are missing. -/
  | missingKeys (keys : List String)
  /-- The data is refused. -/
  | invalid (summary : String) (details : List Detail)

namespace Refusal

/-- The code of the first detail. -/
def code : Refusal → ErrorCode
  | .invalid _ (first :: _) => first.code
  | _ => .system

/-- The path of the first detail. -/
def path : Refusal → String
  | .invalid _ (first :: _) => first.path.dotted
  | _ => ""

/-- A refusal in words. -/
def message : Refusal → String
  | .missingKeys keys => "Missing required configuration: " ++ ", ".intercalate keys
  | .invalid summary (first :: _) => summary ++ ": " ++ first.message
  | .invalid summary [] => summary

end Refusal

/-- The dotted paths of what is missing. -/
def missingPaths (details : List Detail) : List String :=
  (details.filter (·.code = .required)).map (·.path.dotted)

namespace Answer

/-- The output of an answer. -/
def demand (summary : String) : Answer → Except Refusal (List (String × Value))
  | .accepted output => .ok output
  | .rejected details => .error (.invalid summary details)

/-- The output of an answer on a configuration. -/
def demandConfig (summary : String) : Answer → Except Refusal (List (String × Value))
  | .accepted output => .ok output
  | .rejected details =>
    match missingPaths details with
    | [] => .error (.invalid summary details)
    | keys => .error (.missingKeys keys)

/-- An output is handed out exactly if the data is accepted. -/
theorem demand_eq_ok {summary : String} {a : Answer} {output : List (String × Value)} :
    a.demand summary = .ok output ↔ a = .accepted output := by
  cases a <;> simp [demand]

end Answer

/-- What a step of an engine leads to where an output is asked for. -/
abbrev DemandStep := EngineState × Except SchemaFault (Except Refusal (List (String × Value)))

namespace EngineParts

/-- The output of the input of a tool. -/
def demandInput (p : EngineParts) (s : EngineState) (data : Value) (fields : FieldMap)
    (options : Options) : DemandStep :=
  let (s, r) := p.validate s .input data fields options
  (s, r.map fun r => r.answer.demand "Input validation failed")

/-- The output of the configuration of a tool. -/
def demandConfig (p : EngineParts) (s : EngineState) (data : Value) (fields : FieldMap)
    (options : Options) : DemandStep :=
  let (s, r) := p.validate s .config data fields options
  (s, r.map fun r => r.answer.demandConfig "Configuration validation failed")

/-- The output of all data of a tool. -/
def demandTool (p : EngineParts) (s : EngineState) (data : Value) (schema : Schema)
    (options : Options) : DemandStep :=
  let (s, r) := p.validateTool s data schema options
  (s, r.map fun r => r.answer.demand "Tool validation failed")

end EngineParts

end Intake
