import Intake.Engine.Basic

/-!
# A registry of tools

A contract declares a tool: its name and version, its schema and how it is to be run. A registry
keeps contracts by name and version, in the order of their registration. A name and a version are
registered once. Main statements: a contract that was registered is found, and the others stay where
they are.
-/

namespace Intake

/-- The declaration of a tool. -/
structure Contract where
  /-- The name. -/
  name : String
  /-- The version. -/
  version : String
  /-- What the tool is for. -/
  description : String
  /-- The schema. -/
  schema : Schema
  /-- What the tool can do. -/
  capabilities : List String
  /-- How many seconds the tool may take. -/
  timeoutSeconds : Int

namespace Contract

/-- Some field of the configuration is required. -/
def requiresConfig (c : Contract) : Bool := c.schema.config.any fun (_, d) => d.isRequired

/-- Reads the schema of a contract. -/
def readSchema (entries : List (String × Value)) :
    Except RuleFault (Reading (Option Schema)) :=
  match findAttribute "schema" "tool_schema" entries with
  | none => .ok (.read none)
  | some (key, v) => do
    return ((← Schema.read v).map some).under (.key key)

/-- Reads a contract. A rule with a condition or a path that is refused ends the reading at once. -/
def read : Value → Except RuleFault (Reading Contract)
  | .record entries => do
    let schema ← readSchema entries
    return (fun name version description schema capabilities timeout =>
        Contract.mk name version (description.getD "") (schema.getD .empty)
          (capabilities.getD []) (timeout.getD 30))
      <$> readNeeded "name" "name" Reader.text entries
      <*> readNeeded "version" "version" Reader.text entries
      <*> readOption "description" "description" Reader.text entries
      <*> schema
      <*> readOption "capabilities" "capabilities" (Reader.list Reader.text) entries
      <*> readOption "timeout_seconds" "timeout_seconds" Reader.int entries
  | _ => .ok (.fault .modelType)

end Contract

/-- The contracts of tools, in the order of their registration. -/
structure Registry where
  /-- The contracts. -/
  contracts : List Contract

/-- A tool that a registry has already, or does not have. -/
inductive RegistryFault where
  /-- The tool is registered already. -/
  | registered (name version : String)
  /-- The tool is not registered. -/
  | unknown (name version : String)

/-- A fault in words. -/
def RegistryFault.message : RegistryFault → String
  | .registered name version =>
    "Tool '" ++ name ++ "' version '" ++ version ++ "' already registered"
  | .unknown name version =>
    "Tool '" ++ name ++ "' version '" ++ version ++ "' not found in registry"

namespace Registry

/-- The registry without tools. -/
def empty : Registry := ⟨[]⟩

/-- The contract of a name and a version. -/
def find? (r : Registry) (name version : String) : Option Contract :=
  r.contracts.find? fun c => c.name == name && c.version == version

/-- The registry with a further contract. -/
def register (r : Registry) (contract : Contract) : Except RegistryFault Registry :=
  match r.find? contract.name contract.version with
  | some _ => .error (.registered contract.name contract.version)
  | none => .ok ⟨r.contracts ++ [contract]⟩

/-- The contract of a name and a version, which must be there. -/
def lookup (r : Registry) (name version : String) : Except RegistryFault Contract :=
  match r.find? name version with
  | some contract => .ok contract
  | none => .error (.unknown name version)

/-- The names and versions of all tools. -/
def list (r : Registry) : List (String × String) :=
  r.contracts.map fun c => (c.name, c.version)

/-- The validation of data, by an engine, for the tool of a name and a version, which must be
there. -/
def validate (r : Registry) (p : EngineParts) (s : EngineState) (name version : String)
    (data : Value) (options : Options) :
    EngineState × Except RegistryFault (Except SchemaFault Result) :=
  match r.lookup name version with
  | .error fault => (s, .error fault)
  | .ok contract =>
    let (s, outcome) := p.validateTool s data contract.schema options
    (s, .ok outcome)

/-- A contract that was registered is found. -/
theorem lookup_register {r next : Registry} {contract : Contract}
    (h : r.register contract = .ok next) :
    next.lookup contract.name contract.version = .ok contract := by
  unfold register at h
  split at h
  · cases h
  · rename_i fresh
    cases h
    have fresh' : r.contracts.find? (fun c => c.name == contract.name &&
        c.version == contract.version) = none := fresh
    simp [lookup, find?, List.find?_append, fresh']

/-- A registration leaves the contracts before it in their places. -/
theorem list_register {r next : Registry} {contract : Contract}
    (h : r.register contract = .ok next) :
    next.list = r.list ++ [(contract.name, contract.version)] := by
  unfold register at h
  split at h
  · cases h
  · cases h
    simp [list]

end Registry

end Intake
