import Intake.Tool.Registry
import Mathlib.Data.List.Nodup

/-!
# Runs of a registry

A registry and the engine behind it are asked to register tools, to look them up, to list them and to
validate data for them, in any order. Main statement: after every run the registry holds exactly the
contracts whose registration succeeded, in the order of the registrations and under different keys;
what is asked of a tool is refused exactly if its key is not there, and a registration exactly if it
is; a refusal leaves everything as it was.
-/

namespace Intake

/-- The name and the version of a tool. -/
def Contract.key (c : Contract) : String × String := (c.name, c.version)

/-- A registry and the engine behind it. -/
structure ToolDesk where
  /-- The registry. -/
  registry : Registry
  /-- The state of the engine. -/
  engine : EngineState

/-- What is asked of a registry. -/
inductive ToolRequest where
  /-- A tool is to be registered. -/
  | register (contract : Contract)
  /-- The contract of a tool is to be found. -/
  | lookup (name version : String)
  /-- The tools are to be listed. -/
  | list
  /-- Data is to be validated for a tool. -/
  | validate (name version : String) (data : Value) (options : Options)

/-- What a registry replies if it does not refuse. -/
inductive ToolReply where
  /-- The tool is registered. -/
  | registered
  /-- The contract that was looked for. -/
  | found (contract : Contract)
  /-- The names and versions of the tools. -/
  | listed (keys : List (String × String))
  /-- What the validation led to. -/
  | validated (outcome : Except SchemaFault Result)

/-- A request with the reply to it, or with its refusal. -/
abbrev ToolEvent := ToolRequest × Except RegistryFault ToolReply

/-- The contract that a registration added, if the event is one that succeeded. -/
def ToolEvent.added? : ToolEvent → Option Contract
  | (.register contract, .ok _) => some contract
  | _ => none

namespace ToolDesk

/-- The desk after a request, and the reply. -/
def ask (p : EngineParts) (desk : ToolDesk) : ToolRequest → ToolDesk × Except RegistryFault ToolReply
  | .register contract =>
    match desk.registry.register contract with
    | .ok registry => ({ desk with registry := registry }, .ok .registered)
    | .error fault => (desk, .error fault)
  | .lookup name version => (desk, (desk.registry.lookup name version).map .found)
  | .list => (desk, .ok (.listed desk.registry.list))
  | .validate name version data options =>
    let (engine, outcome) := desk.registry.validate p desk.engine name version data options
    ({ desk with engine := engine }, outcome.map .validated)

end ToolDesk

/-- A run so far: what it has led to, and what has happened. -/
structure ToolRun where
  /-- The desk. -/
  desk : ToolDesk
  /-- The events, the oldest first. -/
  events : List ToolEvent

namespace ToolRun

/-- The run after a further request. -/
def after (p : EngineParts) (run : ToolRun) (request : ToolRequest) : ToolRun :=
  let (desk, reply) := run.desk.ask p request
  ⟨desk, run.events ++ [(request, reply)]⟩

/-- The run of requests that starts without tools, with an engine in some state. -/
def ofRequests (p : EngineParts) (s : EngineState) (requests : List ToolRequest) : ToolRun :=
  requests.foldl (after p) ⟨⟨.empty, s⟩, []⟩

/-- The contracts whose registration succeeded, the oldest first. -/
def added (run : ToolRun) : List Contract := run.events.filterMap ToolEvent.added?

end ToolRun

/-- A registry maps keys to the contracts that were registered, and nothing else changes it. -/
structure ToolRun.Keeps (p : EngineParts) (run : ToolRun) : Prop where
  /-- No two tools have the same name and version. -/
  unique : (run.added.map Contract.key).Nodup
  /-- The tools are listed in the order of their registration. -/
  listed : run.desk.ask p .list = (run.desk, .ok (.listed (run.added.map Contract.key)))
  /-- What is found is the contract that was registered. -/
  found : ∀ name version contract,
    (run.desk.ask p (.lookup name version)).2 = .ok (.found contract) ↔
      contract ∈ run.added ∧ contract.key = (name, version)
  /-- A registration is refused exactly if the key is there. -/
  register_refused : ∀ contract fault,
    (run.desk.ask p (.register contract)).2 = .error fault ↔
      contract.key ∈ run.added.map Contract.key ∧
        fault = .registered contract.name contract.version
  /-- A lookup is refused exactly if the key is not there. -/
  lookup_refused : ∀ name version fault,
    (run.desk.ask p (.lookup name version)).2 = .error fault ↔
      (name, version) ∉ run.added.map Contract.key ∧ fault = .unknown name version
  /-- A validation is refused exactly if the key is not there. -/
  validate_refused : ∀ name version data options fault,
    (run.desk.ask p (.validate name version data options)).2 = .error fault ↔
      (name, version) ∉ run.added.map Contract.key ∧ fault = .unknown name version
  /-- Whatever is refused changes nothing. -/
  refused : ∀ request fault, (run.desk.ask p request).2 = .error fault →
    (run.desk.ask p request).1 = run.desk
  /-- A validation for a tool is that of the engine against the schema of its contract. -/
  validated : ∀ contract ∈ run.added, ∀ data options,
    run.desk.ask p (.validate contract.name contract.version data options) =
      (⟨run.desk.registry, (p.validateTool run.desk.engine data contract.schema options).1⟩,
        .ok (.validated (p.validateTool run.desk.engine data contract.schema options).2))
  /-- A validation changes no tools. -/
  validate_keeps : ∀ name version data options,
    (run.desk.ask p (.validate name version data options)).1.registry = run.desk.registry
  /-- Tools that are there stay, before those that are added later. -/
  grows : ∀ requests : List ToolRequest, run.desk.registry.contracts <+:
    (requests.foldl (after p) run).desk.registry.contracts

namespace Registry

variable {r : Registry}

theorem list_eq (r : Registry) : r.list = r.contracts.map Contract.key := rfl

/-- A contract that is found is one of those that are kept, under the key that was asked for. -/
theorem mem_of_find? {name version : String} {contract : Contract}
    (h : r.find? name version = some contract) :
    contract ∈ r.contracts ∧ contract.key = (name, version) := by
  refine ⟨List.mem_of_find?_eq_some h, ?_⟩
  have hkey := List.find?_some h
  simpa [Contract.key] using hkey

/-- Nothing is found under a key that no contract has. -/
theorem find?_eq_none_iff {name version : String} :
    r.find? name version = none ↔ (name, version) ∉ r.list := by
  rw [list_eq, find?, List.find?_eq_none, List.mem_map]
  simp [Contract.key]

/-- Under different keys each contract is found. -/
theorem find?_eq_some_iff (h : r.list.Nodup) {name version : String} {contract : Contract} :
    r.find? name version = some contract ↔
      contract ∈ r.contracts ∧ contract.key = (name, version) := by
  refine ⟨mem_of_find?, fun ⟨hm, hkey⟩ => ?_⟩
  cases hfound : r.find? name version with
  | none =>
    rw [find?_eq_none_iff, list_eq, ← hkey] at hfound
    exact absurd (List.mem_map_of_mem hm) hfound
  | some other =>
    obtain ⟨hother, hsame⟩ := mem_of_find? hfound
    rw [List.inj_on_of_nodup_map h hm hother (hkey.trans hsame.symm)]

/-- A registration under a new key adds the contract at the end. -/
theorem register_of_notMem {contract : Contract} (h : contract.key ∉ r.list) :
    r.register contract = .ok ⟨r.contracts ++ [contract]⟩ := by
  rw [register, find?_eq_none_iff.mpr h]

/-- A registration under a key that is there is refused. -/
theorem register_of_mem {contract : Contract} (h : contract.key ∈ r.list) :
    r.register contract = .error (.registered contract.name contract.version) := by
  rw [register]
  cases hfound : r.find? contract.name contract.version with
  | none => exact absurd h (find?_eq_none_iff.mp hfound)
  | some other => rfl

/-- A lookup under a key that is not there is refused. -/
theorem lookup_of_notMem {name version : String} (h : (name, version) ∉ r.list) :
    r.lookup name version = .error (.unknown name version) := by
  rw [lookup, find?_eq_none_iff.mpr h]

/-- A contract that is kept is found under its key. -/
theorem lookup_of_mem (h : r.list.Nodup) {contract : Contract} (hm : contract ∈ r.contracts) :
    r.lookup contract.name contract.version = .ok contract := by
  rw [lookup, (find?_eq_some_iff h).mpr ⟨hm, rfl⟩]

end Registry

namespace ToolDesk

variable {p : EngineParts} {desk : ToolDesk}

/-- A validation under a key that is not there asks nothing of the engine. -/
theorem ask_validate_of_notMem {name version : String} (h : (name, version) ∉ desk.registry.list)
    (data : Value) (options : Options) :
    desk.ask p (.validate name version data options) = (desk, .error (.unknown name version)) := by
  simp only [ask, Registry.validate, Registry.lookup_of_notMem h]
  rfl

/-- A validation for a tool is that of the engine against its schema. -/
theorem ask_validate_of_mem (h : desk.registry.list.Nodup) {contract : Contract}
    (hm : contract ∈ desk.registry.contracts) (data : Value) (options : Options) :
    desk.ask p (.validate contract.name contract.version data options) =
      (⟨desk.registry, (p.validateTool desk.engine data contract.schema options).1⟩,
        .ok (.validated (p.validateTool desk.engine data contract.schema options).2)) := by
  simp only [ask, Registry.validate, Registry.lookup_of_mem h hm]
  rfl

/-- The tools after a request are those before it, and the one that it added, if it did. -/
theorem contracts_ask (p : EngineParts) (desk : ToolDesk) (request : ToolRequest) :
    (desk.ask p request).1.registry.contracts =
      desk.registry.contracts ++ (ToolEvent.added? (request, (desk.ask p request).2)).toList := by
  cases request with
  | register contract =>
    by_cases h : contract.key ∈ desk.registry.list
    · simp [ask, Registry.register_of_mem h, ToolEvent.added?]
    · simp [ask, Registry.register_of_notMem h, ToolEvent.added?]
  | lookup name version => simp [ask, ToolEvent.added?]
  | list => simp [ask, ToolEvent.added?]
  | validate name version data options => simp [ask, ToolEvent.added?]

/-- Keys stay different. -/
theorem nodup_list_ask (h : desk.registry.list.Nodup) (request : ToolRequest) :
    (desk.ask p request).1.registry.list.Nodup := by
  cases request with
  | register contract =>
    by_cases hm : contract.key ∈ desk.registry.list
    · simpa [ask, Registry.register_of_mem hm] using h
    · simp only [ask, Registry.register_of_notMem hm, Registry.list_eq, List.map_append,
        List.map_singleton]
      exact List.nodup_append.mpr ⟨h, List.nodup_singleton _, by
        rintro key hkey other hother rfl
        exact hm (List.mem_singleton.mp hother ▸ hkey)⟩
  | lookup name version => exact h
  | list => exact h
  | validate name version data options => exact h

/-- A contract is found under a key exactly if it is kept under it. -/
theorem ask_lookup_eq_found_iff (h : desk.registry.list.Nodup) {name version : String}
    {contract : Contract} :
    (desk.ask p (.lookup name version)).2 = .ok (.found contract) ↔
      contract ∈ desk.registry.contracts ∧ contract.key = (name, version) := by
  rw [← Registry.find?_eq_some_iff h]
  cases hfound : desk.registry.find? name version <;>
    simp [ask, Registry.lookup, hfound, Except.map]

/-- A registration is refused exactly if its key is there. -/
theorem ask_register_eq_error_iff {contract : Contract} {fault : RegistryFault} :
    (desk.ask p (.register contract)).2 = .error fault ↔
      contract.key ∈ desk.registry.list ∧ fault = .registered contract.name contract.version := by
  by_cases hm : contract.key ∈ desk.registry.list
  · simp [ask, Registry.register_of_mem hm, hm, eq_comm]
  · simp [ask, Registry.register_of_notMem hm, hm]

/-- A lookup is refused exactly if its key is not there. -/
theorem ask_lookup_eq_error_iff {name version : String} {fault : RegistryFault} :
    (desk.ask p (.lookup name version)).2 = .error fault ↔
      (name, version) ∉ desk.registry.list ∧ fault = .unknown name version := by
  rw [← Registry.find?_eq_none_iff]
  cases hfound : desk.registry.find? name version <;>
    simp [ask, Registry.lookup, hfound, Except.map, eq_comm]

/-- A validation is refused exactly if its key is not there. -/
theorem ask_validate_eq_error_iff (h : desk.registry.list.Nodup) {name version : String}
    {data : Value} {options : Options} {fault : RegistryFault} :
    (desk.ask p (.validate name version data options)).2 = .error fault ↔
      (name, version) ∉ desk.registry.list ∧ fault = .unknown name version := by
  by_cases hm : (name, version) ∈ desk.registry.list
  · obtain ⟨contract, hkept, hkey⟩ := List.mem_map.mp hm
    cases hkey
    simp [ask_validate_of_mem h hkept, hm]
  · simp [ask_validate_of_notMem hm, hm, eq_comm]

/-- A request that is refused changes nothing. -/
theorem ask_of_refused {request : ToolRequest} {fault : RegistryFault}
    (h : (desk.ask p request).2 = .error fault) : (desk.ask p request).1 = desk := by
  cases request with
  | register contract =>
    by_cases hm : contract.key ∈ desk.registry.list
    · simp [ask, Registry.register_of_mem hm]
    · simp [ask, Registry.register_of_notMem hm] at h
  | lookup name version => rfl
  | list => rfl
  | validate name version data options =>
    cases hfound : desk.registry.lookup name version with
    | error fault => simp [ask, Registry.validate, hfound]
    | ok contract => simp [ask, Registry.validate, hfound, Except.map] at h

end ToolDesk

namespace ToolRun

variable {p : EngineParts} {run : ToolRun}

/-- The registry of a run holds the contracts whose registration succeeded, under different keys. -/
structure Holds (run : ToolRun) : Prop where
  /-- The contracts are those that were registered. -/
  contracts : run.desk.registry.contracts = run.added
  /-- The keys are different. -/
  nodup : run.desk.registry.list.Nodup

/-- What a registry holds after a request it holds after the run with the request. -/
theorem Holds.after (h : run.Holds) (request : ToolRequest) : (run.after p request).Holds where
  contracts := by
    change (run.desk.ask p request).1.registry.contracts =
      (run.events ++ [(request, (run.desk.ask p request).2)]).filterMap ToolEvent.added?
    rw [ToolDesk.contracts_ask, h.contracts, List.filterMap_append]
    cases hadded : ToolEvent.added? (request, (run.desk.ask p request).2) <;>
      simp [added, hadded]
  nodup := ToolDesk.nodup_list_ask h.nodup request

/-- A registry holds after a run what it should. -/
theorem holds_foldl (h : run.Holds) (requests : List ToolRequest) :
    (requests.foldl (after p) run).Holds := by
  induction requests generalizing run with
  | nil => exact h
  | cons request rest ih => exact ih (h.after request)

theorem holds_ofRequests (p : EngineParts) (s : EngineState) (requests : List ToolRequest) :
    (ofRequests p s requests).Holds := by
  have hempty : Holds ⟨⟨.empty, s⟩, []⟩ := ⟨rfl, List.nodup_nil⟩
  exact holds_foldl hempty requests

/-- Tools that are there stay, whatever is asked. -/
theorem contracts_prefix_foldl (run : ToolRun) (requests : List ToolRequest) :
    run.desk.registry.contracts <+: (requests.foldl (after p) run).desk.registry.contracts := by
  induction requests generalizing run with
  | nil => exact List.prefix_rfl
  | cons request rest ih =>
    have hstep : run.desk.registry.contracts <+: (run.after p request).desk.registry.contracts := by
      change _ <+: (run.desk.ask p request).1.registry.contracts
      rw [ToolDesk.contracts_ask]
      exact List.prefix_append _ _
    exact hstep.trans (ih (run.after p request))

/-- The keys of a registry are those of the contracts whose registration succeeded. -/
theorem Holds.list (h : run.Holds) : run.desk.registry.list = run.added.map Contract.key := by
  rw [Registry.list_eq, h.contracts]

/-- After every run the registry maps the keys of the tools to the contracts that were registered, and
tells of them and of what is not there as it should. -/
theorem keeps_ofRequests (p : EngineParts) (s : EngineState) (requests : List ToolRequest) :
    (ofRequests p s requests).Keeps p := by
  -- The replies depend on what the registry holds, not on how the run came to it.
  have holds := holds_ofRequests p s requests
  generalize ofRequests p s requests = run at holds
  have hlist := holds.list
  refine
    { unique := hlist ▸ holds.nodup
      listed := by rw [← hlist]; rfl
      found := fun name version contract => ?_
      register_refused := fun contract fault => ?_
      lookup_refused := fun name version fault => ?_
      validate_refused := fun name version data options fault => ?_
      refused := fun request fault => ToolDesk.ask_of_refused
      validated := fun contract hm data options =>
        ToolDesk.ask_validate_of_mem holds.nodup (holds.contracts ▸ hm) data options
      validate_keeps := fun name version data options => rfl
      grows := run.contracts_prefix_foldl }
  · rw [← holds.contracts]
    exact ToolDesk.ask_lookup_eq_found_iff holds.nodup
  · rw [← hlist]
    exact ToolDesk.ask_register_eq_error_iff
  · rw [← hlist]
    exact ToolDesk.ask_lookup_eq_error_iff
  · rw [← hlist]
    exact ToolDesk.ask_validate_eq_error_iff holds.nodup

end ToolRun

end Intake
