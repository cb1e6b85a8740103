import Intake.Field.Draft
import Intake.Schema.Rule

/-!
# Schemas of tools

A schema declares the input and the configuration of a tool and the rules across their fields. It is
read from a record or put together step by step; what it declares is remembered, so that it can be
written down again. What a field is added from is built first and what a rule is added from is read
first, so a step that is refused has not touched the schema in the making. Main statements: a field
added to a schema in the making is found under its name, and rules stay in the order of their
adding; a step that is refused leaves the schema in the making as it is.
-/

namespace Intake

/-- The two sides of the data of a tool. -/
inductive Side where
  /-- What a request hands over. -/
  | input
  /-- What the tool is set up with. -/
  | config
  deriving DecidableEq

/-- The name of a side. -/
def Side.name : Side → String
  | .input => "input"
  | .config => "config"

/-- The side of a name. -/
def Side.ofName? (name : String) : Option Side :=
  if name = "input" then some .input else if name = "config" then some .config else none

/-- The schema of a tool; parts that were not declared are remembered as such. -/
structure Schema where
  /-- The fields of the input. -/
  declaredInput : Option FieldMap
  /-- The fields of the configuration. -/
  declaredConfig : Option FieldMap
  /-- The rules across fields. -/
  declaredRules : Option (List Rule)

namespace Schema

/-- The schema that declares nothing. -/
def empty : Schema := ⟨none, none, none⟩

/-- The fields of the input. -/
def input (s : Schema) : FieldMap := s.declaredInput.getD []

/-- The fields of the configuration. -/
def config (s : Schema) : FieldMap := s.declaredConfig.getD []

/-- The rules across fields. -/
def rules (s : Schema) : List Rule := s.declaredRules.getD []

/-- The fields of a side. -/
def fields (s : Schema) : Side → FieldMap
  | .input => s.input
  | .config => s.config

/-- Reads rules from an index on. -/
def readRulesFrom : Nat → List Value → Except RuleFault (Reading (List Rule))
  | _, [] => .ok (.read [])
  | i, v :: rest => do
    let first ← Rule.read v
    let others ← readRulesFrom (i + 1) rest
    return ((first.under (.index i)).map List.cons).ap others

/-- Reads the rules of a schema. -/
def readRules (entries : List (String × Value)) :
    Except RuleFault (Reading (Option (List Rule))) :=
  match entries.lookup "rules" with
  | none => .ok (.read none)
  | some (.list items) => do
    return ((← readRulesFrom 0 items).map some).under (.key "rules")
  | some _ => .ok ((Reading.fault .tupleType).under (.key "rules"))

/-- Reads a schema. A rule with a condition or a path that is refused ends the reading at once. -/
def read : Value → Except RuleFault (Reading Schema)
  | .record entries => do
    let rules ← readRules entries
    return Schema.mk <$> readOption "input" "input" FieldMap.read entries
      <*> readOption "config" "config" FieldMap.read entries <*> rules
  | _ => .ok (.fault .modelType)

/-- Fields as a record of their written forms. -/
def writtenFields (fields : FieldMap) : Value :=
  .record (fields.map fun (name, d) => (name, d.wire))

/-- A schema as a record of what it declares. -/
def written (s : Schema) : Value :=
  .record
    (entryOf "input" writtenFields s.declaredInput ++
      entryOf "config" writtenFields s.declaredConfig ++
      entryOf "rules" (fun rules => .list (rules.map Rule.written)) s.declaredRules)

end Schema

/-- A schema in the making. -/
structure SchemaDraft where
  /-- The fields of the input. -/
  input : FieldMap
  /-- The fields of the configuration. -/
  config : FieldMap
  /-- The rules across fields. -/
  rules : List Rule

namespace SchemaDraft

/-- The draft to start with. -/
def empty : SchemaDraft := ⟨[], [], []⟩

/-- A draft with a field of the input; one of the same name is replaced in its place. -/
def addInput (draft : SchemaDraft) (name : String) (d : Definition) : SchemaDraft :=
  { draft with input := insertEntry name d draft.input }

/-- A draft with a field of the configuration; one of the same name is replaced in its place. -/
def addConfig (draft : SchemaDraft) (name : String) (d : Definition) : SchemaDraft :=
  { draft with config := insertEntry name d draft.config }

/-- A draft with a further rule. -/
def addRule (draft : SchemaDraft) (rule : Rule) : SchemaDraft :=
  { draft with rules := draft.rules ++ [rule] }

/-- The schema that a draft declares. -/
def build (draft : SchemaDraft) : Schema :=
  ⟨some draft.input, some draft.config, some draft.rules⟩

/-- A field added to the input is found under its name. -/
theorem lookup_addInput (draft : SchemaDraft) (name : String) (d : Definition) :
    (draft.addInput name d).build.input.lookup name = some d :=
  lookup_insertEntry name d draft.input

/-- A field added to the configuration is found under its name. -/
theorem lookup_addConfig (draft : SchemaDraft) (name : String) (d : Definition) :
    (draft.addConfig name d).build.config.lookup name = some d :=
  lookup_insertEntry name d draft.config

/-- A rule added comes last. -/
theorem rules_addRule (draft : SchemaDraft) (rule : Rule) :
    (draft.addRule rule).build.rules = draft.build.rules ++ [rule] := rfl

end SchemaDraft

/-- What a field is added from. -/
inductive FieldSource where
  /-- A draft, built when the field is added. -/
  | draft (draft : Draft)
  /-- A definition. -/
  | definition (d : Definition)

/-- The definition that a source gives. -/
def FieldSource.read : FieldSource → Reading Definition
  | .draft made => made.build
  | .definition d => .read d

/-- What a rule is added from. -/
inductive RuleSource where
  /-- A record, read when the rule is added. -/
  | declared (v : Value)
  /-- A rule. -/
  | rule (rule : Rule)

/-- The rule that a source gives. -/
def RuleSource.read : RuleSource → Except RuleFault (Reading Rule)
  | .declared v => Rule.read v
  | .rule r => .ok (.read r)

/-- A step on the way to a schema. -/
inductive SchemaStep where
  /-- A field is added to a side. -/
  | field (side : Side) (name : String) (source : FieldSource)
  /-- A rule is added. -/
  | rule (source : RuleSource)
  /-- What is there so far is built. -/
  | build

/-- Why a step is refused. -/
inductive SchemaStepFault where
  /-- Parts of a declaration cannot be read. -/
  | declaration (found : List DeclarationFault)
  /-- The condition or a path of a rule is refused. -/
  | rule (fault : RuleFault)

/-- Why a step is refused, if it is. -/
def SchemaStep.fault? : SchemaStep → Option SchemaStepFault
  | .field _ _ source =>
    match source.read with
    | .read _ => none
    | .faults found => some (.declaration found)
  | .rule source =>
    match source.read with
    | .ok (.read _) => none
    | .ok (.faults found) => some (.declaration found)
    | .error fault => some (.rule fault)
  | .build => none

/-- A step that is not refused adds a field or a rule that was read, or it builds. -/
theorem SchemaStep.cases_of_fault?_eq_none {step : SchemaStep} (h : step.fault? = none) :
    (∃ side name source d, step = .field side name source ∧ source.read = .read d) ∨
      (∃ source rule, step = .rule source ∧ source.read = .ok (.read rule)) ∨ step = .build := by
  cases step with
  | field side name source =>
    cases hread : source.read with
    | read d => exact .inl ⟨side, name, source, d, rfl, hread⟩
    | faults found => simp [fault?, hread] at h
  | rule source =>
    rcases hread : source.read with fault | rule | found
    · simp [fault?, hread] at h
    · exact .inr (.inl ⟨source, rule, rfl, hread⟩)
    · simp [fault?, hread] at h
  | build => exact .inr (.inr rfl)

namespace SchemaDraft

/-- A draft with a field of a side; one of the same name is replaced in its place. -/
def add (draft : SchemaDraft) : Side → String → Definition → SchemaDraft
  | .input => draft.addInput
  | .config => draft.addConfig

/-- A draft after a step, and the schema that the step builds, if it builds one. -/
def take (draft : SchemaDraft) :
    SchemaStep → SchemaDraft × Except SchemaStepFault (Option Schema)
  | .field side name source =>
    match source.read with
    | .read d => (draft.add side name d, .ok none)
    | .faults found => (draft, .error (.declaration found))
  | .rule source =>
    match source.read with
    | .ok (.read rule) => (draft.addRule rule, .ok none)
    | .ok (.faults found) => (draft, .error (.declaration found))
    | .error fault => (draft, .error (.rule fault))
  | .build => (draft, .ok (some draft.build))

theorem take_field (draft : SchemaDraft) (side : Side) (name : String) {source : FieldSource}
    {d : Definition} (h : source.read = .read d) :
    draft.take (.field side name source) = (draft.add side name d, .ok none) := by
  simp only [take, h]

theorem take_rule (draft : SchemaDraft) {source : RuleSource} {rule : Rule}
    (h : source.read = .ok (.read rule)) :
    draft.take (.rule source) = (draft.addRule rule, .ok none) := by
  simp only [take, h]

/-- A step that is refused leaves the draft as it is. -/
theorem take_of_fault? (draft : SchemaDraft) {step : SchemaStep} {fault : SchemaStepFault}
    (h : step.fault? = some fault) : draft.take step = (draft, .error fault) := by
  cases step with
  | field side name source =>
    unfold SchemaStep.fault? at h
    unfold take
    cases hread : source.read with
    | read d => simp [hread] at h
    | faults found => simpa [hread] using h
  | rule source =>
    unfold SchemaStep.fault? at h
    unfold take
    rcases hread : source.read with fault | rule | found
    · simpa [hread] using h
    · simp [hread] at h
    · simpa [hread] using h
  | build => cases h

end SchemaDraft

end Intake
