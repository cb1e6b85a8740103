import Intake.Condition.Reader
import Intake.Field.Reader
import Intake.Field.Wire

/-!
# Rules across fields

A rule relates fields of the input and the configuration of a tool. Its condition and its paths are
checked when it is declared, so that a rule holds only conditions that were read and paths that
start in the input or the configuration. Which attributes a rule declares is remembered. Main
statement: a path of a rule starts with one of the two roots and goes on after it.
-/

namespace Intake

/-- The kinds of rules. -/
inductive RuleKind where
  /-- If a condition holds, some fields must be there and others must not. -/
  | conditional
  /-- At most one of several fields may be there. -/
  | mutualExclusion
  /-- If one field is there, others must be there. -/
  | dependency
  /-- A function from outside decides. -/
  | custom
  deriving DecidableEq

namespace RuleKind

/-- All kinds. -/
def all : List RuleKind := [.conditional, .mutualExclusion, .dependency, .custom]

/-- The name of a kind. -/
def name : RuleKind → String
  | .conditional => "conditional"
  | .mutualExclusion => "mutual_exclusion"
  | .dependency => "dependency"
  | .custom => "custom"

/-- The kind of a name. -/
def ofName? (name : String) : Option RuleKind := all.find? (·.name == name)

/-- A kind is found by its name. -/
theorem ofName?_name (k : RuleKind) : ofName? k.name = some k := by
  cases k <;> decide

end RuleKind

/-- Whether a path starts with a root, a dot and something more. -/
def isRulePath (path : String) : Bool :=
  match splitFirst '.' path.toList with
  | (root, some rest) => namespaceNames.contains (String.ofList root) && !rest.isEmpty
  | (_, none) => false

/-- A path that a rule may name. -/
abbrev RulePath : Type := { path : String // isRulePath path = true }

/-- A path of a rule starts in the input or the configuration. -/
theorem RulePath.root_mem (p : RulePath) :
    String.ofList (splitFirst '.' p.val.toList).1 ∈ namespaceNames := by
  have h := p.property
  unfold isRulePath at h
  split at h
  · rename_i eq
    rw [eq]
    simp only [Bool.and_eq_true, List.contains_iff_mem] at h
    exact h.1
  · cases h

/-- A condition as it was declared. -/
structure DeclaredCondition where
  /-- The text of the condition. -/
  text : String
  /-- The condition. -/
  tree : Condition
  /-- The condition was read from the text. -/
  read_text : Condition.read text = .ok tree

/-- A rule across fields. -/
structure Rule where
  /-- The kind of the rule. -/
  kind : RuleKind
  /-- The name of the rule. -/
  name : Slot String
  /-- The condition under which a conditional rule asks for anything. -/
  condition : Slot DeclaredCondition
  /-- The fields that must be there. -/
  requires : Option (List RulePath)
  /-- The fields that must not be there. -/
  forbids : Option (List RulePath)
  /-- The field on which others depend. -/
  trigger : Slot RulePath
  /-- The fields that exclude each other. -/
  fields : Option (List RulePath)
  /-- The message for a broken rule. -/
  errorMessage : Slot String
  /-- What the rule is for. -/
  description : Slot String

/-- Why a rule is refused. -/
inductive RuleFault where
  /-- The condition cannot be read. -/
  | condition (text : String) (fault : ConditionFault)
  /-- A path starts neither in the input nor in the configuration. -/
  | path (path : String)

namespace RuleFault

/-- The path that is refused, if it is one. -/
def field : RuleFault → String
  | .condition _ _ => ""
  | .path p => p

/-- A fault in words. -/
def message : RuleFault → String
  | .condition text fault => fault.message text
  | .path p =>
    "Rule path " ++ quoteText p ++ " must start with 'input.' or 'config.'"

end RuleFault

/-- A text read as a path of a rule. -/
def checkPath (path : String) : Except RuleFault RulePath :=
  if h : isRulePath path = true then .ok ⟨path, h⟩ else .error (.path path)

/-- A text read as a condition. -/
def checkCondition (text : String) : Except RuleFault DeclaredCondition :=
  match h : Condition.read text with
  | .ok tree => .ok ⟨text, tree, h⟩
  | .error fault => .error (.condition text fault)

/-- The value of an attribute checked, if it has one. -/
def Slot.check {α β : Type} (f : α → Except RuleFault β) : Slot α → Except RuleFault (Slot β)
  | .undeclared => .ok .undeclared
  | .null => .ok .null
  | .of value => (f value).map .of

/-- The paths of an attribute checked, if it is declared. -/
def checkPaths : Option (List String) → Except RuleFault (Option (List RulePath))
  | none => .ok none
  | some paths => (paths.mapM checkPath).map some

/-- A rule before its condition and its paths are checked. -/
structure RuleDraft where
  /-- The kind of the rule. -/
  kind : RuleKind
  /-- The name of the rule. -/
  name : Slot String
  /-- The text of the condition. -/
  condition : Slot String
  /-- The fields that must be there. -/
  requires : Option (List String)
  /-- The fields that must not be there. -/
  forbids : Option (List String)
  /-- The field on which others depend. -/
  trigger : Slot String
  /-- The fields that exclude each other. -/
  fields : Option (List String)
  /-- The message for a broken rule. -/
  errorMessage : Slot String
  /-- What the rule is for. -/
  description : Slot String

namespace RuleDraft

/-- Reads the attributes of a rule. -/
def read : Reader RuleDraft
  | .record entries =>
    RuleDraft.mk <$> readNeeded "kind" "kind" (Reader.choice RuleKind.ofName?) entries
      <*> readSlot "name" "name" Reader.text entries
      <*> readSlot "condition" "condition" Reader.text entries
      <*> readOption "requires" "requires" (Reader.list Reader.text) entries
      <*> readOption "forbids" "forbids" (Reader.list Reader.text) entries
      <*> readSlot "trigger" "trigger" Reader.text entries
      <*> readOption "fields" "fields" (Reader.list Reader.text) entries
      <*> readSlot "error_message" "error_message" Reader.text entries
      <*> readSlot "description" "description" Reader.text entries
  | _ => .fault .modelType

/-- The rule that a draft declares: the condition is checked first, then the paths that must be
there, those that must not, those that exclude each other and the one on which others depend. -/
def check (draft : RuleDraft) : Except RuleFault Rule := do
  let condition ← draft.condition.check checkCondition
  let requires ← checkPaths draft.requires
  let forbids ← checkPaths draft.forbids
  let fields ← checkPaths draft.fields
  let trigger ← draft.trigger.check checkPath
  return {
    kind := draft.kind
    name := draft.name
    condition := condition
    requires := requires
    forbids := forbids
    trigger := trigger
    fields := fields
    errorMessage := draft.errorMessage
    description := draft.description }

end RuleDraft

namespace Rule

/-- Reads a rule. A rule whose attributes are well formed and whose condition or paths are not is
refused at once. -/
def read (v : Value) : Except RuleFault (Reading Rule) :=
  match RuleDraft.read v with
  | .faults found => .ok (.faults found)
  | .read draft =>
    match draft.check with
    | .ok rule => .ok (.read rule)
    | .error (.condition _ (.tooManyDigits _)) => .ok (.fault .unreadable)
    | .error fault => .error fault

/-- A list of paths as a value. -/
def pathList (paths : List RulePath) : Value := .texts (paths.map (·.val))

/-- A rule as a record of what it declares. -/
def written (r : Rule) : Value :=
  .record
    ([("kind", .text r.kind.name)] ++ r.name.entry "name" .text ++
      r.condition.entry "condition" (fun c => .text c.text) ++
      entryOf "requires" pathList r.requires ++ entryOf "forbids" pathList r.forbids ++
      r.trigger.entry "trigger" (fun p => .text p.val) ++ entryOf "fields" pathList r.fields ++
      r.errorMessage.entry "error_message" .text ++ r.description.entry "description" .text)

/-- The entry of an attribute, if it has a value. -/
def valueEntry {α : Type} (name : String) (write : α → Value) (s : Slot α) :
    List (String × Value) :=
  entryOf name write s.value?

/-- The entry of a list of paths, if it has any. -/
def pathsEntry (name : String) (paths : Option (List RulePath)) : List (String × Value) :=
  match paths with
  | some (p :: rest) => [(name, pathList (p :: rest))]
  | _ => []

/-- A rule as a record of the attributes that differ from what an absent one means. -/
def brief (r : Rule) : Value :=
  .record
    ([("kind", .text r.kind.name)] ++ valueEntry "name" .text r.name ++
      valueEntry "condition" (fun c => .text c.text) r.condition ++
      pathsEntry "requires" r.requires ++ pathsEntry "forbids" r.forbids ++
      valueEntry "trigger" (fun p => .text p.val) r.trigger ++ pathsEntry "fields" r.fields ++
      valueEntry "error_message" .text r.errorMessage ++
      valueEntry "description" .text r.description)

end Rule

end Intake
