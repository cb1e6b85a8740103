import Intake.Validation.Compile
import Intake.Validation.Leaf

/-!
# Validating data

A validator holds the checks of one side of a schema, made ready under options. It makes an output
of a record of data or tells what is wrong with it: field by field in the order of declaration, and
what is not declared at the end. Main statement: an outcome with enumerated members has no more than
one issue of them.
-/

namespace Intake

/-- The outcome of a check after the enumerated members of its field are looked at, which is done
only if nothing else is wrong. -/
def Site.withMembers (site : Site) (v : Value) (o : Outcome) : Outcome :=
  match site.subject.members with
  | some values =>
    if o.isAccepted && !isMember v values then ⟨o.output, [site.choiceIssue v values]⟩ else o
  | none => o

/-- Without enumerated members an outcome stays. -/
theorem Site.withMembers_of_none {site : Site} (h : site.subject.members = none) (v : Value)
    (o : Outcome) : site.withMembers v o = o := by
  simp [withMembers, h]

/-- What was made of several parts: an output, which counts if there are no issues. -/
structure Gathered (α : Type) where
  /-- The output. -/
  output : α
  /-- The issues, in order. -/
  issues : List Issue

/-- The items of a list checked from an index on. If the check stops early, it stops after the first
item that has issues, or after the first at all if issues are pending. -/
def gatherItems (stop pending : Bool) (check : DataPath → Value → Except Failure Outcome)
    (path : DataPath) : Nat → List Value → Except Failure (Gathered (List Value))
  | _, [] => .ok ⟨[], []⟩
  | i, v :: rest =>
    match check (path ++ [.index i]) v with
    | .error failure => .error failure
    | .ok first =>
      if stop && (pending || !first.isAccepted) then .ok ⟨[first.output], first.issues⟩
      else
        match gatherItems stop pending check path (i + 1) rest with
        | .error failure => .error failure
        | .ok others => .ok ⟨first.output :: others.output, first.issues ++ others.issues⟩

/-- The keys of a record that are not declared, in the order of the record. -/
def undeclaredKeys (declared : List String) (data : List (String × Value)) :
    List (String × Value) :=
  data.filter fun (key, _) => !declared.contains key

/-- What happens to keys that are not declared. -/
inductive UnknownKeys where
  /-- They are copied to the output. -/
  | keep
  /-- They are dropped. -/
  | drop
  /-- They are an issue. -/
  | refuse
  deriving DecidableEq

/-- How a record is called in the message on its keys. -/
def recordLabel (path : DataPath) : String :=
  if path.joined = "" then "data" else path.joined

/-- The issue of keys that are not declared. -/
def keysIssue (options : Options) (path : DataPath) (keys : List String) : Issue where
  path := path
  code := .unrecognizedKeys
  message :=
    (options.messages.lookup (recordLabel path ++ ".unknownKeys")).getD
      ("Unrecognized key(s) in " ++ recordLabel path ++ ": " ++ ", ".intercalate keys)
  value := .null
  expected := none
  context := some [("keys", .texts keys)]
  secret := false

/-- The first issue, if only one is wanted. -/
def limitIssues (abortEarly : Bool) (issues : List Issue) : List Issue :=
  if abortEarly then issues.take 1 else issues

/-- What was made of the declared properties of a record, and what becomes of its other keys. -/
def closeRecord (options : Options) (unknown : UnknownKeys) (path : DataPath)
    (declared : List String) (data : List (String × Value))
    (found : Gathered (List (String × Value))) : Gathered (List (String × Value)) :=
  let others := undeclaredKeys declared data
  let refused :=
    if unknown = .refuse && !others.isEmpty then
      [keysIssue options path (others.map (·.1))]
    else []
  ⟨found.output ++ (if unknown = .keep then others else []),
    limitIssues options.abortEarly (found.issues ++ refused)⟩

/-- The issue of a value that is missing. -/
def Site.missingIssue (site : Site) : Issue :=
  site.issue .required .required ("Required field '" ++ site.label ++ "' is missing") .null
    site.subject.kind.name

/-- What is made of a property that is absent or null. -/
def Site.resolveAbsent (site : Site) (name : String) (required : Bool) :
    Gathered (List (String × Value)) :=
  if required then ⟨[], [site.missingIssue]⟩
  else
    match site.subject.fallback with
    | some value => ⟨[(name, value)], []⟩
    | none => ⟨[], []⟩

/-- A property that is not null. -/
def present? (name : String) (data : List (String × Value)) : Option Value :=
  (data.lookup name).filter (!·.isNull)

mutual

/-- The check of a value at a path. -/
def Check.run (options : Options) (path : DataPath) (v : Value) (check : Check) :
    Except Failure Outcome :=
  match check with
  | .leaf subject rule =>
    let site : Site := ⟨subject, options, path⟩
    (rule.run site v).map (site.withMembers v)
  | .listOf subject rule item =>
    let site : Site := ⟨subject, options, path⟩
    match v with
    | .list items =>
      let sizes := rule.sizeIssues site items.length
      match gatherItems options.abortEarly (!sizes.isEmpty)
          (fun path v => Check.run options path v item) path 0 items with
      | .error failure => .error failure
      | .ok found =>
        let issues := sizes ++ found.issues
        let repeated := if issues.isEmpty then rule.repetitionIssues site items else []
        .ok (site.withMembers v ⟨.list found.output, issues ++ repeated⟩)
    | v => .ok (.reject v (site.typeIssue v "array"))
  | .recordOf subject rule properties =>
    let site : Site := ⟨subject, options, path⟩
    match v with
    | .record data =>
      match resolveProperties options path rule.required data properties with
      | .error failure => .error failure
      | .ok found =>
        let closed := closeRecord options (if rule.additional then .keep else .refuse) path
          (properties.map (·.1)) data found
        .ok (site.withMembers v ⟨.record closed.output, closed.issues⟩)
    | v => .ok (.reject v (site.typeIssue v "object"))

/-- The properties of a record checked in the order of their declaration. If the check stops early,
it stops after the first property that has issues. -/
def resolveProperties (options : Options) (path : DataPath) (required : List String)
    (data : List (String × Value)) (properties : List (String × Check)) :
    Except Failure (Gathered (List (String × Value))) :=
  match properties with
  | [] => .ok ⟨[], []⟩
  | (name, check) :: rest =>
    let first : Except Failure (Gathered (List (String × Value))) :=
      match present? name data with
      | none =>
        .ok (Site.resolveAbsent ⟨check.subject, options, path ++ [.key name]⟩ name
          (check.subject.required || required.contains name))
      | some v =>
        match check.run options (path ++ [.key name]) v with
        | .error failure => .error failure
        | .ok o => .ok ⟨if o.isAccepted then [(name, o.output)] else [], o.issues⟩
    match first with
    | .error failure => .error failure
    | .ok first =>
      if options.abortEarly && !first.issues.isEmpty then .ok first
      else
        match resolveProperties options path required data rest with
        | .error failure => .error failure
        | .ok others => .ok ⟨first.output ++ others.output, first.issues ++ others.issues⟩

end

/-- What a validation says of data. -/
inductive Verdict where
  /-- The data is accepted; this is the output. -/
  | accepted (output : List (String × Value))
  /-- The data is refused. -/
  | rejected (issues : List Issue)

/-- The checks of one side of a schema, with the options they run under. -/
structure Validator where
  /-- What the data is called. -/
  name : String
  /-- The options. -/
  options : Options
  /-- The checks by field, in order of declaration. -/
  checks : List (String × Check)

namespace Validator

/-- Fields made ready. -/
def compile (options : Options) (name : String) (fields : FieldMap) :
    Except CompileError Validator :=
  (compileFields id fields).map fun checks => ⟨name, options, checks⟩

/-- The issue of data that is no record. -/
def shapeIssue (validator : Validator) (data : Value) : Issue where
  path := []
  code := .invalidType
  message := validator.name ++ " must be an object, got " ++ data.typeName
  value := data
  expected := some "object"
  context := none
  secret := false

/-- The verdict on a record of data. -/
def validateRecord (validator : Validator) (data : List (String × Value)) :
    Except Failure Verdict :=
  match resolveProperties validator.options [] [] data validator.checks with
  | .error failure => .error failure
  | .ok found =>
    let closed := closeRecord validator.options
      (if validator.options.stripUnknown then .drop else .refuse) []
      (validator.checks.map (·.1)) data found
    match closed.issues with
    | [] => .ok (.accepted closed.output)
    | issues => .ok (.rejected issues)

/-- The verdict on data; null counts as an empty record. -/
def validate (validator : Validator) (data : Value) : Except Failure Verdict :=
  match data with
  | .null => validator.validateRecord []
  | .record entries => validator.validateRecord entries
  | data => .ok (.rejected [validator.shapeIssue data])

end Validator

end Intake
