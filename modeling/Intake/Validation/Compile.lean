import Intake.Field.Bounds
import Intake.JsonSchema.Check
import Intake.Pattern.Reader
import Intake.Text.Casing
import Intake.Validation.Check
import Intake.Validation.Temporal

/-!
# Making definitions ready

A definition is made ready once and used often. What is wrong with the declaration itself is found
here: an enumeration without values, a property that is required and not declared, a pattern, a
bound or a JSON Schema that cannot be read. Main statement: the check of a definition bears the label
it was made for.
-/

namespace Intake

/-- What is wrong with a declaration. -/
inductive SchemaFault where
  /-- An enumeration has no values. -/
  | noValues (label : String)
  /-- Required properties are not declared. -/
  | undeclared (label : String) (names : List String)
  /-- A pattern cannot be read. -/
  | pattern (label text : String) (fault : PatternFault) (position : Option Nat)
  /-- A bound is no date. -/
  | bound (label text : String)
  /-- A JSON Schema is malformed. -/
  | jsonSchema (label problem : String)

namespace SchemaFault

/-- The label of the field that is at fault. -/
def label : SchemaFault → String
  | .noValues label => label
  | .undeclared label _ => label
  | .pattern label _ _ _ => label
  | .bound label _ => label
  | .jsonSchema label _ => label

/-- A fault in words. -/
def message : SchemaFault → String
  | .noValues label => "Enum field " ++ label ++ " must have enum values defined"
  | .undeclared label names =>
    "Object field " ++ label ++ " requires undeclared properties: " ++ ", ".intercalate names
  | .pattern label text fault position =>
    "Field " ++ label ++ " declares an invalid pattern: " ++ fault.message text position
  | .bound label text =>
    "Field " ++ label ++ " declares an invalid date bound: " ++ quoteText text
  | .jsonSchema label problem =>
    "JSON field " ++ label ++ " declares a malformed JSON Schema: " ++ problem

end SchemaFault

/-- Why a definition cannot be made ready. -/
inductive CompileError where
  /-- The declaration is at fault. -/
  | schema (fault : SchemaFault)
  /-- Something could not be computed. -/
  | failure (failure : Failure)

/-- A failure met on the way. -/
def CompileError.lift {α : Type} (a : Except Failure α) : Except CompileError α :=
  a.mapError .failure

namespace Compile

/-- A pattern read for a field. -/
def pattern (label text : String) : Except CompileError (String × Pattern) :=
  match Pattern.read text with
  | .ok p => .ok (text, p)
  | .error (.malformed fault position) => .error (.schema (.pattern label text fault position))
  | .error other => .error (.failure (.ofPatternError text other))

/-- A value that may be absent, made ready. -/
def optional {α β : Type} (f : α → Except CompileError β) :
    Option α → Except CompileError (Option β)
  | none => .ok none
  | some a => (f a).map some

/-- What is asked of a text. -/
def textRule (label : String) (a : FieldAttributes) : Except CompileError TextRule := do
  let least ← CompileError.lift a.leastLength
  let greatest ← CompileError.lift a.greatestLength
  let found ← optional (pattern label) a.searchText
  return ⟨least, greatest, found, a.format.value?, false⟩

/-- What is asked of a key or a secret: it must not be empty. -/
def confidentialRule (label : String) (a : FieldAttributes) : Except CompileError TextRule := do
  let rule ← textRule label a
  return { rule with minLength := some (max (rule.minLength.getD 1) 1), confidential := true }

/-- A scheme in small letters, without colons at its end. -/
def protocolName (written : String) : String :=
  String.ofList ((lowerText written).toList.reverse.dropWhile (· == ':')).reverse

/-- A bound read as a date. -/
def bound {α : Type} (read? : Value → Option α) (label text : String) :
    Except CompileError (DateBound α) :=
  match read? (.text text) with
  | some value => .ok ⟨text, value⟩
  | none => .error (.schema (.bound label text))

/-- The earliest and the latest date of a field. -/
def range {α : Type} (read? : Value → Option α) (label : String) (a : FieldAttributes) :
    Except CompileError (DateRange α) := do
  let earliest ← optional (bound read? label) a.minDate.value?
  let latest ← optional (bound read? label) a.maxDate.value?
  return ⟨earliest, latest⟩

/-- A JSON Schema that is not malformed. -/
def jsonSchema (label : String) (schema : List (String × Value)) : Except CompileError Value := do
  match ← CompileError.lift (JsonSchema.fault? (.record schema)) with
  | some problem => .error (.schema (.jsonSchema label problem))
  | none => .ok (.record schema)

/-- What is asked of a list. -/
def listRule (a : FieldAttributes) : ListRule :=
  ⟨a.minItems.value?, a.maxItems.value?, a.uniqueItems.getD false⟩

/-- What is asked of a value, its parts apart. -/
def leafRule (label : String) (a : FieldAttributes) : Except CompileError LeafRule :=
  match a.kind with
  | .string => do return .text (← textRule label a) a.transform.value?
  | .url => do
    return .url (← textRule label a) a.transform.value? (a.protocols.map (·.map protocolName))
  | .apiKey | .secret => do return .text (← confidentialRule label a) none
  | .number =>
    .ok (.number ⟨a.leastNumber, a.greatestNumber, a.integer.getD false, a.precision.value?⟩)
  | .boolean => .ok .boolean
  | .enumeration =>
    match a.choices with
    | some values => .ok (.choice values)
    | none => .error (.schema (.noValues label))
  | .array => .ok (.anyList (listRule a))
  | .object => .ok .anyRecord
  | .date => do return .date (← range Value.date? label a)
  | .dateTime => do return .dateTime (← range Value.dateTime? label a) a.timezone.value?
  | .time => .ok .time
  | .file =>
    .ok (.file ⟨a.allowedMimeTypes.value?.filter (!·.isEmpty), a.maxFileSize.value?⟩)
  | .json => do
    return .json (← optional (jsonSchema label) (a.rules?.bind (·.jsonSchema.value?)))

/-- What a check knows of its field. -/
def subject (label : String) (a : FieldAttributes) : Subject where
  label := label
  kind := a.kind
  required := a.isRequired
  fallback := a.fallback
  secret := a.isSecret
  message := a.ownMessage
  members := if a.kind = .enumeration then none else a.ownValues

/-- Texts without those that occur before, in order. -/
def distinctSorted (names : List String) : List String :=
  (names.eraseDups).mergeSort fun a b => !(b < a)

/-- Required properties that are not declared. -/
def undeclaredNames (required declared : List String) : List String :=
  distinctSorted (required.filter (!declared.contains ·))

end Compile

mutual

/-- A definition made ready under a label. -/
def Definition.compile (label : String) (d : Definition) : Except CompileError Check :=
  match d with
  | ⟨a, items, properties⟩ =>
    match a.kind with
    | .array => compileItems label a items
    | .object => compileProperties label a properties
    | _ => (Compile.leafRule label a).map (.leaf (Compile.subject label a))

/-- A list made ready, whose items may have a definition. -/
def compileItems (label : String) (a : FieldAttributes) (items : Slot Definition) :
    Except CompileError Check :=
  match items with
  | .of item =>
    match item.compile (label ++ "[]") with
    | .ok check => .ok (.listOf (Compile.subject label a) (Compile.listRule a) check)
    | .error e => .error e
  | _ => (Compile.leafRule label a).map (.leaf (Compile.subject label a))

/-- A record made ready, whose properties may have definitions. -/
def compileProperties (label : String) (a : FieldAttributes)
    (properties : Slot (List (String × Definition))) : Except CompileError Check :=
  match properties with
  | .of definitions =>
    match compileFields (fun name => label ++ "." ++ name) definitions with
    | .error e => .error e
    | .ok checks =>
      let required := a.requiredProperties.value?.getD []
      match Compile.undeclaredNames required (checks.map (·.1)) with
      | [] =>
        .ok (.recordOf (Compile.subject label a)
          ⟨required, a.additionalProperties.getD false⟩ checks)
      | names => .error (.schema (.undeclared label names))
  | _ => (Compile.leafRule label a).map (.leaf (Compile.subject label a))

/-- Definitions by name made ready, each under the label of its name. -/
def compileFields (labelOf : String → String) (fields : List (String × Definition)) :
    Except CompileError (List (String × Check)) :=
  match fields with
  | [] => .ok []
  | (name, d) :: rest =>
    match d.compile (labelOf name) with
    | .error e => .error e
    | .ok check =>
      match compileFields labelOf rest with
      | .error e => .error e
      | .ok checks => .ok ((name, check) :: checks)

end

end Intake
