import Intake.Field.Definition
import Intake.Json.Reader
import Intake.Number.Literal
import Intake.Text.Casing
import Intake.Value.Basic

/-!
# Configuration from the environment

A field may name an environment variable that holds its value. The variable is asked where the
configuration has no value, and its text is read as the kind of the field suggests; what cannot be
read stays a text, for the validation to judge. Main statement: a configuration of fields without
variables stays as it is.
-/

namespace Intake

/-- The number that a text stands for: a whole one without a point is an integer. -/
def numberOfText (raw : String) : Value :=
  match readLooseDouble? raw with
  | none => .text raw
  | some x =>
    match if x.isIntegral && !raw.toList.contains '.' then x.truncate? else none with
    | some n => .int n
    | none => .float x

/-- The truth value that a text stands for. -/
def truthOfText (raw : String) : Value :=
  let word := lowerText (trimText raw)
  if ["1", "true", "yes", "on"].contains word then .bool true
  else if ["0", "false", "no", "off"].contains word then .bool false
  else .text raw

/-- The value that the text of a variable stands for, as a value of a kind. -/
def FieldKind.valueOfText (kind : FieldKind) (raw : String) : Value :=
  match kind with
  | .number => numberOfText raw
  | .boolean => truthOfText raw
  | .json | .array | .object => (Json.read? raw).getD (.text raw)
  | _ => .text raw

/-- The value that the environment holds for a field, if the field names a variable that is set. -/
def Definition.environmentValue (environment : List (String × String)) (d : Definition) :
    Option Value := do
  let name ← d.attributes.envVar.value?
  let raw ← environment.lookup name
  return d.kind.valueOfText raw

/-- A configuration in which one field without a value is filled from the environment. -/
def fillField (environment : List (String × String)) (config : List (String × Value))
    (name : String) (d : Definition) : List (String × Value) :=
  if ((config.lookup name).map (·.isNull)).getD true then
    match d.environmentValue environment with
    | some v => insertEntry name v config
    | none => config
  else config

/-- A configuration whose fields without a value are filled from the environment. -/
def fillFromEnvironment (fields : FieldMap) (environment : List (String × String))
    (config : List (String × Value)) : List (String × Value) :=
  fields.foldl (fun config (name, d) => fillField environment config name d) config

/-- Fields without variables leave a configuration as it is. -/
theorem fillFromEnvironment_of_no_variables {fields : FieldMap}
    (h : ∀ field ∈ fields, field.2.attributes.envVar.value? = none)
    (environment : List (String × String)) (config : List (String × Value)) :
    fillFromEnvironment fields environment config = config := by
  induction fields generalizing config with
  | nil => rfl
  | cons field rest ih =>
    have stays : fillField environment config field.1 field.2 = config := by
      have none := h field (by simp)
      simp [fillField, Definition.environmentValue, none]
    simp only [fillFromEnvironment, List.foldl_cons, stays]
    exact ih (fun other member => h other (List.mem_cons_of_mem _ member)) config

end Intake
