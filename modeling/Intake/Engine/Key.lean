import Intake.Digest.Blake2b
import Intake.Field.Wire
import Intake.Json.Writer
import Intake.Schema.Basic
import Intake.Validation.Options

/-!
# Keys of validators

A validator is known by the name of its side and by digests of its fields and its options. The order
of the fields is part of what is digested, as it decides the order of issues; the order of
attributes is not.
-/

namespace Intake

/-- The digest of the structure of a value, whatever the order of entries. -/
def structuralDigest (v : Value) : String := digestText (Json.canonicalText v)

/-- What a validator is known by. -/
structure ValidatorKey where
  /-- The name of the side. -/
  name : String
  /-- The digest of the fields. -/
  fields : String
  /-- The digest of the options. -/
  options : String
  deriving DecidableEq

/-- Fields as a value that shows all they declare, and their order. -/
def FieldMap.outline (fields : FieldMap) : Value :=
  .record
    [("order", .texts (fields.map (·.1))),
     ("fields", .record (fields.map fun (name, d) => (name, d.plain)))]

/-- The key of fields under options. -/
def ValidatorKey.of (name : String) (fields : FieldMap) (options : Options) : ValidatorKey :=
  ⟨name, structuralDigest (FieldMap.outline fields), structuralDigest options.written⟩

end Intake
