import Intake.Value.Basic

/-!
# Parts of published schemas

Schemas that the published schemas of schemas have in common: references, single types, lists and
records of schemas. Main statement: a reference has one entry.
-/

namespace Intake.JsonSchema

/-- A schema that refers to another. -/
def refersTo (reference : String) : Value := .record [("$ref", .text reference)]

/-- A schema that allows one type. -/
def ofType (type : String) : Value := .record [("type", .text type)]

/-- A schema that accepts what one of several accepts. -/
def anyOf (schemas : List Value) : Value := .record [("anyOf", .list schemas)]

/-- The schema of a schema. -/
def anySchema : Value := refersTo "#"

/-- The schema of a record whose entries have a schema. -/
def recordOf (schema : Value) : Value :=
  .record [("type", .text "object"), ("additionalProperties", schema), ("default", .record [])]

/-- The schema of a list of at least one item, whose items have a schema. -/
def someOf (schema : Value) : Value :=
  .record [("type", .text "array"), ("minItems", .int 1), ("items", schema)]

/-- The schema of a size. -/
def nonNegative : Value := refersTo "#/definitions/nonNegativeInteger"

/-- The schema of a least size. -/
def leastSize : Value := refersTo "#/definitions/nonNegativeIntegerDefault0"

/-- The schema of a list of schemas. -/
def schemaList : Value := refersTo "#/definitions/schemaArray"

/-- The schema of a list of different texts. -/
def textList : Value := refersTo "#/definitions/stringArray"

/-- The names of the types. -/
def typeNames : Value :=
  .texts ["array", "boolean", "integer", "null", "number", "object", "string"]

/-- A reference has one entry. -/
theorem refersTo_get? (reference : String) :
    (refersTo reference).get? "$ref" = some (.text reference) := rfl

end Intake.JsonSchema
