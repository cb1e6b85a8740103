import Intake.JsonSchema.Published.Basic

/-!
# The schemas of schemas of drafts 3 to 7

Each of these drafts has one schema of schemas, which refers to itself.
-/

namespace Intake.JsonSchema.Draft3

/-!
## The schema of schemas of draft 3

A type of this draft may be a schema, and properties say by themselves whether they are required.
-/

/-- The schemas of the keywords. -/
def properties : Value :=
  .record
    [("type",
      .record
        [("type", .texts ["string", "array"]),
         ("items", .record [("type", .list [.text "string", anySchema])]),
         ("uniqueItems", .bool true), ("default", .text "any")]),
     ("properties", recordOf (.record [("$ref", .text "#"), ("type", .text "object")])),
     ("patternProperties", recordOf anySchema),
     ("additionalProperties",
      .record [("type", .list [anySchema, .text "boolean"]), ("default", .record [])]),
     ("items",
      .record
        [("type", .list [anySchema, .text "array"]), ("items", anySchema),
         ("default", .record [])]),
     ("additionalItems",
      .record [("type", .list [anySchema, .text "boolean"]), ("default", .record [])]),
     ("required", .record [("type", .text "boolean"), ("default", .bool false)]),
     ("dependencies",
      recordOf
        (.record
           [("type", .list [.text "string", .text "array", anySchema]),
            ("items", ofType "string")])),
     ("minimum", ofType "number"), ("maximum", ofType "number"),
     ("exclusiveMinimum", .record [("type", .text "boolean"), ("default", .bool false)]),
     ("exclusiveMaximum", .record [("type", .text "boolean"), ("default", .bool false)]),
     ("minItems", .record [("type", .text "integer"), ("minimum", .int 0), ("default", .int 0)]),
     ("maxItems", .record [("type", .text "integer"), ("minimum", .int 0)]),
     ("uniqueItems", .record [("type", .text "boolean"), ("default", .bool false)]),
     ("pattern", .record [("type", .text "string"), ("format", .text "regex")]),
     ("minLength", .record [("type", .text "integer"), ("minimum", .int 0), ("default", .int 0)]),
     ("maxLength", ofType "integer"),
     ("enum", .record [("type", .text "array"), ("minItems", .int 1), ("uniqueItems", .bool true)]),
     ("default", ofType "any"), ("title", ofType "string"), ("description", ofType "string"),
     ("format", ofType "string"),
     ("divisibleBy",
      .record
        [("type", .text "number"), ("minimum", .int 0), ("exclusiveMinimum", .bool true),
         ("default", .int 1)]),
     ("disallow",
      .record
        [("type", .texts ["string", "array"]),
         ("items", .record [("type", .list [.text "string", anySchema])]),
         ("uniqueItems", .bool true)]),
     ("extends",
      .record
        [("type", .list [anySchema, .text "array"]), ("items", anySchema),
         ("default", .record [])]),
     ("id", ofType "string"), ("$ref", ofType "string"),
     ("$schema", .record [("type", .text "string"), ("format", .text "uri")])]

/-- The schema of schemas. -/
def document : Value :=
  .record
    [("$schema", .text "http://json-schema.org/draft-03/schema#"),
     ("id", .text "http://json-schema.org/draft-03/schema#"), ("type", .text "object"),
     ("properties", properties),
     ("dependencies",
      .record [("exclusiveMinimum", .text "minimum"), ("exclusiveMaximum", .text "maximum")]),
     ("default", .record [])]

end Intake.JsonSchema.Draft3

namespace Intake.JsonSchema.Draft4

/-!
## The schema of schemas of draft 4

Whether a limit of a number is exclusive is said beside it by a truth value.
-/

/-- The schemas that others refer to. -/
def definitions : Value :=
  .record
    [("schemaArray", someOf anySchema),
     ("positiveInteger", .record [("type", .text "integer"), ("minimum", .int 0)]),
     ("positiveIntegerDefault0",
      .record
        [("allOf",
          .list [refersTo "#/definitions/positiveInteger", .record [("default", .int 0)]])]),
     ("simpleTypes", .record [("enum", typeNames)]),
     ("stringArray",
      .record
        [("type", .text "array"), ("items", ofType "string"), ("minItems", .int 1),
         ("uniqueItems", .bool true)])]

/-- The schemas of the keywords. -/
def properties : Value :=
  .record
    [("id", ofType "string"), ("$schema", ofType "string"), ("title", ofType "string"),
     ("description", ofType "string"), ("default", .record []),
     ("multipleOf",
      .record [("type", .text "number"), ("minimum", .int 0), ("exclusiveMinimum", .bool true)]),
     ("maximum", ofType "number"), ("exclusiveMaximum", ofType "boolean"),
     ("minimum", ofType "number"), ("exclusiveMinimum", ofType "boolean"),
     ("maxLength", refersTo "#/definitions/positiveInteger"),
     ("minLength", refersTo "#/definitions/positiveIntegerDefault0"),
     ("pattern", .record [("type", .text "string"), ("format", .text "regex")]),
     ("additionalItems",
      .record [("anyOf", .list [ofType "boolean", anySchema]), ("default", .record [])]),
     ("items", .record [("anyOf", .list [anySchema, schemaList]), ("default", .record [])]),
     ("maxItems", refersTo "#/definitions/positiveInteger"),
     ("minItems", refersTo "#/definitions/positiveIntegerDefault0"),
     ("uniqueItems", .record [("type", .text "boolean"), ("default", .bool false)]),
     ("maxProperties", refersTo "#/definitions/positiveInteger"),
     ("minProperties", refersTo "#/definitions/positiveIntegerDefault0"), ("required", textList),
     ("additionalProperties",
      .record [("anyOf", .list [ofType "boolean", anySchema]), ("default", .record [])]),
     ("definitions", recordOf anySchema), ("properties", recordOf anySchema),
     ("patternProperties", recordOf anySchema),
     ("dependencies",
      .record [("type", .text "object"), ("additionalProperties", anyOf [anySchema, textList])]),
     ("enum", .record [("type", .text "array"), ("minItems", .int 1), ("uniqueItems", .bool true)]),
     ("type",
      anyOf
        [refersTo "#/definitions/simpleTypes",
         .record
           [("type", .text "array"), ("items", refersTo "#/definitions/simpleTypes"),
            ("minItems", .int 1), ("uniqueItems", .bool true)]]),
     ("format", ofType "string"), ("allOf", schemaList), ("anyOf", schemaList),
     ("oneOf", schemaList), ("not", anySchema)]

/-- The schema of schemas. -/
def document : Value :=
  .record
    [("id", .text "http://json-schema.org/draft-04/schema#"),
     ("$schema", .text "http://json-schema.org/draft-04/schema#"),
     ("description", .text "Core schema meta-schema"), ("definitions", definitions),
     ("type", .text "object"), ("properties", properties),
     ("dependencies",
      .record [("exclusiveMaximum", .texts ["maximum"]), ("exclusiveMinimum", .texts ["minimum"])]),
     ("default", .record [])]

end Intake.JsonSchema.Draft4

namespace Intake.JsonSchema.Draft6

/-!
## The schema of schemas of draft 6

Truth values are schemas from this draft on, and exclusive limits are numbers.
-/

/-- The schemas that others refer to. -/
def definitions : Value :=
  .record
    [("schemaArray", someOf anySchema),
     ("nonNegativeInteger", .record [("type", .text "integer"), ("minimum", .int 0)]),
     ("nonNegativeIntegerDefault0",
      .record
        [("allOf",
          .list [refersTo "#/definitions/nonNegativeInteger", .record [("default", .int 0)]])]),
     ("simpleTypes", .record [("enum", typeNames)]),
     ("stringArray",
      .record
        [("type", .text "array"), ("items", ofType "string"), ("uniqueItems", .bool true),
         ("default", .list [])])]

/-- The schemas of the keywords. -/
def properties : Value :=
  .record
    [("$id", .record [("type", .text "string"), ("format", .text "uri-reference")]),
     ("$schema", .record [("type", .text "string"), ("format", .text "uri")]),
     ("$ref", .record [("type", .text "string"), ("format", .text "uri-reference")]),
     ("title", ofType "string"), ("description", ofType "string"), ("default", .record []),
     ("examples", .record [("type", .text "array"), ("items", .record [])]),
     ("multipleOf", .record [("type", .text "number"), ("exclusiveMinimum", .int 0)]),
     ("maximum", ofType "number"), ("exclusiveMaximum", ofType "number"),
     ("minimum", ofType "number"), ("exclusiveMinimum", ofType "number"),
     ("maxLength", nonNegative), ("minLength", leastSize),
     ("pattern", .record [("type", .text "string"), ("format", .text "regex")]),
     ("additionalItems", anySchema),
     ("items", .record [("anyOf", .list [anySchema, schemaList]), ("default", .record [])]),
     ("maxItems", nonNegative), ("minItems", leastSize),
     ("uniqueItems", .record [("type", .text "boolean"), ("default", .bool false)]),
     ("contains", anySchema), ("maxProperties", nonNegative), ("minProperties", leastSize),
     ("required", textList), ("additionalProperties", anySchema),
     ("definitions", recordOf anySchema), ("properties", recordOf anySchema),
     ("patternProperties",
      .record
        [("type", .text "object"), ("additionalProperties", anySchema),
         ("propertyNames", .record [("format", .text "regex")]), ("default", .record [])]),
     ("dependencies",
      .record [("type", .text "object"), ("additionalProperties", anyOf [anySchema, textList])]),
     ("propertyNames", anySchema), ("const", .record []), ("enum", ofType "array"),
     ("type",
      anyOf
        [refersTo "#/definitions/simpleTypes",
         .record
           [("type", .text "array"), ("items", refersTo "#/definitions/simpleTypes"),
            ("minItems", .int 1), ("uniqueItems", .bool true)]]),
     ("format", ofType "string"), ("allOf", schemaList), ("anyOf", schemaList),
     ("oneOf", schemaList), ("not", anySchema)]

/-- The schema of schemas. -/
def document : Value :=
  .record
    [("$schema", .text "http://json-schema.org/draft-06/schema#"),
     ("$id", .text "http://json-schema.org/draft-06/schema#"),
     ("title", .text "Core schema meta-schema"), ("definitions", definitions),
     ("type", .texts ["object", "boolean"]), ("properties", properties), ("default", .record [])]

end Intake.JsonSchema.Draft6

namespace Intake.JsonSchema.Draft7

/-!
## The schema of schemas of draft 7

Truth values are schemas, and schemas may decide between others.
-/

/-- The schemas that others refer to. -/
def definitions : Value :=
  .record
    [("schemaArray", someOf anySchema),
     ("nonNegativeInteger", .record [("type", .text "integer"), ("minimum", .int 0)]),
     ("nonNegativeIntegerDefault0",
      .record
        [("allOf",
          .list [refersTo "#/definitions/nonNegativeInteger", .record [("default", .int 0)]])]),
     ("simpleTypes", .record [("enum", typeNames)]),
     ("stringArray",
      .record
        [("type", .text "array"), ("items", ofType "string"), ("uniqueItems", .bool true),
         ("default", .list [])])]

/-- The schemas of the keywords. -/
def properties : Value :=
  .record
    [("$id", .record [("type", .text "string"), ("format", .text "uri-reference")]),
     ("$schema", .record [("type", .text "string"), ("format", .text "uri")]),
     ("$ref", .record [("type", .text "string"), ("format", .text "uri-reference")]),
     ("$comment", ofType "string"), ("title", ofType "string"), ("description", ofType "string"),
     ("default", .bool true),
     ("readOnly", .record [("type", .text "boolean"), ("default", .bool false)]),
     ("examples", .record [("type", .text "array"), ("items", .bool true)]),
     ("multipleOf", .record [("type", .text "number"), ("exclusiveMinimum", .int 0)]),
     ("maximum", ofType "number"), ("exclusiveMaximum", ofType "number"),
     ("minimum", ofType "number"), ("exclusiveMinimum", ofType "number"),
     ("maxLength", nonNegative), ("minLength", leastSize),
     ("pattern", .record [("type", .text "string"), ("format", .text "regex")]),
     ("additionalItems", anySchema),
     ("items", .record [("anyOf", .list [anySchema, schemaList]), ("default", .bool true)]),
     ("maxItems", nonNegative), ("minItems", leastSize),
     ("uniqueItems", .record [("type", .text "boolean"), ("default", .bool false)]),
     ("contains", anySchema), ("maxProperties", nonNegative), ("minProperties", leastSize),
     ("required", textList), ("additionalProperties", anySchema),
     ("definitions", recordOf anySchema), ("properties", recordOf anySchema),
     ("patternProperties",
      .record
        [("type", .text "object"), ("additionalProperties", anySchema),
         ("propertyNames", .record [("format", .text "regex")]), ("default", .record [])]),
     ("dependencies",
      .record [("type", .text "object"), ("additionalProperties", anyOf [anySchema, textList])]),
     ("propertyNames", anySchema), ("const", .bool true),
     ("enum", .record [("type", .text "array"), ("items", .bool true)]),
     ("type",
      anyOf
        [refersTo "#/definitions/simpleTypes",
         .record
           [("type", .text "array"), ("items", refersTo "#/definitions/simpleTypes"),
            ("minItems", .int 1), ("uniqueItems", .bool true)]]),
     ("format", ofType "string"), ("contentMediaType", ofType "string"),
     ("contentEncoding", ofType "string"), ("if", anySchema), ("then", anySchema),
     ("else", anySchema), ("allOf", schemaList), ("anyOf", schemaList), ("oneOf", schemaList),
     ("not", anySchema)]

/-- The schema of schemas. -/
def document : Value :=
  .record
    [("$schema", .text "http://json-schema.org/draft-07/schema#"),
     ("$id", .text "http://json-schema.org/draft-07/schema#"),
     ("title", .text "Core schema meta-schema"), ("definitions", definitions),
     ("type", .texts ["object", "boolean"]), ("properties", properties), ("default", .bool true)]

end Intake.JsonSchema.Draft7
