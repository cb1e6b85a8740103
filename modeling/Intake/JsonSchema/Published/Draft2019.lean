import Intake.JsonSchema.Published.Basic

/-!
# The schemas of schemas of September 2019

The schema of schemas is put together from those of six vocabularies, each of which lets a schema
further out take its place.
-/

namespace Intake.JsonSchema.Draft2019

/-- A reference to the outermost schema that may take the place of this one. -/
def outermostSchema : Value := .record [("$recursiveRef", .text "#")]

/-- The vocabulary by which schemas name and find each other. -/
def core : Value :=
  .record
    [("$schema", .text "https://json-schema.org/draft/2019-09/schema"),
     ("$id", .text "https://json-schema.org/draft/2019-09/meta/core"),
     ("$vocabulary", .record [("https://json-schema.org/draft/2019-09/vocab/core", .bool true)]),
     ("$recursiveAnchor", .bool true), ("title", .text "Core vocabulary meta-schema"),
     ("type", .texts ["object", "boolean"]),
     ("properties",
      .record
        [("$id",
          .record
            [("type", .text "string"), ("format", .text "uri-reference"),
             ("$comment", .text "Non-empty fragments not allowed."),
             ("pattern", .text "^[^#]*#?$")]),
         ("$schema", .record [("type", .text "string"), ("format", .text "uri")]),
         ("$anchor",
          .record [("type", .text "string"), ("pattern", .text "^[A-Za-z][-A-Za-z0-9.:_]*$")]),
         ("$ref", .record [("type", .text "string"), ("format", .text "uri-reference")]),
         ("$recursiveRef", .record [("type", .text "string"), ("format", .text "uri-reference")]),
         ("$recursiveAnchor", .record [("type", .text "boolean"), ("default", .bool false)]),
         ("$vocabulary",
          .record
            [("type", .text "object"),
             ("propertyNames", .record [("type", .text "string"), ("format", .text "uri")]),
             ("additionalProperties", ofType "boolean")]),
         ("$comment", ofType "string"), ("$defs", recordOf outermostSchema)])]

/-- The vocabulary that applies schemas to parts of a value. -/
def applicator : Value :=
  .record
    [("$schema", .text "https://json-schema.org/draft/2019-09/schema"),
     ("$id", .text "https://json-schema.org/draft/2019-09/meta/applicator"),
     ("$vocabulary",
      .record [("https://json-schema.org/draft/2019-09/vocab/applicator", .bool true)]),
     ("$recursiveAnchor", .bool true), ("title", .text "Applicator vocabulary meta-schema"),
     ("type", .texts ["object", "boolean"]),
     ("properties",
      .record
        [("additionalItems", outermostSchema), ("unevaluatedItems", outermostSchema),
         ("items", anyOf [outermostSchema, refersTo "#/$defs/schemaArray"]),
         ("contains", outermostSchema), ("additionalProperties", outermostSchema),
         ("unevaluatedProperties", outermostSchema), ("properties", recordOf outermostSchema),
         ("patternProperties",
          .record
            [("type", .text "object"), ("additionalProperties", outermostSchema),
             ("propertyNames", .record [("format", .text "regex")]), ("default", .record [])]),
         ("dependentSchemas",
          .record [("type", .text "object"), ("additionalProperties", outermostSchema)]),
         ("propertyNames", outermostSchema), ("if", outermostSchema), ("then", outermostSchema),
         ("else", outermostSchema), ("allOf", refersTo "#/$defs/schemaArray"),
         ("anyOf", refersTo "#/$defs/schemaArray"), ("oneOf", refersTo "#/$defs/schemaArray"),
         ("not", outermostSchema)]),
     ("$defs", .record [("schemaArray", someOf outermostSchema)])]

/-- The vocabulary of assertions. -/
def validation : Value :=
  .record
    [("$schema", .text "https://json-schema.org/draft/2019-09/schema"),
     ("$id", .text "https://json-schema.org/draft/2019-09/meta/validation"),
     ("$vocabulary",
      .record [("https://json-schema.org/draft/2019-09/vocab/validation", .bool true)]),
     ("$recursiveAnchor", .bool true), ("title", .text "Validation vocabulary meta-schema"),
     ("type", .texts ["object", "boolean"]),
     ("properties",
      .record
        [("multipleOf", .record [("type", .text "number"), ("exclusiveMinimum", .int 0)]),
         ("maximum", ofType "number"), ("exclusiveMaximum", ofType "number"),
         ("minimum", ofType "number"), ("exclusiveMinimum", ofType "number"),
         ("maxLength", refersTo "#/$defs/nonNegativeInteger"),
         ("minLength", refersTo "#/$defs/nonNegativeIntegerDefault0"),
         ("pattern", .record [("type", .text "string"), ("format", .text "regex")]),
         ("maxItems", refersTo "#/$defs/nonNegativeInteger"),
         ("minItems", refersTo "#/$defs/nonNegativeIntegerDefault0"),
         ("uniqueItems", .record [("type", .text "boolean"), ("default", .bool false)]),
         ("maxContains", refersTo "#/$defs/nonNegativeInteger"),
         ("minContains",
          .record [("$ref", .text "#/$defs/nonNegativeInteger"), ("default", .int 1)]),
         ("maxProperties", refersTo "#/$defs/nonNegativeInteger"),
         ("minProperties", refersTo "#/$defs/nonNegativeIntegerDefault0"),
         ("required", refersTo "#/$defs/stringArray"),
         ("dependentRequired",
          .record
            [("type", .text "object"), ("additionalProperties", refersTo "#/$defs/stringArray")]),
         ("const", .bool true),
         ("enum", .record [("type", .text "array"), ("items", .bool true)]),
         ("type",
          anyOf
            [refersTo "#/$defs/simpleTypes",
             .record
               [("type", .text "array"), ("items", refersTo "#/$defs/simpleTypes"),
                ("minItems", .int 1), ("uniqueItems", .bool true)]])]),
     ("$defs",
      .record
        [("nonNegativeInteger", .record [("type", .text "integer"), ("minimum", .int 0)]),
         ("nonNegativeIntegerDefault0",
          .record [("$ref", .text "#/$defs/nonNegativeInteger"), ("default", .int 0)]),
         ("simpleTypes", .record [("enum", typeNames)]),
         ("stringArray",
          .record
            [("type", .text "array"), ("items", ofType "string"), ("uniqueItems", .bool true),
             ("default", .list [])])])]

/-- The vocabulary of descriptions. -/
def metaData : Value :=
  .record
    [("$schema", .text "https://json-schema.org/draft/2019-09/schema"),
     ("$id", .text "https://json-schema.org/draft/2019-09/meta/meta-data"),
     ("$vocabulary",
      .record [("https://json-schema.org/draft/2019-09/vocab/meta-data", .bool true)]),
     ("$recursiveAnchor", .bool true), ("title", .text "Meta-data vocabulary meta-schema"),
     ("type", .texts ["object", "boolean"]),
     ("properties",
      .record
        [("title", ofType "string"), ("description", ofType "string"), ("default", .bool true),
         ("deprecated", .record [("type", .text "boolean"), ("default", .bool false)]),
         ("readOnly", .record [("type", .text "boolean"), ("default", .bool false)]),
         ("writeOnly", .record [("type", .text "boolean"), ("default", .bool false)]),
         ("examples", .record [("type", .text "array"), ("items", .bool true)])])]

/-- The vocabulary of formats. -/
def format : Value :=
  .record
    [("$schema", .text "https://json-schema.org/draft/2019-09/schema"),
     ("$id", .text "https://json-schema.org/draft/2019-09/meta/format"),
     ("$vocabulary", .record [("https://json-schema.org/draft/2019-09/vocab/format", .bool true)]),
     ("$recursiveAnchor", .bool true), ("title", .text "Format vocabulary meta-schema"),
     ("type", .texts ["object", "boolean"]), ("properties", .record [("format", ofType "string")])]

/-- The vocabulary of what texts hold. -/
def content : Value :=
  .record
    [("$schema", .text "https://json-schema.org/draft/2019-09/schema"),
     ("$id", .text "https://json-schema.org/draft/2019-09/meta/content"),
     ("$vocabulary", .record [("https://json-schema.org/draft/2019-09/vocab/content", .bool true)]),
     ("$recursiveAnchor", .bool true), ("title", .text "Content vocabulary meta-schema"),
     ("type", .texts ["object", "boolean"]),
     ("properties",
      .record
        [("contentMediaType", ofType "string"), ("contentEncoding", ofType "string"),
         ("contentSchema", outermostSchema)])]

/-- Why an older keyword is still described. -/
def definitionsComment : String :=
  "While no longer an official keyword as it is replaced by $defs, this keyword is " ++
    "retained in the meta-schema to prevent incompatible extensions as it remains in " ++
    "common use."

/-- Why another older keyword is still described. -/
def dependenciesComment : String :=
  "\"dependencies\" is no longer a keyword, but schema authors should avoid redefining " ++
    "it to facilitate a smooth transition to \"dependentSchemas\" and " ++
    "\"dependentRequired\""

/-- The schema of schemas. -/
def document : Value :=
  .record
    [("$schema", .text "https://json-schema.org/draft/2019-09/schema"),
     ("$id", .text "https://json-schema.org/draft/2019-09/schema"),
     ("$vocabulary",
      .record
        [("https://json-schema.org/draft/2019-09/vocab/core", .bool true),
         ("https://json-schema.org/draft/2019-09/vocab/applicator", .bool true),
         ("https://json-schema.org/draft/2019-09/vocab/validation", .bool true),
         ("https://json-schema.org/draft/2019-09/vocab/meta-data", .bool true),
         ("https://json-schema.org/draft/2019-09/vocab/format", .bool false),
         ("https://json-schema.org/draft/2019-09/vocab/content", .bool true)]),
     ("$recursiveAnchor", .bool true),
     ("title", .text "Core and Validation specifications meta-schema"),
     ("allOf",
      .list
        [refersTo "meta/core", refersTo "meta/applicator", refersTo "meta/validation",
         refersTo "meta/meta-data", refersTo "meta/format", refersTo "meta/content"]),
     ("type", .texts ["object", "boolean"]),
     ("properties",
      .record
        [("definitions",
          .record
            [("$comment", .text definitionsComment), ("type", .text "object"),
             ("additionalProperties", outermostSchema), ("default", .record [])]),
         ("dependencies",
          .record
            [("$comment", .text dependenciesComment), ("type", .text "object"),
             ("additionalProperties",
              anyOf [outermostSchema, refersTo "meta/validation#/$defs/stringArray"])])])]

end Intake.JsonSchema.Draft2019
