import Intake.JsonSchema.Published.Basic

/-!
# The schemas of schemas of December 2020

The schema of schemas is put together from those of seven vocabularies, each of which has the same
dynamic anchor, so that a schema further out takes its place.
-/

namespace Intake.JsonSchema.Draft2020

/-- A reference to the outermost schema that may take the place of this one. -/
def outermostSchema : Value := .record [("$dynamicRef", .text "#meta")]

/-- The vocabulary by which schemas name and find each other. -/
def core : Value :=
  .record
    [("$schema", .text "https://json-schema.org/draft/2020-12/schema"),
     ("$id", .text "https://json-schema.org/draft/2020-12/meta/core"),
     ("$vocabulary", .record [("https://json-schema.org/draft/2020-12/vocab/core", .bool true)]),
     ("$dynamicAnchor", .text "meta"), ("title", .text "Core vocabulary meta-schema"),
     ("type", .texts ["object", "boolean"]),
     ("properties",
      .record
        [("$id",
          .record
            [("$ref", .text "#/$defs/uriReferenceString"),
             ("$comment", .text "Non-empty fragments not allowed."),
             ("pattern", .text "^[^#]*#?$")]),
         ("$schema", refersTo "#/$defs/uriString"),
         ("$ref", refersTo "#/$defs/uriReferenceString"),
         ("$anchor", refersTo "#/$defs/anchorString"),
         ("$dynamicRef", refersTo "#/$defs/uriReferenceString"),
         ("$dynamicAnchor", refersTo "#/$defs/anchorString"),
         ("$vocabulary",
          .record
            [("type", .text "object"), ("propertyNames", refersTo "#/$defs/uriString"),
             ("additionalProperties", ofType "boolean")]),
         ("$comment", ofType "string"),
         ("$defs", .record [("type", .text "object"), ("additionalProperties", outermostSchema)])]),
     ("$defs",
      .record
        [("anchorString",
          .record [("type", .text "string"), ("pattern", .text "^[A-Za-z_][-A-Za-z0-9._]*$")]),
         ("uriString", .record [("type", .text "string"), ("format", .text "uri")]),
         ("uriReferenceString",
          .record [("type", .text "string"), ("format", .text "uri-reference")])])]

/-- The vocabulary that applies schemas to parts of a value. -/
def applicator : Value :=
  .record
    [("$schema", .text "https://json-schema.org/draft/2020-12/schema"),
     ("$id", .text "https://json-schema.org/draft/2020-12/meta/applicator"),
     ("$vocabulary",
      .record [("https://json-schema.org/draft/2020-12/vocab/applicator", .bool true)]),
     ("$dynamicAnchor", .text "meta"), ("title", .text "Applicator vocabulary meta-schema"),
     ("type", .texts ["object", "boolean"]),
     ("properties",
      .record
        [("prefixItems", refersTo "#/$defs/schemaArray"), ("items", outermostSchema),
         ("contains", outermostSchema), ("additionalProperties", outermostSchema),
         ("properties", recordOf outermostSchema),
         ("patternProperties",
          .record
            [("type", .text "object"), ("additionalProperties", outermostSchema),
             ("propertyNames", .record [("format", .text "regex")]), ("default", .record [])]),
         ("dependentSchemas", recordOf outermostSchema), ("propertyNames", outermostSchema),
         ("if", outermostSchema), ("then", outermostSchema), ("else", outermostSchema),
         ("allOf", refersTo "#/$defs/schemaArray"), ("anyOf", refersTo "#/$defs/schemaArray"),
         ("oneOf", refersTo "#/$defs/schemaArray"), ("not", outermostSchema)]),
     ("$defs", .record [("schemaArray", someOf outermostSchema)])]

/-- The vocabulary for what no other schema looks at. -/
def unevaluated : Value :=
  .record
    [("$schema", .text "https://json-schema.org/draft/2020-12/schema"),
     ("$id", .text "https://json-schema.org/draft/2020-12/meta/unevaluated"),
     ("$vocabulary",
      .record [("https://json-schema.org/draft/2020-12/vocab/unevaluated", .bool true)]),
     ("$dynamicAnchor", .text "meta"),
     ("title", .text "Unevaluated applicator vocabulary meta-schema"),
     ("type", .texts ["object", "boolean"]),
     ("properties",
      .record [("unevaluatedItems", outermostSchema), ("unevaluatedProperties", outermostSchema)])]

/-- The vocabulary of assertions. -/
def validation : Value :=
  .record
    [("$schema", .text "https://json-schema.org/draft/2020-12/schema"),
     ("$id", .text "https://json-schema.org/draft/2020-12/meta/validation"),
     ("$vocabulary",
      .record [("https://json-schema.org/draft/2020-12/vocab/validation", .bool true)]),
     ("$dynamicAnchor", .text "meta"), ("title", .text "Validation vocabulary meta-schema"),
     ("type", .texts ["object", "boolean"]),
     ("properties",
      .record
        [("type",
          anyOf
            [refersTo "#/$defs/simpleTypes",
             .record
               [("type", .text "array"), ("items", refersTo "#/$defs/simpleTypes"),
                ("minItems", .int 1), ("uniqueItems", .bool true)]]),
         ("const", .bool true),
         ("enum", .record [("type", .text "array"), ("items", .bool true)]),
         ("multipleOf", .record [("type", .text "number"), ("exclusiveMinimum", .int 0)]),
         ("maximum", ofType "number"), ("exclusiveMaximum", ofType "number"),
         ("minimum", ofType "number"), ("exclusiveMinimum", ofType "number"),
         ("maxLength", refersTo "#/$defs/nonNegativeInteger"),
         ("minLength", refersTo "#/$defs/nonNegativeIntegerDefault0"),
         ("pattern", .record [("type", .text "string"), ("format", .text "regex")]),
         ("maxItems", refersTo "#/$defs/nonNegativeInteger"),
         ("minItems", refersTo "#/$defs/nonNegativeIntegerDefault0"),
         ("uniqueItems", .record [("type", .text "boolean"), ("default", .bool false)]),
         ("maxContains", refersTo "#/$defs/nonNegativeInteger"),
         ("minContains",
          .record [("$ref", .text "#/$defs/nonNegativeInteger"), ("default", .int 1)]),
         ("maxProperties", refersTo "#/$defs/nonNegativeInteger"),
         ("minProperties", refersTo "#/$defs/nonNegativeIntegerDefault0"),
         ("required", refersTo "#/$defs/stringArray"),
         ("dependentRequired",
          .record
            [("type", .text "object"), ("additionalProperties", refersTo "#/$defs/stringArray")])]),
     ("$defs",
      .record
        [("nonNegativeInteger", .record [("type", .text "integer"), ("minimum", .int 0)]),
         ("nonNegativeIntegerDefault0",
          .record [("$ref", .text "#/$defs/nonNegativeInteger"), ("default", .int 0)]),
         ("simpleTypes", .record [("enum", typeNames)]),
         ("stringArray",
          .record
            [("type", .text "array"), ("items", ofType "string"), ("uniqueItems", .bool true),
             ("default", .list [])])])]

/-- The vocabulary of descriptions. -/
def metaData : Value :=
  .record
    [("$schema", .text "https://json-schema.org/draft/2020-12/schema"),
     ("$id", .text "https://json-schema.org/draft/2020-12/meta/meta-data"),
     ("$vocabulary",
      .record [("https://json-schema.org/draft/2020-12/vocab/meta-data", .bool true)]),
     ("$dynamicAnchor", .text "meta"), ("title", .text "Meta-data vocabulary meta-schema"),
     ("type", .texts ["object", "boolean"]),
     ("properties",
      .record
        [("title", ofType "string"), ("description", ofType "string"), ("default", .bool true),
         ("deprecated", .record [("type", .text "boolean"), ("default", .bool false)]),
         ("readOnly", .record [("type", .text "boolean"), ("default", .bool false)]),
         ("writeOnly", .record [("type", .text "boolean"), ("default", .bool false)]),
         ("examples", .record [("type", .text "array"), ("items", .bool true)])])]

/-- The vocabulary of formats that are only named. -/
def formatAnnotation : Value :=
  .record
    [("$schema", .text "https://json-schema.org/draft/2020-12/schema"),
     ("$id", .text "https://json-schema.org/draft/2020-12/meta/format-annotation"),
     ("$vocabulary",
      .record [("https://json-schema.org/draft/2020-12/vocab/format-annotation", .bool true)]),
     ("$dynamicAnchor", .text "meta"),
     ("title", .text "Format vocabulary meta-schema for annotation results"),
     ("type", .texts ["object", "boolean"]), ("properties", .record [("format", ofType "string")])]

/-- The vocabulary of formats that are checked. -/
def formatAssertion : Value :=
  .record
    [("$schema", .text "https://json-schema.org/draft/2020-12/schema"),
     ("$id", .text "https://json-schema.org/draft/2020-12/meta/format-assertion"),
     ("$vocabulary",
      .record [("https://json-schema.org/draft/2020-12/vocab/format-assertion", .bool true)]),
     ("$dynamicAnchor", .text "meta"),
     ("title", .text "Format vocabulary meta-schema for assertion results"),
     ("type", .texts ["object", "boolean"]), ("properties", .record [("format", ofType "string")])]

/-- The vocabulary of what texts hold. -/
def content : Value :=
  .record
    [("$schema", .text "https://json-schema.org/draft/2020-12/schema"),
     ("$id", .text "https://json-schema.org/draft/2020-12/meta/content"),
     ("$vocabulary", .record [("https://json-schema.org/draft/2020-12/vocab/content", .bool true)]),
     ("$dynamicAnchor", .text "meta"), ("title", .text "Content vocabulary meta-schema"),
     ("type", .texts ["object", "boolean"]),
     ("properties",
      .record
        [("contentEncoding", ofType "string"), ("contentMediaType", ofType "string"),
         ("contentSchema", outermostSchema)])]

/-- Why older keywords are still described. -/
def olderKeywordsComment : String :=
  "This meta-schema also defines keywords that have appeared in previous drafts in order " ++
    "to prevent incompatible extensions as they remain in common use."

/-- What became of an older keyword. -/
def dependenciesComment : String :=
  "\"dependencies\" has been split and replaced by \"dependentSchemas\" and " ++
    "\"dependentRequired\" in order to serve their differing semantics."

/-- The schemas of older keywords. -/
def olderKeywords : Value :=
  .record
    [("definitions",
      .record
        [("$comment", .text "\"definitions\" has been replaced by \"$defs\"."),
         ("type", .text "object"), ("additionalProperties", outermostSchema),
         ("deprecated", .bool true), ("default", .record [])]),
     ("dependencies",
      .record
        [("$comment", .text dependenciesComment), ("type", .text "object"),
         ("additionalProperties",
          anyOf [outermostSchema, refersTo "meta/validation#/$defs/stringArray"]),
         ("deprecated", .bool true), ("default", .record [])]),
     ("$recursiveAnchor",
      .record
        [("$comment", .text "\"$recursiveAnchor\" has been replaced by \"$dynamicAnchor\"."),
         ("$ref", .text "meta/core#/$defs/anchorString"), ("deprecated", .bool true)]),
     ("$recursiveRef",
      .record
        [("$comment", .text "\"$recursiveRef\" has been replaced by \"$dynamicRef\"."),
         ("$ref", .text "meta/core#/$defs/uriReferenceString"), ("deprecated", .bool true)])]

/-- The schema of schemas. -/
def document : Value :=
  .record
    [("$schema", .text "https://json-schema.org/draft/2020-12/schema"),
     ("$id", .text "https://json-schema.org/draft/2020-12/schema"),
     ("$vocabulary",
      .record
        [("https://json-schema.org/draft/2020-12/vocab/core", .bool true),
         ("https://json-schema.org/draft/2020-12/vocab/applicator", .bool true),
         ("https://json-schema.org/draft/2020-12/vocab/unevaluated", .bool true),
         ("https://json-schema.org/draft/2020-12/vocab/validation", .bool true),
         ("https://json-schema.org/draft/2020-12/vocab/meta-data", .bool true),
         ("https://json-schema.org/draft/2020-12/vocab/format-annotation", .bool true),
         ("https://json-schema.org/draft/2020-12/vocab/content", .bool true)]),
     ("$dynamicAnchor", .text "meta"),
     ("title", .text "Core and Validation specifications meta-schema"),
     ("allOf",
      .list
        [refersTo "meta/core", refersTo "meta/applicator", refersTo "meta/unevaluated",
         refersTo "meta/validation", refersTo "meta/meta-data", refersTo "meta/format-annotation",
         refersTo "meta/content"]),
     ("type", .texts ["object", "boolean"]), ("$comment", .text olderKeywordsComment),
     ("properties", olderKeywords)]

end Intake.JsonSchema.Draft2020
