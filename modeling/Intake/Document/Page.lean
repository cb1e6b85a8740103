import Intake.Document.Fragment
import Intake.Schema.Basic

/-!
# Documentation of tools

A tool is documented as an interface with three operations: to run it, to ask for its health and to
ask for its schema. The body of a request to run it is described by the fields of the tool.
-/

namespace Intake

namespace Page

/-- A record of a type only. -/
def typed (type : String) : Value := .record [("type", .text type)]

/-- A text that is one of several values. -/
def oneOf (type : String) (values : List Value) : Value :=
  .record [("type", .text type), ("enum", .list values)]

/-- A record with properties. -/
def objectOf (properties : List (String × Value)) : Value :=
  .record [("type", .text "object"), ("properties", .record properties)]

/-- A list of items. -/
def arrayOf (items : Value) : Value :=
  .record [("type", .text "array"), ("items", items)]

/-- Content in JSON that follows a schema. -/
def jsonContent (schema : Value) : Value :=
  .record [("application/json", .record [("schema", schema)])]

/-- A response with a record of properties. -/
def response (description : String) (properties : List (String × Value)) : Value :=
  .record
    [("description", .text description), ("content", jsonContent (objectOf properties))]

/-- The fields of one side as a schema. -/
def sideSchema (fields : FieldMap) : Except Failure Value := do
  let fragments ← Definition.describeFields fields
  return .record
    [("type", .text "object"), ("properties", .record fragments),
     ("required", .texts ((fields.filter fun (_, d) => d.isRequired).map (·.1)))]

/-- The fields of one side under a name, if there are any. -/
def sidePart (name : String) (fields : FieldMap) : Except Failure (List (String × Value)) :=
  if fields.isEmpty then .ok [] else (sideSchema fields).map fun schema => [(name, schema)]

/-- The body of a request to run a tool. -/
def requestSchema (schema : Schema) : Except Failure Value := do
  let input ← sidePart "input_data" schema.input
  let config ← sidePart "config" schema.config
  return .record
    [("type", .text "object"), ("properties", .record (input ++ config)),
     ("required", .texts (if schema.input.isEmpty then [] else ["input_data"]))]

/-- One fault in the response to bad data. -/
def errorItem : Value :=
  objectOf
    [("path", arrayOf (.record [("oneOf", .list [typed "string", typed "integer"])])),
     ("code", typed "string"), ("message", typed "string")]

/-- The operation that runs a tool. -/
def runOperation (request : Value) : Value :=
  .record
    [("summary", .text "Execute the tool"),
     ("requestBody", .record [("required", .bool true), ("content", jsonContent request)]),
     ("responses", .record
       [("200", response "Tool execution successful"
          [("success", typed "boolean"), ("data", typed "object"),
           ("executionTime", typed "number"), ("executionId", typed "string")]),
        ("400", response "Validation error"
          [("success", oneOf "boolean" [.bool false]), ("error", typed "string"),
           ("errors", arrayOf errorItem)])])]

/-- An operation that asks for something. -/
def askOperation (summary description : String) (properties : List (String × Value)) : Value :=
  .record
    [("get", .record
      [("summary", .text summary),
       ("responses", .record [("200", response description properties)])])]

/-- The operation that asks for the health of a tool. -/
def healthOperation : Value :=
  askOperation "Get tool health status" "Tool health information"
    [("status", oneOf "string" [.text "healthy", .text "degraded", .text "unhealthy"]),
     ("uptime", typed "number"), ("version", typed "string"), ("metrics", typed "object")]

/-- The operation that asks for the schema of a tool. -/
def schemaOperation : Value :=
  askOperation "Get tool schema documentation" "Tool schema information"
    [("metadata", typed "object"), ("schema", typed "object"), ("openapi", typed "object")]

end Page

/-- How a tool is called in its documentation. -/
structure PageTitle where
  /-- The name of the tool. -/
  name : String
  /-- What the tool is for. -/
  description : String
  /-- The version of the tool. -/
  version : String

/-- The title where none is given. -/
def PageTitle.standard : PageTitle := ⟨"Tool", "A schema-validated tool", "1.0.0"⟩

/-- The documentation of a tool. -/
def Schema.page (schema : Schema) (title : PageTitle) : Except Failure Value := do
  let request ← Page.requestSchema schema
  return .record
    [("openapi", .text "3.0.3"),
     ("info", .record
       [("title", .text title.name), ("description", .text title.description),
        ("version", .text title.version)]),
     ("paths", .record
       [("/api/execute", .record [("post", Page.runOperation request)]),
        ("/health", Page.healthOperation), ("/schema", Page.schemaOperation)])]

end Intake
