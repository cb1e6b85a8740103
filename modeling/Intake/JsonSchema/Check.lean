import Intake.JsonSchema.Seen

/-!
# Checking a value against a JSON Schema

Keywords are taken in the order in which the schema lists them, each if the dialect of the schema has
it. Keywords that apply schemas call the check again; references may lead back, so schemas are
applied inside each other only to a depth that no check needs whose references do not lead in a
circle at one value. Main statement: the schema that allows everything finds nothing.
-/

namespace Intake.JsonSchema

namespace Dialect

/-- The keywords that all dialects have. -/
def commonKeywords : List String :=
  ["$ref", "additionalProperties", "enum", "format", "items", "maxItems", "maxLength", "maximum",
   "minItems", "minLength", "minimum", "pattern", "patternProperties", "properties", "type",
   "uniqueItems"]

/-- The keywords that all dialects but the first have. -/
def combiningKeywords : List String :=
  ["allOf", "anyOf", "maxProperties", "minProperties", "multipleOf", "not", "oneOf", "required"]

/-- The keywords that came with draft 6. -/
def newerKeywords : List String :=
  ["const", "contains", "exclusiveMaximum", "exclusiveMinimum", "propertyNames"]

/-- The keywords that came with the last two dialects. -/
def lateKeywords : List String :=
  ["dependentRequired", "dependentSchemas", "if", "unevaluatedItems", "unevaluatedProperties"]

/-- The keywords of a dialect that say something about a value. -/
def keywords : Dialect → List String
  | .draft3 =>
    commonKeywords ++ ["additionalItems", "dependencies", "disallow", "divisibleBy", "extends"]
  | .draft4 => commonKeywords ++ combiningKeywords ++ ["additionalItems", "dependencies"]
  | .draft6 =>
    commonKeywords ++ combiningKeywords ++ newerKeywords ++ ["additionalItems", "dependencies"]
  | .draft7 =>
    commonKeywords ++ combiningKeywords ++ newerKeywords ++
      ["additionalItems", "dependencies", "if"]
  | .draft2019 =>
    commonKeywords ++ combiningKeywords ++ newerKeywords ++ lateKeywords ++
      ["$recursiveRef", "additionalItems"]
  | .draft2020 =>
    commonKeywords ++ combiningKeywords ++ newerKeywords ++ lateKeywords ++
      ["$dynamicRef", "prefixItems"]

end Dialect

/-- What a keyword finds; one that the dialect does not have finds nothing. -/
def checkKeyword (c : Checker) (x : Context) (keyword : String) (expected part : Value) :
    Findings :=
  if !x.dialect.keywords.contains keyword then .none
  else
    match applicator? x.dialect keyword with
    | some apply => apply c x expected part
    | none =>
      match assertion? keyword with
      | some assert => assert x expected part
      | none => .none

/-- How a value is checked. -/
structure Options where
  /-- Whether formats are checked. -/
  checksFormats : Bool
  /-- Whether all that is no number in the value is one thing, equal to itself. -/
  sharesNaN : Bool

/-- What is found in a value by a schema whose dialect the scope has. Which keywords count is said by
a dialect that may be another one. -/
def findingsBy (c : Checker) (options : Options) (reader : Dialect) (scope : Scope)
    (schema part : Value) : Findings :=
  match schema with
  | .bool true => .none
  | .bool false => .one ("False schema does not allow " ++ part.fullText)
  | _ =>
    .ofExcept do
      let counting ← reader.applicable schema
      let entries ← schema.entries
      let x : Context := ⟨scope, entries, options.checksFormats, options.sharesNaN⟩
      return .each (fun entry : String × Value => checkKeyword c x entry.1 entry.2 part) counting

/-- What is found in a value by a schema. The keywords that count are those of the dialect around the
schema, and what they mean is said by its own dialect. -/
def findingsOf (c : Checker) (options : Options) (scope : Scope) (schema part : Value) :
    Findings :=
  .ofExcept do
    let dialect ← scope.dialect.within schema
    return findingsBy c options scope.dialect { scope with dialect := dialect } schema part

/-- What checks are made with if schemas are applied inside each other to a depth. -/
def Checker.within (library : Library) (options : Options) : Nat → Checker
  | 0 =>
    ⟨library, fun _ _ _ => .failed .endless, fun _ _ _ _ => .error .endless,
      fun _ _ _ _ => .error .endless⟩
  | depth + 1 =>
    ⟨library,
      fun scope schema part =>
        findingsOf (Checker.within library options depth) options scope schema part,
      fun rules scope schema values =>
        (Checker.within library options depth).itemsSeen rules scope schema values,
      fun rules scope schema parts =>
        (Checker.within library options depth).keysSeen rules scope schema parts⟩

/-- How deep schemas are applied inside each other. -/
def depthLimit : Nat := 1000

/-- Checks a value against a schema of draft 7, whatever dialect the schema says. -/
def check (schema : Value) (options : Options) (v : Value) : Findings :=
  .ofExcept do
    let library ← Library.of ⟨.draft7, schema⟩
    let scope : Scope := ⟨.draft7, library.address, [], false⟩
    return findingsBy (Checker.within library options depthLimit) options .draft7 scope schema v

/-- What is wrong with a schema, if it is malformed: its first violation of the schema of schemas,
formats included. -/
def fault? (schema : Value) : Except Failure (Option String) :=
  match check Dialect.draft7.metaSchema ⟨true, false⟩ schema with
  | .none => .ok none
  | .failed failure => .error failure
  | .found first _ => .ok (some first.message)

/-- The violations of a value, all of them; a failure leaves none. -/
def violations (schema : Value) (sharesNaN : Bool) (v : Value) :
    Except Failure (List Violation) :=
  (check schema ⟨false, sharesNaN⟩ v).violations

/-- The schema that allows everything finds nothing. -/
theorem check_true (options : Options) (v : Value) : check (.bool true) options v = .none := rfl

end Intake.JsonSchema
