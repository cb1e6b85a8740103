import Intake.JsonSchema.Dialect
import Intake.Value.Path

/-!
# Where schemas stand inside schemas

A keyword may hold a schema, a list of schemas or a record of them, each dialect having its own. Two
keywords are of two kinds: items may have one schema or a list of them, and an entry may depend on a
schema or on a list of names. Main statement: a truth value has no schemas inside.
-/

namespace Intake.JsonSchema

/-- Keywords by how they hold schemas. -/
structure Places where
  /-- Keywords that hold a schema. -/
  single : List String
  /-- Keywords that hold a schema or a truth value that is none. -/
  optional : List String
  /-- Keywords that hold a list of schemas. -/
  listed : List String
  /-- Keywords that hold a record of schemas. -/
  keyed : List String

namespace Dialect

/-- The keywords that hold schemas in a dialect, but for those of two kinds. -/
def places : Dialect → Places
  | .draft3 =>
    ⟨[], ["additionalItems", "additionalProperties"], ["extends"],
      ["definitions", "patternProperties", "properties"]⟩
  | .draft4 =>
    ⟨["not"], ["additionalItems", "additionalProperties"], ["allOf", "anyOf", "oneOf"],
      ["definitions", "patternProperties", "properties"]⟩
  | .draft6 =>
    ⟨["additionalItems", "additionalProperties", "contains", "not", "propertyNames"], [],
      ["allOf", "anyOf", "oneOf"], ["definitions", "patternProperties", "properties"]⟩
  | .draft7 =>
    ⟨["additionalItems", "additionalProperties", "contains", "else", "if", "not", "propertyNames",
      "then"], [], ["allOf", "anyOf", "oneOf"],
      ["definitions", "patternProperties", "properties"]⟩
  | .draft2019 =>
    ⟨["additionalItems", "additionalProperties", "contains", "contentSchema", "else", "if", "not",
      "propertyNames", "then", "unevaluatedItems", "unevaluatedProperties"], [],
      ["allOf", "anyOf", "oneOf"],
      ["$defs", "definitions", "dependentSchemas", "patternProperties", "properties"]⟩
  | .draft2020 =>
    ⟨["additionalProperties", "contains", "contentSchema", "else", "if", "items", "not",
      "propertyNames", "then", "unevaluatedItems", "unevaluatedProperties"], [],
      ["allOf", "anyOf", "oneOf", "prefixItems"],
      ["$defs", "definitions", "dependentSchemas", "patternProperties", "properties"]⟩

/-- The keywords of two kinds. -/
def ambiguousKeywords : Dialect → List String
  | .draft2019 => ["items"]
  | .draft2020 => []
  | _ => ["items", "dependencies"]

/-- The schemas of the items: of each, if they are listed. -/
def itemSchemas : Value → List Value
  | .list schemas => schemas
  | .text s => Value.characters s
  | schema => [schema]

/-- The schemas that entries depend on. The first one tells whether there are any. -/
def dependencySchemas (dependencies : Value) : Except Failure (List Value) := do
  match ← dependencies.parts with
  | .record first :: rest => return .record first :: rest
  | _ => return []

/-- The value of a keyword, if a schema has it and it is not null. -/
def valueOf? (schema : List (String × Value)) (keyword : String) : Option Value :=
  match schema.lookup keyword with
  | some .null => none
  | found => found

/-- The schemas of the keywords of two kinds. -/
def ambiguousSchemas (d : Dialect) (schema : List (String × Value)) :
    Except Failure (List Value) := do
  let items :=
    if d.ambiguousKeywords.contains "items" then
      (valueOf? schema "items").elim [] itemSchemas
    else []
  let dependencies ←
    if d.ambiguousKeywords.contains "dependencies" then
      (valueOf? schema "dependencies").elim (.ok []) dependencySchemas
    else .ok []
  return items ++ dependencies

/-- Whether a value is a record. -/
def isRecord : Value → Bool
  | .record _ => true
  | _ => false

/-- The schemas that stand directly in a schema. -/
def subschemas (d : Dialect) (schema : Value) : Except Failure (List Value) :=
  match schema with
  | .record entries => do
    let places := d.places
    let single := places.single.filterMap (entries.lookup ·)
    let listed ← (places.listed.filterMap (entries.lookup ·)).mapM (·.members)
    let keyed ← (places.keyed.filterMap (entries.lookup ·)).mapM (·.parts)
    let ambiguous ← ambiguousSchemas d entries
    let optional := (places.optional.filterMap (entries.lookup ·)).filter isRecord
    return single ++ listed.flatten ++ keyed.flatten ++ ambiguous ++ optional
  | _ => .ok []

/-- Whether a path leads through schemas only and ends at one, a given value. Keywords of two kinds
hold a schema themselves if that value is a record. -/
def leadsToSchema (d : Dialect) (v : Value) : DataPath → Bool
  | [] => true
  | .key name :: rest =>
    if d.ambiguousKeywords.contains name && isRecord v then true
    else if d.places.single.contains name || d.places.optional.contains name then
      leadsToSchema d v rest
    else if d.places.listed.contains name || d.places.keyed.contains name then
      match rest with
      | [] => false
      | _ :: more => leadsToSchema d v more
    else false
  | .index _ :: _ => false

/-- A truth value has no schemas inside. -/
theorem subschemas_bool (d : Dialect) (b : Bool) : d.subschemas (.bool b) = .ok [] := rfl

end Dialect

end Intake.JsonSchema
