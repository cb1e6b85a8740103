import Intake.JsonSchema.Applicator

/-!
# What schemas look at

Two keywords are about the items and entries that no other keyword of a schema looks at. A schema
looks at parts of a value by its own keywords and by those of the schemas that it applies to the value
as a whole, where they accept it. Main statement: a truth value looks at nothing.
-/

namespace Intake.JsonSchema

namespace Checker

/-- What is seen by the schemas that references of a schema lead to. The dialect of September 2019
has recursive references, the one after it dynamic ones. -/
def seenThroughReferences {α : Type} (c : Checker) (rules : Dialect) (scope : Scope)
    (schema : Value) (see : Scope → Value → Except Failure (List α)) :
    Except Failure (List α) := do
  let follow (target : Target) : Except Failure (List α) := do
    let dialect ← target.scope.dialect.within target.contents
    see { target.scope with dialect := dialect } target.contents
  let followValue (reference : Option Value) : Except Failure (List α) :=
    match reference with
    | none | some .null => .ok []
    | some reference => do
      follow (← (c.library.resolveValue scope reference).mapError Failure.loosened)
  let first ← followValue (← schema.valueAt? "$ref")
  if rules = .draft2020 then
    return first ++ (← followValue (← schema.valueAt? "$dynamicRef"))
  else if ← schema.hasMember "$recursiveRef" then
    return first ++
      (← follow (← (c.library.resolveRecursive scope).mapError Failure.loosened))
  else return first

/-- What is seen by a schema that decides between two others and by the one it decides for. -/
def seenConditionally {α : Type} (c : Checker) (scope : Scope) (entries : List (String × Value))
    (part : Value) (see : Value → Except Failure (List α)) : Except Failure (List α) := do
  match entries.lookup "if" with
  | none => return []
  | some condition =>
    if ← c.accepts scope condition part then
      let first ← see condition
      match entries.lookup "then" with
      | some branch => return first ++ (← see branch)
      | none => return first
    else
      match entries.lookup "else" with
      | some branch => see branch
      | none => return []

/-- What is seen by those of several schemas that accept a value. -/
def seenByAccepting {α : Type} (c : Checker) (scope : Scope) (part : Value)
    (see : Value → Except Failure (List α)) : List Value → Except Failure (List α)
  | [] => .ok []
  | schema :: rest => do
    let first ← if ← (c.descend scope schema part).isValid then see schema else .ok []
    return first ++ (← seenByAccepting c scope part see rest)

/-- What is seen by the schemas of lists that accept a value. -/
def seenByListed {α : Type} (c : Checker) (scope : Scope) (entries : List (String × Value))
    (part : Value) (see : Value → Except Failure (List α)) : Except Failure (List α) := do
  let seen ← ["allOf", "oneOf", "anyOf"].mapM fun keyword => do
    let schemas ← ((entries.lookup keyword).getD (.list [])).members
    c.seenByAccepting scope part see schemas
  return seen.flatten

/-- The items at the start that have schemas of their own. -/
def seenAtStart (keyword : String) (entries : List (String × Value)) :
    Except Failure (List Nat) := do
  match entries.lookup keyword with
  | some schemas => return List.range (← schemas.length)
  | none => return []

/-- Whether a schema of September 2019 looks at all items: it has one schema for them, or also one for
those after the first ones. -/
def seesAllItems (entries : List (String × Value)) : Bool :=
  match entries.lookup "items" with
  | some schemas => (entries.lookup "additionalItems").isSome || Dialect.isRecord schemas
  | none => false

/-- The items that a schema beside others accepts. -/
def acceptedItems (c : Checker) (scope : Scope) (entries : List (String × Value))
    (values : List Value) : Except Failure (List Nat) := do
  let seen ← ["contains", "unevaluatedItems"].mapM fun keyword =>
    match entries.lookup keyword with
    | none => .ok []
    | some schema =>
      values.zipIdx.filterM fun item => c.accepts scope schema item.1
  return seen.flatten.map (·.2)

/-- The indices of the items that a schema looks at. -/
def itemsSeen (c : Checker) (rules : Dialect) (scope : Scope) (schema : Value)
    (values : List Value) : Except Failure (List Nat) := do
  if schema.isBool then return []
  let isNew := rules = .draft2020
  if isNew then
    if ← schema.hasMember "items" then return List.range values.length
  let referred ← c.seenThroughReferences rules scope schema fun scope other =>
    c.seenItems rules scope other values
  let entries ← schema.entries
  if !isNew && seesAllItems entries then return List.range values.length
  let start ← seenAtStart (if isNew then "prefixItems" else "items") entries
  let inside := fun other => c.seenItems rules scope other values
  let conditional ← c.seenConditionally scope entries (.list values) inside
  let accepted ← c.acceptedItems scope entries values
  let listed ← c.seenByListed scope entries (.list values) inside
  return referred ++ start ++ conditional ++ accepted ++ listed

/-- The keys of a record that keywords of a schema name, or all of them: by the rules of September
2019 a truth value stands for all. -/
def keysNamed (entries parts : List (String × Value)) : List String :=
  ["properties", "additionalProperties", "unevaluatedProperties"].flatMap fun keyword =>
    match entries.lookup keyword with
    | some (.bool true) => parts.map fun part => part.1
    | some (.record schemas) =>
      (schemas.map fun rule => rule.1).filter fun key => (parts.lookup key).isSome
    | _ => []

/-- The keys of a record for which a schema has schemas, and those whose values a schema for the rest
accepts. -/
def keysAccepted (c : Checker) (scope : Scope) (entries parts : List (String × Value)) :
    Except Failure (List String) := do
  let declared :=
    match entries.lookup "properties" with
    | some (.record schemas) =>
      (schemas.map fun rule => rule.1).filter fun key => (parts.lookup key).isSome
    | _ => []
  let rest ← ["additionalProperties", "unevaluatedProperties"].mapM fun keyword =>
    match Dialect.valueOf? entries keyword with
    | none => .ok []
    | some schema => parts.filterM fun part => (c.descend scope schema part.2).isValid
  return declared ++ rest.flatten.map fun part => part.1

/-- The keys of a record that match the pattern of a schema. -/
def keysMatched (entries parts : List (String × Value)) : Except Failure (List String) := do
  match entries.lookup "patternProperties" with
  | none => return []
  | some patterns =>
    (parts.map fun part => part.1).filterM fun key => do
      let found ← (← patterns.members).filterM fun pattern => isFoundAs pattern key
      return !found.isEmpty

/-- What is seen by the schemas that the presence of entries asks for. -/
def keysDependent (entries parts : List (String × Value))
    (see : Value → Except Failure (List String)) : Except Failure (List String) := do
  match entries.lookup "dependentSchemas" with
  | none => return []
  | some rules =>
    let rules ← rules.entries
    let seen ← (rules.filter fun rule => (parts.lookup rule.1).isSome).mapM fun rule => see rule.2
    return seen.flatten

/-- The keys of the entries that a schema looks at. -/
def keysSeen (c : Checker) (rules : Dialect) (scope : Scope) (schema : Value)
    (parts : List (String × Value)) : Except Failure (List String) := do
  if schema.isBool then return []
  let inside := fun other => c.seenKeys rules scope other parts
  let referred ← c.seenThroughReferences rules scope schema fun scope other =>
    c.seenKeys rules scope other parts
  let entries ← schema.entries
  let own ←
    if rules = .draft2020 then c.keysAccepted scope entries parts
    else .ok (keysNamed entries parts)
  let matched ← keysMatched entries parts
  let dependent ← keysDependent entries parts inside
  let listed ← c.seenByListed scope entries (.record parts) inside
  let conditional ← c.seenConditionally scope entries (.record parts) inside
  return referred ++ own ++ matched ++ dependent ++ listed ++ conditional

/-- A truth value looks at no item. -/
theorem itemsSeen_bool (c : Checker) (rules : Dialect) (scope : Scope) (b : Bool)
    (values : List Value) : c.itemsSeen rules scope (.bool b) values = .ok [] := rfl

end Checker

end Intake.JsonSchema
