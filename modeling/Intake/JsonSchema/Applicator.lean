import Intake.JsonSchema.Assertion

/-!
# Keywords that apply schemas

Keywords apply schemas to the items of a list, to the entries of a record, or to the value itself.
What they find in a part is told with the way to that part. Main statement: what the schema that
allows nothing refuses is told of the whole.
-/

namespace Intake.JsonSchema

/-- What checks are made with. -/
structure Checker where
  /-- What references find. -/
  library : Library
  /-- What is found in a value by a schema, once it is known where the check stands. -/
  findings : Scope → Value → Value → Findings
  /-- The indices of the items that a schema looks at, by the rules of a dialect. -/
  seenItems : Dialect → Scope → Value → List Value → Except Failure (List Nat)
  /-- The keys of the entries that a schema looks at, by the rules of a dialect. -/
  seenKeys : Dialect → Scope → Value → List (String × Value) → Except Failure (List String)

/-- What a keyword that applies schemas finds. -/
abbrev Applicator := Checker → Context → Value → Value → Findings

namespace Checker

/-- Goes into a schema that stands directly in another and checks a value by it. -/
def descend (c : Checker) (scope : Scope) (schema part : Value) : Findings :=
  match schema with
  | .bool _ => c.findings scope schema part
  | _ =>
    .ofExcept do
      let inner ← scope.entering schema
      return c.findings inner schema part

/-- Checks a part of a value. What a truth value refuses is told of the whole. -/
def descendTo (c : Checker) (scope : Scope) (segment : PathSegment) (schema part : Value) :
    Findings :=
  match schema with
  | .bool _ => c.descend scope schema part
  | _ => (c.descend scope schema part).under segment

/-- Whether a value violates nothing in a schema, which is not gone into: a name that it gives itself
does not count. -/
def accepts (c : Checker) (scope : Scope) (schema part : Value) : Except Failure Bool := do
  let dialect ← scope.dialect.within schema
  (c.findings { scope with dialect := dialect } schema part).isValid

/-- What the schema that allows nothing refuses is told of the whole. -/
theorem descendTo_bool (c : Checker) (scope : Scope) (segment : PathSegment) (b : Bool)
    (part : Value) :
    c.descendTo scope segment (.bool b) part = c.findings scope (.bool b) part := rfl

end Checker

/-- Checks items, counted from an index on, all by one schema. -/
def checkItemsFrom (c : Checker) (x : Context) (schema : Value) (start : Nat)
    (values : List Value) : Findings :=
  .each (fun item : Value × Nat => c.descendTo x.scope (.index item.2) schema item.1)
    (values.zipIdx start)

/-- Checks items each by a schema of its own, as far as both go. -/
def checkTuple (c : Checker) (x : Context) (schemas values : List Value) : Findings :=
  .each (fun pair : Value × Value × Nat =>
      c.descendTo x.scope (.index pair.2.2) pair.1 pair.2.1)
    (schemas.zip values.zipIdx)

/-- The text for things of which one or several were not expected. -/
def unexpected (things : List Value) : String :=
  " (" ++ listed things ++ (if things.length = 1 then " was" else " were") ++ " unexpected)"

/-- A word that is said of one thing or of several. -/
def itemWord (count : Nat) : String := if count = 1 then "item" else "items"

/-- A number of things in words. -/
def countText (count : Nat) : String := String.ofList (naturalText count)

/-- The items of a list that follow those with schemas of their own. -/
def checkRest : Applicator := fun c x expected part =>
  match part with
  | .list values =>
    .ofExcept do
      let before ← ((x.schema.lookup "prefixItems").getD (.list [])).length
      let rest := values.drop before
      match expected, rest with
      | _, [] => return .none
      | .bool false, first :: more =>
        let shown := if more.isEmpty then first else .list rest
        return .one
          ("Expected at most " ++ countText before ++ " " ++ itemWord before ++ " but found " ++
            countText rest.length ++ " extra: " ++ shown.fullText)
      | schema, rest => return checkItemsFrom c x schema before rest
  | _ => .none

/-- The items of a list by one schema, or one by one by several. In early dialects only a record is
one schema. -/
def checkItems : Applicator := fun c x expected part =>
  match part with
  | .list values =>
    if x.dialect.isEarly && !Dialect.isRecord expected then
      .ofExcept do
        let schemas ← expected.members
        return checkTuple c x schemas values
    else
      match expected with
      | .list schemas => checkTuple c x schemas values
      | schema => checkItemsFrom c x schema 0 values
  | _ => .none

/-- The items of a list that have schemas of their own. -/
def checkPrefixItems : Applicator := fun c x expected part =>
  match part with
  | .list values =>
    .ofExcept do
      let schemas ← expected.members
      return checkTuple c x schemas values
  | _ => .none

/-- The items beyond those that have schemas of their own. -/
def checkAdditionalItems : Applicator := fun c x expected part =>
  match part with
  | .list values =>
    if Dialect.isRecord ((x.schema.lookup "items").getD (.record [])) then .none
    else
      .ofExcept do
        let before ← ((x.schema.lookup "items").getD (.list [])).length
        let extra := values.drop before
        match expected with
        | .record _ => return checkItemsFrom c x expected before extra
        | _ =>
          return .oneIf (!expected.isTruthy && !extra.isEmpty)
            ("Additional items are not allowed" ++ unexpected extra)
  | _ => .none

/-- Some item of a list. -/
def checkSome : Applicator := fun c x expected part =>
  match part with
  | .list values =>
    .ofExcept do
      let found ← values.anyM (c.accepts x.scope expected)
      return .oneIf (!found)
        ("None of " ++ part.fullText ++ " are valid under the given schema")
  | _ => .none

/-- How many items a schema accepts; none if they are more than a limit. -/
def countAccepted (accepts : Value → Except Failure Bool) (limit : Value) (count : Nat) :
    List Value → Except Failure (Option Nat)
  | [] => .ok (some count)
  | item :: rest => do
    if ← accepts item then
      let tooMany ← Value.compareWith ">" (fun n most => most.lessThan n) (.int (count + 1)) limit
      if tooMany then return none else countAccepted accepts limit (count + 1) rest
    else countAccepted accepts limit count rest

/-- A number of items of a list between two limits, which stand beside the schema. -/
def checkCounted : Applicator := fun c x expected part =>
  match part with
  | .list values =>
    .ofExcept do
      let least := (x.schema.lookup "minContains").getD (.int 1)
      let most := (x.schema.lookup "maxContains").getD (.int values.length)
      let dialect ← x.dialect.within expected
      match ← countAccepted (c.accepts { x.scope with dialect := dialect } expected) most 0 values
        with
      | none =>
        return .one
          ("Too many items match the given schema (expected at most " ++ most.plainText ++ ")")
      | some count =>
        if !(← Value.compareWith "<" Number.lessThan (.int count) least) then return .none
        else if count = 0 then
          return .one (part.fullText ++ " does not contain items matching the given schema")
        else
          return .one
            ("Too few items match the given schema (expected at least " ++ least.plainText ++
              " but only " ++ countText count ++ " matched)")
  | _ => .none

/-- The items of a list of which some have to match a schema. -/
def checkContains : Applicator := fun c x =>
  if x.dialect.isLate then checkCounted c x else checkSome c x

/-- The entries of a record that have schemas. In the first dialect a schema may say that its entry
has to be there. -/
def checkProperties : Applicator := fun c x expected part =>
  match part with
  | .record entries =>
    .ofExcept do
      let schemas ← expected.entries
      return .each (fun rule : String × Value =>
        match entries.lookup rule.1 with
        | some value => c.descendTo x.scope (.key rule.1) rule.2 value
        | none =>
          if x.dialect = .draft3 then
            .ofExcept do
              let required := (← rule.2.valueAt? "required").elim false Value.isTruthy
              return (Findings.oneIf required
                (quoteText rule.1 ++ " is a required property")).under (.key "required")
          else .none) schemas
  | _ => .none

/-- The entries of a record whose keys have a pattern. -/
def checkPatternProperties : Applicator := fun c x expected part =>
  match part with
  | .record entries =>
    .ofExcept do
      let schemas ← expected.entries
      return .each (fun rule : String × Value =>
        .each (fun entry : String × Value =>
          .ofExcept do
            if ← isFound rule.1 entry.1 then
              return c.descendTo x.scope (.key entry.1) rule.2 entry.2
            else return .none) entries) schemas
  | _ => .none

/-- The keys of a record, as texts. -/
def checkPropertyNames : Applicator := fun c x expected part =>
  match part with
  | .record entries =>
    .each (fun entry : String × Value => c.descend x.scope expected (.text entry.1)) entries
  | _ => .none

/-- The keys of a record that neither have schemas nor match one of the patterns. -/
def additionalKeys (schema entries : List (String × Value)) : Except Failure (List String) := do
  let declared := (schema.lookup "properties").getD (.record [])
  let patterns ← ((schema.lookup "patternProperties").getD (.record [])).joinedBy "|"
  (entries.map fun entry => entry.1).filterM fun key => do
    if ← declared.hasMember key then return false
    else if patterns.isEmpty then return true
    else return !(← isFound patterns key)

/-- Texts in order. -/
def inOrder (names : List String) : List String := names.mergeSort fun a b => !(b < a)

/-- The text of a value that is one. -/
def textOf? : Value → Option String
  | .text s => some s
  | _ => none

/-- The entries of a record that have no schema and match no pattern. -/
def checkAdditionalProperties : Applicator := fun c x expected part =>
  match part with
  | .record entries =>
    .ofExcept do
      let extra ← additionalKeys x.schema entries
      match expected with
      | .record _ =>
        return .each (fun key : String =>
          c.descendTo x.scope (.key key) expected ((entries.lookup key).getD .null)) extra
      | _ =>
        let names := (inOrder extra).map .text
        if expected.isTruthy || extra.isEmpty then return .none
        match x.schema.lookup "patternProperties" with
        | some patterns =>
          let patterns := inOrder ((← patterns.members).filterMap textOf?)
          return .one
            (listed names ++ (if extra.length = 1 then " does" else " do") ++
              " not match any of the regexes: " ++ listed (patterns.map .text))
        | none => return .one ("Additional properties are not allowed" ++ unexpected names)
  | _ => .none

/-- What the presence of an entry asks for: a schema, or other entries. In the first dialect a text
names one entry, and only a record is a schema; later only a list names entries. -/
def checkDependency (c : Checker) (x : Context) (name : String) (rule part : Value)
    (entries : List (String × Value)) : Findings :=
  match x.dialect, rule with
  | .draft3, .record _ => c.descend x.scope rule part
  | .draft3, .text key => checkDependents name (.list [.text key]) entries
  | .draft3, _ | _, .list _ => checkDependents name rule entries
  | _, _ => c.descend x.scope rule part

/-- What the presence of entries asks for. -/
def checkDependencies : Applicator := fun c x expected part =>
  match part with
  | .record entries =>
    .ofExcept do
      let rules ← expected.entries
      return .each (fun rule : String × Value =>
        if (entries.lookup rule.1).isNone then .none
        else checkDependency c x rule.1 rule.2 part entries) rules
  | _ => .none

/-- Schemas that the presence of entries asks for. -/
def checkDependentSchemas : Applicator := fun c x expected part =>
  match part with
  | .record entries =>
    .ofExcept do
      let rules ← expected.entries
      return .each (fun rule : String × Value =>
        if (entries.lookup rule.1).isNone then .none
        else c.descend x.scope rule.2 part) rules
  | _ => .none

/-- All of several schemas. -/
def checkAllOf : Applicator := fun c x expected part =>
  .ofExcept do
    let schemas ← expected.members
    return .each (c.descend x.scope · part) schemas

/-- All of several schemas, or the only one. -/
def checkExtends : Applicator := fun c x expected part =>
  match expected with
  | .record _ => c.descend x.scope expected part
  | _ => checkAllOf c x expected part

/-- The first of several schemas that a value violates nothing in, with those after it. All findings
of a schema count, so a failure ends the search. -/
def firstAccepted (c : Checker) (scope : Scope) (part : Value) :
    List Value → Except Failure (Option (Value × List Value))
  | [] => .ok none
  | schema :: rest => do
    let violations ← (c.descend scope schema part).violations
    if violations.isEmpty then return some (schema, rest) else firstAccepted c scope part rest

/-- The text for a value that no schema accepts. -/
def acceptedByNone (part : Value) : Findings :=
  .one (part.fullText ++ " is not valid under any of the given schemas")

/-- At least one of several schemas. -/
def checkAnyOf : Applicator := fun c x expected part =>
  .ofExcept do
    let schemas ← expected.members
    match ← firstAccepted c x.scope part schemas with
    | some _ => return .none
    | none => return acceptedByNone part

/-- Exactly one of several schemas. -/
def checkOneOf : Applicator := fun c x expected part =>
  .ofExcept do
    let schemas ← expected.members
    match ← firstAccepted c x.scope part schemas with
    | none => return acceptedByNone part
    | some (first, rest) =>
      let more ← rest.filterM (c.accepts x.scope · part)
      return .oneIf (!more.isEmpty)
        (part.fullText ++ " is valid under each of " ++ listed (more ++ [first]))

/-- A schema that must not accept a value. -/
def checkNot : Applicator := fun c x expected part =>
  .ofExcept do
    let accepted ← c.accepts x.scope expected part
    return .oneIf accepted
      (part.fullText ++ " should not be valid under " ++ expected.fullText)

/-- A schema that decides which of two others applies. -/
def checkIf : Applicator := fun c x expected part =>
  .ofExcept do
    let accepted ← c.accepts x.scope expected part
    match x.schema.lookup (if accepted then "then" else "else") with
    | some branch => return c.descend x.scope branch part
    | none => return .none

/-- Whether a value has one of several types, of which records are schemas. -/
def hasTypeOrMatches (c : Checker) (x : Context) (part : Value) : List Value → Except Failure Bool
  | [] => .ok false
  | type :: rest =>
    match type with
    | .text "any" => .ok true
    | .record _ => do
      let violations ← (c.descend x.scope type part).violations
      if violations.isEmpty then return true else hasTypeOrMatches c x part rest
    | _ => do
      if ← hasType x part type then return true else hasTypeOrMatches c x part rest

/-- A type as a message shows it: a schema by its name, if it has one. -/
def shownType (type : Value) : Value :=
  match type with
  | .record entries => (entries.lookup "name").getD type
  | _ => type

/-- One of the allowed types. In the first dialect a type may be a schema. -/
def checkTypeOrSchema : Applicator := fun c x expected part =>
  if x.dialect = .draft3 then
    .ofExcept do
      let types ← oneOrMembers expected
      let fits ← hasTypeOrMatches c x part types
      return .oneIf (!fits)
        (part.fullText ++ " is not of type " ++ listed (types.map shownType))
  else checkType x expected part

/-- None of several types. -/
def checkDisallow : Applicator := fun c x expected part =>
  .ofExcept do
    let types ← oneOrMembers expected
    return .each (fun type : Value =>
      .ofExcept do
        let accepted ← c.accepts x.scope (.record [("type", .list [type])]) part
        return .oneIf accepted
          (type.fullText ++ " is disallowed for " ++ part.fullText)) types

/-- The schema that a reference leads to. -/
def checkReference : Applicator := fun c x expected part =>
  .ofExcept do
    let target ← c.library.resolveValue x.scope expected
    return c.findings target.scope target.contents part

/-- The schema that a recursive reference leads to. -/
def checkRecursiveReference : Applicator := fun c x _ part =>
  .ofExcept do
    let target ← (c.library.resolveRecursive x.scope).mapError Failure.loosened
    return c.findings target.scope target.contents part

/-- The items of a list that no other keyword looks at. -/
def checkUnevaluatedItems : Applicator := fun c x _ part =>
  match part with
  | .list values =>
    .ofExcept do
      let seen ← c.seenItems x.dialect x.scope (.record x.schema) values
      let unseen := (values.zipIdx.filter fun item => !seen.contains item.2).map (·.1)
      return .oneIf (!unseen.isEmpty) ("Unevaluated items are not allowed" ++ unexpected unseen)
  | _ => .none

/-- The keys of entries once for every violation in the entry. -/
def violatedKeys (c : Checker) (x : Context) (schema : Value) :
    List (String × Value) → Except Failure (List String)
  | [] => .ok []
  | (key, value) :: rest => do
    let violations ← (c.descendTo x.scope (.key key) schema value).violations
    let after ← violatedKeys c x schema rest
    return List.replicate violations.length key ++ after

/-- The entries of a record that no other keyword looks at. -/
def checkUnevaluatedProperties : Applicator := fun c x expected part =>
  match part with
  | .record entries =>
    .ofExcept do
      let seen ← c.seenKeys x.dialect x.scope (.record x.schema) entries
      let unseen ← violatedKeys c x expected (entries.filter fun entry => !seen.contains entry.1)
      match unseen, expected with
      | [], _ => return .none
      | _, .bool false =>
        return .one
          ("Unevaluated properties are not allowed" ++ unexpected ((inOrder unseen).map .text))
      | _, _ =>
        return .one
          ("Unevaluated properties are not valid under the given schema" ++
            unexpected (unseen.map .text))
  | _ => .none

/-- What a keyword that applies schemas, or one of its dialect's variants, does. -/
def applicator? (d : Dialect) (keyword : String) : Option Applicator :=
  match keyword with
  | "$ref" | "$dynamicRef" => some checkReference
  | "$recursiveRef" => some checkRecursiveReference
  | "type" => some checkTypeOrSchema
  | "items" => some (if d = .draft2020 then checkRest else checkItems)
  | "prefixItems" => some checkPrefixItems
  | "additionalItems" => some checkAdditionalItems
  | "contains" => some checkContains
  | "properties" => some checkProperties
  | "patternProperties" => some checkPatternProperties
  | "propertyNames" => some checkPropertyNames
  | "additionalProperties" => some checkAdditionalProperties
  | "dependencies" => some checkDependencies
  | "dependentSchemas" => some checkDependentSchemas
  | "allOf" => some checkAllOf
  | "anyOf" => some checkAnyOf
  | "oneOf" => some checkOneOf
  | "not" => some checkNot
  | "if" => some checkIf
  | "extends" => some checkExtends
  | "disallow" => some checkDisallow
  | "unevaluatedItems" => some checkUnevaluatedItems
  | "unevaluatedProperties" => some checkUnevaluatedProperties
  | _ => none

end Intake.JsonSchema
