import Intake.JsonSchema.Basic
import Intake.JsonSchema.Reference
import Intake.Pattern.Matching
import Intake.Pattern.Reader
import Intake.Value.Distinct

/-!
# Assertions of JSON Schema

The keywords that say something about a value by itself, without a schema for its parts: types,
constants, and the limits of numbers, texts, lists and records. A keyword says nothing about values
of other types than its own. A keyword whose value has not the shape it asks for fails. Main
statement: a truth value is of no type but its own.
-/

namespace Intake.JsonSchema

/-- What a keyword sees besides its own value. -/
structure Context where
  /-- Where the check stands. -/
  scope : Scope
  /-- The schema that the keyword is part of. -/
  schema : List (String × Value)
  /-- Whether formats are checked. -/
  checksFormats : Bool
  /-- Whether all that is no number in the checked value is one thing, equal to itself. -/
  sharesNaN : Bool

namespace Context

/-- The dialect that the schema follows. -/
def dialect (x : Context) : Dialect := x.scope.dialect

/-- Whether an entry of the schema counts as true. -/
def isOn (x : Context) (keyword : String) : Bool :=
  match x.schema.lookup keyword with
  | some v => v.isTruthy
  | none => false

end Context

/-- What a keyword finds for its value and the value that is checked. -/
abbrev Assertion := Context → Value → Value → Findings

/-- Whether a value has the type of a name, if there is one. Doubles without a fraction are integers
but for early dialects, and only the first dialect has a type of everything. -/
def hasNamedType? (d : Dialect) (v : Value) (name : String) : Option Bool :=
  match name with
  | "any" => if d = .draft3 then some true else none
  | "null" => some (v matches .null)
  | "boolean" => some (v matches .bool _)
  | "number" => some (v matches .number _)
  | "integer" =>
    match v with
    | .number (.int _) => some true
    | .number n => some (!d.isEarly && n.isIntegral)
    | _ => some false
  | "string" => some (v matches .text _)
  | "array" => some (v matches .list _)
  | "object" => some (v matches .record _)
  | _ => none

/-- Whether a value has a type. -/
def hasType (x : Context) (v type : Value) : Except Failure Bool :=
  let unknown : Except Failure Bool := .error (.unknownType type (.record x.schema) v)
  match type with
  | .text name =>
    match hasNamedType? x.dialect v name with
    | some answer => .ok answer
    | none => unknown
  | .list items => .error (.shape (.notKey (Value.list items).operandName))
  | .record entries => .error (.shape (.notKey (Value.record entries).operandName))
  | _ => unknown

/-- Texts that show values in full, with commas between them. -/
def listed (items : List Value) : String := ", ".intercalate (items.map (·.fullText))

/-- The members of a keyword's value, one text standing for a list of one. -/
def oneOrMembers : Value → Except ShapeFault (List Value)
  | .text name => .ok [.text name]
  | v => v.members

/-- One of the allowed types. -/
def checkType : Assertion := fun x expected part =>
  .ofExcept do
    let types ← oneOrMembers expected
    let fits ← types.anyM (hasType x part)
    return .oneIf (!fits) (part.fullText ++ " is not of type " ++ listed types)

/-- One of the enumerated values. -/
def checkEnum : Assertion := fun _ expected part =>
  .ofExcept do
    let members ← expected.members
    return .oneIf (!members.any (·.matchesJson part))
      (part.fullText ++ " is not one of " ++ expected.fullText)

/-- The constant value. -/
def checkConst : Assertion := fun _ expected part =>
  .oneIf (!part.matchesJson expected) (expected.fullText ++ " was expected")

/-- A limit of a number; `fails` says when a number is outside it. -/
def checkLimit (comparison : String) (fails : Number → Number → Bool) (words : String) :
    Assertion := fun _ expected part =>
  match part with
  | .number n =>
    .ofExcept do
      let outside ← Value.compareWith comparison fails n expected
      return .oneIf outside (part.fullText ++ words ++ expected.fullText)
  | _ => .none

/-- A least number that is excluded. -/
def checkAbove : Assertion :=
  checkLimit "<=" (fun n limit => n.atMost limit) " is less than or equal to the minimum of "

/-- A greatest number that is excluded. -/
def checkBelow : Assertion :=
  checkLimit ">=" (fun n limit => limit.atMost n) " is greater than or equal to the maximum of "

/-- A least number. Early dialects say beside it whether it is excluded. -/
def checkMinimum : Assertion := fun x =>
  if x.dialect.isEarly && x.isOn "exclusiveMinimum" then checkAbove x
  else checkLimit "<" (fun n limit => n.lessThan limit) " is less than the minimum of " x

/-- A greatest number. Early dialects say beside it whether it is excluded. -/
def checkMaximum : Assertion := fun x =>
  if x.dialect.isEarly && x.isOn "exclusiveMaximum" then checkBelow x
  else checkLimit ">" (fun n limit => limit.lessThan n) " is greater than the maximum of " x

/-- Whether the exact ratio of two numbers is whole. -/
def isWholeRatio (n factor : Number) : Except Failure Bool :=
  match n.ratio?, factor.ratio? with
  | some (a, b), some (c, d) => .ok (a * d % (b * c) == 0)
  | _, _ => .error .infiniteRatio

/-- Whether a number is a multiple of a double: if the quotient of doubles is whole, or, where that is
infinite, the exact ratio is. -/
def isMultipleOfDouble (n : Number) (factor : Binary64) : Except Failure Bool :=
  match n.toBinary64? with
  | none => .error .integerTooLarge
  | some x =>
    if factor.isZero then .error (.zeroDivision .doubleQuotient)
    else
      match x.div factor with
      | .nan => .error .notANumberToInteger
      | .infinite _ => isWholeRatio n (.float factor)
      | quotient => .ok quotient.isIntegral

/-- Whether a number is a multiple of an integer: if the remainder is zero. -/
def isMultipleOfInteger (n : Number) (factor : Int) : Except Failure Bool :=
  match n with
  | .int k =>
    if factor = 0 then .error (.zeroDivision .integerRemainder) else .ok (k % factor == 0)
  | .float x =>
    match (Number.int factor).toBinary64? with
    | none => .error .integerTooLarge
    | some d =>
      if factor = 0 then .error (.zeroDivision .doubleRemainder)
      else if x.isFinite then isWholeRatio n (.float d)
      else .ok false

/-- Whether a number is a multiple of a value, for which truth values count as numbers. -/
def isMultiple (n : Number) (factor : Value) : Except Failure Bool :=
  match factor.counted? with
  | some (.float d) => isMultipleOfDouble n d
  | some (.int m) => isMultipleOfInteger n m
  | none => .error (.shape (.notNumbers "%" (Value.number n).operandName factor.operandName))

/-- A multiple of a number. -/
def checkMultiple : Assertion := fun _ expected part =>
  match part with
  | .number n =>
    .ofExcept do
      let multiple ← isMultiple n expected
      return .oneIf (!multiple)
        (part.fullText ++ " is not a multiple of " ++ expected.fullText)
  | _ => .none

/-- The size that a keyword limits: the length of a text or list, or the number of entries. -/
def sizeAs (type : String) : Value → Option Nat
  | .text s => if type = "string" then some s.length else none
  | .list items => if type = "array" then some items.length else none
  | .record entries => if type = "object" then some entries.length else none
  | _ => none

/-- A least size; one has words of its own. -/
def checkLeast (type words : String) : Assertion := fun _ expected part =>
  match sizeAs type part with
  | some size =>
    .ofExcept do
      let short ← Value.compareWith "<" Number.lessThan (.int size) expected
      return .oneIf short
        (part.fullText ++
          if expected.countsAs (.int 1) then " should be non-empty" else words)
  | none => .none

/-- A greatest size; zero has words of its own. -/
def checkMost (type words : String) : Assertion := fun _ expected part =>
  match sizeAs type part with
  | some size =>
    .ofExcept do
      let long ← Value.compareWith ">" (fun n limit => limit.lessThan n) (.int size) expected
      return .oneIf long
        (part.fullText ++
          if expected.countsAs (.int 0) then " is expected to be empty" else words)
  | none => .none

/-- Whether a pattern is found in a text. -/
def isFound (pattern text : String) : Except Failure Bool :=
  match Pattern.read pattern with
  | .ok p =>
    match p.searchIn text with
    | .found => .ok true
    | .absent => .ok false
    | .crossed => .error .crossedGroup
  | .error e => .error (.ofPatternError pattern e)

/-- Whether a value is a pattern that is found in a text. -/
def isFoundAs (pattern : Value) (text : String) : Except Failure Bool :=
  match pattern with
  | .text pattern => isFound pattern text
  | .list items => .error (.shape (.notKey (Value.list items).operandName))
  | .record entries => .error (.shape (.notKey (Value.record entries).operandName))
  | _ => .error (.shape .notPattern)

/-- A pattern that is found in a text. -/
def checkPattern : Assertion := fun _ expected part =>
  match part with
  | .text s =>
    .ofExcept do
      let found ← isFoundAs expected s
      return .oneIf (!found) (part.fullText ++ " does not match " ++ expected.fullText)
  | _ => .none

/-- Items that differ from each other. -/
def checkUnique : Assertion := fun x expected part =>
  match part with
  | .list items =>
    .oneIf (expected.isTruthy && !Value.areDistinct x.sharesNaN items)
      (part.fullText ++ " has non-unique elements")
  | _ => .none

/-- Entries that must be there, for a reason in words. -/
def checkPresent (words : String) (entries : List (String × Value)) (names : List Value) :
    Findings :=
  .each (fun name : Value =>
    .ofExcept do
      let present ← name.isKeyOf entries
      return .oneIf (!present) (name.fullText ++ words)) names

/-- Entries that must be there. -/
def checkRequired : Assertion := fun _ expected part =>
  match part with
  | .record entries =>
    .ofExcept do
      let names ← expected.members
      return checkPresent " is a required property" entries names
  | _ => .none

/-- Entries that must be there beside another. -/
def checkDependents (name : String) (needed : Value) (entries : List (String × Value)) :
    Findings :=
  .ofExcept do
    let names ← needed.members
    return checkPresent (" is a dependency of " ++ quoteText name) entries names

/-- Entries that must be there if others are. -/
def checkDependentRequired : Assertion := fun _ expected part =>
  match part with
  | .record entries =>
    .ofExcept do
      let rules ← expected.entries
      return .each (fun rule : String × Value =>
        if (entries.lookup rule.1).isNone then .none
        else checkDependents rule.1 rule.2 entries) rules
  | _ => .none

/-- A text that is a pattern, where the keyword names that format and formats are checked; other
formats say nothing. -/
def checkFormat : Assertion := fun x expected part =>
  match x.checksFormats, expected, part with
  | true, .text "regex", .text s =>
    match Pattern.read s with
    | .ok _ => .none
    | .error (.malformed _ _) =>
      .one (part.fullText ++ " is not a " ++ expected.fullText)
    | .error e => .failed (.ofPatternError s e)
  | _, _, _ => .none

/-- The assertion that a keyword makes. -/
def assertion? (keyword : String) : Option Assertion :=
  match keyword with
  | "type" => some checkType
  | "enum" => some checkEnum
  | "const" => some checkConst
  | "minimum" => some checkMinimum
  | "maximum" => some checkMaximum
  | "exclusiveMinimum" => some checkAbove
  | "exclusiveMaximum" => some checkBelow
  | "multipleOf" | "divisibleBy" => some checkMultiple
  | "minLength" => some (checkLeast "string" " is too short")
  | "maxLength" => some (checkMost "string" " is too long")
  | "minItems" => some (checkLeast "array" " is too short")
  | "maxItems" => some (checkMost "array" " is too long")
  | "minProperties" => some (checkLeast "object" " does not have enough properties")
  | "maxProperties" => some (checkMost "object" " has too many properties")
  | "pattern" => some checkPattern
  | "format" => some checkFormat
  | "uniqueItems" => some checkUnique
  | "required" => some checkRequired
  | "dependentRequired" => some checkDependentRequired
  | _ => none

/-- A truth value is of no type but its own and that of everything. -/
theorem hasNamedType?_bool {d : Dialect} {b : Bool} {name : String}
    (h : hasNamedType? d (.bool b) name = some true) : name = "boolean" ∨ name = "any" := by
  unfold hasNamedType? at h
  split at h <;> simp_all

end Intake.JsonSchema
