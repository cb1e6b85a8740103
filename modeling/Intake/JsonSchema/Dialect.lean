import Intake.Failure
import Intake.Uri.Basic

/-!
# Dialects of JSON Schema

JSON Schema has been published in drafts, which differ in their keywords, in how a schema names
itself and its parts, and in which of its values are schemas in turn. A schema may say by an entry
which draft it follows; otherwise it follows the one of the schema around it. Main statement: a truth
value follows the dialect around it.
-/

namespace Intake.JsonSchema

/-- A published draft. -/
inductive Dialect where
  /-- Draft 3. -/
  | draft3
  /-- Draft 4. -/
  | draft4
  /-- Draft 6. -/
  | draft6
  /-- Draft 7. -/
  | draft7
  /-- The draft of September 2019. -/
  | draft2019
  /-- The draft of December 2020. -/
  | draft2020
  deriving DecidableEq

namespace Dialect

/-- All dialects. -/
def all : List Dialect := [.draft3, .draft4, .draft6, .draft7, .draft2019, .draft2020]

/-- The address of the schema of a dialect's schemas. -/
def address : Dialect → String
  | .draft3 => "http://json-schema.org/draft-03/schema"
  | .draft4 => "http://json-schema.org/draft-04/schema"
  | .draft6 => "http://json-schema.org/draft-06/schema"
  | .draft7 => "http://json-schema.org/draft-07/schema"
  | .draft2019 => "https://json-schema.org/draft/2019-09/schema"
  | .draft2020 => "https://json-schema.org/draft/2020-12/schema"

/-- The dialect of an address. -/
def ofAddress? (address : String) : Option Dialect := all.find? (·.address == address)

/-- A dialect is found by its address. -/
theorem ofAddress?_address (d : Dialect) : ofAddress? d.address = some d := by
  cases d <;> decide

/-- Whether a dialect is one of the first two, in which truth values are no schemas. -/
def isEarly : Dialect → Bool
  | .draft3 | .draft4 => true
  | _ => false

/-- Whether a dialect is one of the last two, in which a reference does not hide the keywords beside
it. -/
def isLate : Dialect → Bool
  | .draft2019 | .draft2020 => true
  | _ => false

/-- A text without the number signs at its end. -/
def withoutMark (s : String) : String :=
  String.ofList (s.toList.reverse.dropWhile (· == '#')).reverse

/-- The dialect that an address names, written in whatever way, if it is the address of one. -/
def ofReference? (reference : String) : Except Failure (Option Dialect) := do
  let uri ← Uri.read [] reference.toList
  return ofAddress? (String.ofList uri.text)

/-- The dialect that the entry for it says, if it says one. -/
def ofSaid? : Value → Except Failure (Option Dialect)
  | .text reference => ofReference? reference
  | .list items => .error (.shape (.notKey (Value.list items).operandName))
  | .record entries => .error (.shape (.notKey (Value.record entries).operandName))
  | v =>
    if v.isTruthy then .error (.shape (.noMethod v.operandName "decode")) else .ok none

/-- The dialect that a schema follows inside a schema of a given one. -/
def within (around : Dialect) (schema : Value) : Except Failure Dialect :=
  match schema with
  | .bool _ => .ok around
  | _ => do
    if !(← schema.hasMember "$schema") then return around
    let entry ← schema.named "$schema"
    return (← ofSaid? entry).getD around

/-- The keywords of a schema that count: in early dialects a reference hides the others. -/
def applicable (d : Dialect) (schema : Value) : Except Failure (List (String × Value)) := do
  if d.isLate then schema.entries
  else
    match ← schema.valueAt? "$ref" with
    | none | some .null => schema.entries
    | some reference => return [("$ref", reference)]

/-- The key under which a schema names itself. -/
def nameKey (d : Dialect) : String := if d.isEarly then "id" else "$id"

/-- Whether a name is a fragment, which starts with a number sign. -/
def isFragment (name : String) : Bool := name.toList.head? = some '#'

/-- A name that is a text, which is asked for one of its methods. -/
def nameText (method : String) : Value → Except Failure String
  | .text name => .ok name
  | v => .error (.shape (.noMethod v.operandName method))

/-- The reference by which a schema names itself as a document. Before the last two dialects a
schema that is a reference has no name, and a name that is a fragment names only a part. -/
def documentName? (d : Dialect) (schema : Value) : Except Failure (Option String) := do
  if schema.isBool && !d.isEarly then return none
  if d.isLate then
    match ← schema.valueAt? d.nameKey with
    | none | some .null => return none
    | some name => return some (withoutMark (← nameText "rstrip" name))
  else if ← schema.hasMember "$ref" then return none
  else
    match ← schema.valueAt? d.nameKey with
    | none | some .null => return none
    | some name =>
      let name ← nameText "startswith" name
      if isFragment name then return none
      return some (withoutMark name)

/-- A name that a schema gives to itself as a part of its document. -/
structure Anchor where
  /-- The name. -/
  name : String
  /-- Whether a schema further out may take its place. -/
  isDynamic : Bool

/-- The anchor that an entry for it gives; a list or a record cannot be the key of one. -/
def anchorOf (isDynamic : Bool) : Option Value → Except Failure (List Anchor)
  | some (.text name) => .ok [⟨name, isDynamic⟩]
  | some (.list items) => .error (.shape (.notKey (Value.list items).operandName))
  | some (.record entries) => .error (.shape (.notKey (Value.record entries).operandName))
  | _ => .ok []

/-- The names that a schema gives to itself as a part of its document. -/
def anchors (d : Dialect) (schema : Value) : Except Failure (List Anchor) := do
  if schema.isBool && !d.isEarly then return []
  match d with
  | .draft2020 =>
    let anchor ← anchorOf false (← schema.valueAt? "$anchor")
    let dynamic ← anchorOf true (← schema.valueAt? "$dynamicAnchor")
    return anchor ++ dynamic
  | .draft2019 => anchorOf false (← schema.valueAt? "$anchor")
  | _ =>
    match ← schema.valueAt? d.nameKey with
    | none => return []
    | some name =>
      let name ← nameText "startswith" name
      return if isFragment name then [⟨String.ofList name.toList.tail, false⟩] else []

/-- A truth value follows the dialect around it. -/
theorem within_bool (around : Dialect) (b : Bool) : around.within (.bool b) = .ok around := rfl

end Dialect

end Intake.JsonSchema
