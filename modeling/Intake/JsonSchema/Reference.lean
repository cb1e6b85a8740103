import Intake.JsonSchema.Library
import Intake.Text.Percent

/-!
# Following references

A reference is resolved against the address of the schema it stands in. Its fragment is nothing for
the whole document, a pointer of keys and indices that starts with a slash, or the name of a part.
On its way a pointer passes schemas that may name themselves, which changes the address that later
references are resolved against. Main statement: the empty fragment leads to the whole of a document.
-/

namespace Intake.JsonSchema

/-- Where a check stands: what the schema at hand inherits from the schemas around it. -/
structure Scope where
  /-- The dialect that the schema follows. -/
  dialect : Dialect
  /-- The address that references are resolved against. -/
  address : String
  /-- The addresses that references led away from, the last one first. -/
  left : List String
  /-- Whether a reference has needed the whole catalogue. -/
  whole : Bool

/-- What a reference leads to. -/
structure Target where
  /-- The schema. -/
  contents : Value
  /-- Where a check of it stands. -/
  scope : Scope

namespace Scope

/-- The scope of a schema that may name itself, by the rules of a dialect; none if it does not. -/
def renamed? (scope : Scope) (dialect : Dialect) (schema : Value) :
    Except Failure (Option Scope) := do
  match ← dialect.documentName? schema with
  | none => return none
  | some name => return some { scope with address := ← Document.addressFrom scope.address name }

/-- The scope inside a schema that stands directly in another. -/
def entering (scope : Scope) (schema : Value) : Except Failure Scope := do
  return (← scope.renamed? scope.dialect schema).getD scope

/-- The scope at an address that a reference leads to. The address before is remembered, but not one
after the other if it stays the same. -/
def movedTo (scope : Scope) (address : String) (whole : Bool) : Scope :=
  let left :=
    if scope.address ≠ "" && (scope.left.isEmpty || address != scope.address) then
      scope.address :: scope.left
    else scope.left
  { scope with address := address, left := left, whole := whole }

end Scope

/-- A segment of a pointer as the key it stands for. -/
def unescapeSegment : List Char → List Char
  | '~' :: '1' :: rest => '/' :: unescapeSegment rest
  | '~' :: '0' :: rest => '~' :: unescapeSegment rest
  | c :: rest => c :: unescapeSegment rest
  | [] => []

/-- The index that a segment of a pointer stands for. -/
def segmentIndex (segment : List Char) : Except Failure Int :=
  let text := String.ofList segment
  match looseDigits? text with
  | none => .error (.notAnIndex text)
  | some (negative, digits) =>
    if maxIntegerDigits < digits.length then .error (.tooManyDigits digits.length)
    else .ok (if negative then -(ofDigits digits : Int) else ofDigits digits)

/-- The step that a segment of a pointer is in a value, and what it leads to, if to anything. -/
def stepInto (v : Value) (segment : List Char) : Except Failure (PathSegment × Option Value) :=
  match v with
  | .list items => do
    let i ← segmentIndex segment
    return (.index i, Value.memberAt? items i)
  | .text s => do
    let i ← segmentIndex segment
    return (.index i, Value.memberAt? (Value.characters s) i)
  | .record entries =>
    let key := String.ofList (unescapeSegment segment)
    .ok (.key key, entries.lookup key)
  | v => .error (.shape (.noParts v.operandName))

/-- Follows the segments of a pointer in a document from a value on. The path since the last schema
that named itself tells whether a value is a schema. -/
def follow (d : Document) (pointer : String) :
    List (List Char) → DataPath → Value → Scope → Except Failure Target
  | [], _, v, scope => .ok ⟨v, scope⟩
  | segment :: rest, path, v, scope => do
    match ← stepInto v segment with
    | (_, none) => .error (.reference (.nowhere pointer d.contents))
    | (step, some part) =>
      let path := path ++ [step]
      if d.dialect.leadsToSchema part path then
        match ← scope.renamed? d.dialect part with
        | some scope => follow d pointer rest [] part scope
        | none => follow d pointer rest path part scope
      else follow d pointer rest path part scope

namespace Library

/-- The document at an address that a reference leads to, and whether it took the whole catalogue to
find it. -/
def find (library : Library) (scope : Scope) (reference address : String) :
    Except Failure (Document × Bool) := do
  match (← library.catalogue scope.whole).document? address with
  | some document => return (document, scope.whole)
  | none =>
    match (← library.whole).document? address with
    | some document => return (document, true)
    | none => .error (.reference (.unresolvable reference))

/-- The part of a name in the document at an address, and whether it took the whole catalogue to find
it. The document may have another name than its address. -/
def findPart (library : Library) (whole : Bool) (address name : String) :
    Except Failure (NamedPart × Bool) := do
  let catalogue ← library.catalogue whole
  match catalogue.part? address name with
  | some part => return (part, whole)
  | none =>
    let inside ← library.whole
    match inside.part? address name with
    | some part => return (part, true)
    | none =>
      match catalogue.document? address with
      | none => .error (.unknownDocument address)
      | some document =>
        match (← document.name?).bind (inside.part? · name) with
        | some part => return (part, true)
        | none =>
          if name.toList.contains '/' then .error (.reference (.invalidAnchor name))
          else .error (.reference (.unknownAnchor name document.contents))

/-- The part that takes the place of a dynamic one: the dynamic part of the same name in the document
furthest out that has one. -/
def outermost (library : Library) (whole : Bool) (name : String) :
    Document → List String → Except Failure Document
  | last, [] => .ok last
  | last, address :: rest =>
    match library.findPart whole address name with
    | .ok (part, _) =>
      outermost library whole name (if part.isDynamic then part.document else last) rest
    | .error (.reference (.unknownAnchor _ _)) => outermost library whole name last rest
    | .error failure => .error failure

/-- The address and the fragment of a reference. -/
def split (scope : Scope) (reference : String) : Except Failure (String × List Char) := do
  match reference.toList with
  | '#' :: fragment => return (scope.address, fragment)
  | _ =>
    let resolved ← Document.addressFrom scope.address reference
    let (address, fragment) ← Uri.withoutFragment resolved.toList
    return (String.ofList address, fragment)

/-- What a reference leads to. -/
def resolve (library : Library) (scope : Scope) (reference : String) : Except Failure Target := do
  let (address, fragment) ← split scope reference
  let (document, whole) ← library.find scope reference address
  match fragment with
  | [] => return ⟨document.contents, scope.movedTo address whole⟩
  | '/' :: pointer =>
    follow document (String.ofList ('/' :: pointer)) (splitParts '/' (percentDecode pointer)) []
      document.contents (scope.movedTo address whole)
  | name =>
    let name := String.ofList name
    let (part, whole) ← library.findPart whole address name
    let scope := scope.movedTo address whole
    if part.isDynamic then
      let found ← library.outermost whole name part.document scope.left
      let renamed ← scope.renamed? found.dialect found.contents
      return ⟨found.contents, renamed.getD scope⟩
    else return ⟨part.document.contents, scope⟩

/-- What a reference leads to that has to be a text first. -/
def resolveValue (library : Library) (scope : Scope) (reference : Value) :
    Except Failure Target :=
  match reference with
  | .text reference => library.resolve scope reference
  | v => .error (.shape (.noMethod v.operandName "startswith"))

/-- Whether a schema lets one further out take its place where references lead to it again. -/
def isRecursive (schema : Value) : Bool :=
  match schema.get? "$recursiveAnchor" with
  | some v => v.isTruthy
  | none => false

/-- Goes out along addresses as long as the schemas there let one further out take their place. -/
def goOut (library : Library) (scope : Scope) : Target → List String → Except Failure Target
  | target, [] => .ok target
  | target, address :: rest => do
    let next ← library.resolve scope address
    if isRecursive next.contents then goOut library scope next rest else return target

/-- What a recursive reference leads to: the document it stands in, or one further out that takes its
place. -/
def resolveRecursive (library : Library) (scope : Scope) : Except Failure Target := do
  let target ← library.resolve scope "#"
  if isRecursive target.contents then library.goOut scope target scope.left else return target

/-- The empty fragment leads to the whole of a document. -/
theorem resolve_whole {library : Library} {scope : Scope} {document : Document} {whole : Bool}
    (found : library.find scope "#" scope.address = .ok (document, whole)) :
    library.resolve scope "#" = .ok ⟨document.contents, scope.movedTo scope.address whole⟩ := by
  have parts : split scope "#" = .ok (scope.address, []) := by
    simp [split, pure, Except.pure]
  simp [resolve, parts, found, bind, Except.bind, pure, Except.pure]

end Library

end Intake.JsonSchema
