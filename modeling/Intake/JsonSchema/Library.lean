import Intake.JsonSchema.Place
import Intake.JsonSchema.Published.Draft2019
import Intake.JsonSchema.Published.Draft2020
import Intake.JsonSchema.Published.Drafts
import Intake.Value.Size

/-!
# Documents that references find

References find the published schemas of schemas, the schema that is checked against, and the schemas
inside it that name themselves. The last are catalogued by a walk through the schema, on which later
entries replace earlier ones of the same name. Main statement: an entry is found under its address.
-/

namespace Intake.JsonSchema

/-- A schema that can be referred to. -/
structure Document where
  /-- The dialect by which names in it are read. -/
  dialect : Dialect
  /-- The schema. -/
  contents : Value

/-- A part of a document that has a name. -/
structure NamedPart where
  /-- The part. -/
  document : Document
  /-- Whether a part further out may take its place. -/
  isDynamic : Bool

/-- What references find. Of several entries of one name the first counts. -/
structure Catalogue where
  /-- The documents by their addresses. -/
  documents : List (String × Document)
  /-- The parts by the addresses of their documents and their names. -/
  parts : List ((String × String) × NamedPart)

namespace Catalogue

/-- The document at an address. -/
def document? (c : Catalogue) (address : String) : Option Document := c.documents.lookup address

/-- The part of a name in the document at an address. -/
def part? (c : Catalogue) (address name : String) : Option NamedPart :=
  c.parts.lookup (address, name)

/-- A catalogue with a document entered. -/
def enter (c : Catalogue) (address : String) (document : Document) : Catalogue :=
  { c with documents := (address, document) :: c.documents }

/-- A catalogue with the parts entered that a document is by its anchors. -/
def enterParts (c : Catalogue) (address : String) (document : Document)
    (anchors : List Dialect.Anchor) : Catalogue :=
  anchors.foldl
    (fun done anchor =>
      { done with parts := ((address, anchor.name), ⟨document, anchor.isDynamic⟩) :: done.parts })
    c

/-- An entry is found under its address. -/
theorem document?_enter (c : Catalogue) (address : String) (document : Document) :
    (c.enter address document).document? address = some document := by
  simp [enter, document?]

end Catalogue

/-- The vocabularies of the last two dialects. -/
def vocabularies : List (String × Dialect × Value) :=
  [("https://json-schema.org/draft/2019-09/meta/core", .draft2019, Draft2019.core),
   ("https://json-schema.org/draft/2019-09/meta/applicator", .draft2019, Draft2019.applicator),
   ("https://json-schema.org/draft/2019-09/meta/validation", .draft2019, Draft2019.validation),
   ("https://json-schema.org/draft/2019-09/meta/meta-data", .draft2019, Draft2019.metaData),
   ("https://json-schema.org/draft/2019-09/meta/format", .draft2019, Draft2019.format),
   ("https://json-schema.org/draft/2019-09/meta/content", .draft2019, Draft2019.content),
   ("https://json-schema.org/draft/2020-12/meta/core", .draft2020, Draft2020.core),
   ("https://json-schema.org/draft/2020-12/meta/applicator", .draft2020, Draft2020.applicator),
   ("https://json-schema.org/draft/2020-12/meta/unevaluated", .draft2020, Draft2020.unevaluated),
   ("https://json-schema.org/draft/2020-12/meta/validation", .draft2020, Draft2020.validation),
   ("https://json-schema.org/draft/2020-12/meta/meta-data", .draft2020, Draft2020.metaData),
   ("https://json-schema.org/draft/2020-12/meta/format-annotation", .draft2020,
    Draft2020.formatAnnotation),
   ("https://json-schema.org/draft/2020-12/meta/format-assertion", .draft2020,
    Draft2020.formatAssertion),
   ("https://json-schema.org/draft/2020-12/meta/content", .draft2020, Draft2020.content)]

/-- The schema of a dialect's schemas. -/
def Dialect.metaSchema : Dialect → Value
  | .draft3 => Draft3.document
  | .draft4 => Draft4.document
  | .draft6 => Draft6.document
  | .draft7 => Draft7.document
  | .draft2019 => Draft2019.document
  | .draft2020 => Draft2020.document

/-- The published schemas with their addresses. -/
def publishedSchemas : List (String × Dialect × Value) :=
  Dialect.all.map (fun d => (d.address, d, d.metaSchema)) ++ vocabularies

/-- The anchor that the published schemas of the last dialect share. -/
def sharedAnchor : String := "meta"

/-- The catalogue of the published schemas. -/
def published : Catalogue :=
  ⟨publishedSchemas.map fun (address, dialect, contents) => (address, ⟨dialect, contents⟩),
    (publishedSchemas.filter fun (_, dialect, _) => dialect = .draft2020).map
      fun (address, dialect, contents) =>
        ((address, sharedAnchor), ⟨⟨dialect, contents⟩, true⟩)⟩

namespace Document

/-- The address of a document that a reference leads to from another address. -/
def addressFrom (base reference : String) : Except Failure String := do
  return String.ofList (← Uri.resolve base.toList reference.toList)

/-- The name of a document. -/
def name? (d : Document) : Except Failure (Option String) := d.dialect.documentName? d.contents

/-- The dialect by which names in a part of a document are read: the one it says, if it is known by
exactly that address, or the one around it. -/
def partDialect (around : Dialect) (part : Value) : Dialect :=
  match part.get? "$schema" with
  | some (.text address) => (Dialect.ofAddress? (Dialect.withoutMark address)).getD around
  | _ => around

/-- The schemas that stand directly in a document. -/
def subdocuments (d : Document) : Except Failure (List Document) := do
  let schemas ← d.dialect.subschemas d.contents
  return schemas.map fun schema => ⟨partDialect d.dialect schema, schema⟩

/-- Catalogues a document and what stands inside it so many schemas deep, from the last schema to the
first. -/
def catalogueWithin : Nat → String → Document → Catalogue → Except Failure Catalogue
  | 0, _, _, c => .ok c
  | depth + 1, around, d, c => do
    let name ← d.name?
    let address ← name.elim (.ok around) (addressFrom around)
    let c := if name.isSome then c.enter address d else c
    let anchors ← d.dialect.anchors d.contents
    let inside ← d.subdocuments
    inside.reverse.foldlM (fun done each => catalogueWithin depth address each done)
      (c.enterParts address d anchors)

/-- Catalogues a document at an address and all that stands inside it. -/
def catalogue (d : Document) (address : String) (c : Catalogue) : Except Failure Catalogue :=
  catalogueWithin d.contents.depth address d c

end Document

/-- What references of a schema find. Its inside is catalogued only when a reference needs it, so a
failure of that is kept until then. -/
structure Library where
  /-- The address of the schema. -/
  address : String
  /-- The published schemas and the schema itself. -/
  known : Catalogue
  /-- These and what stands inside the schema. -/
  whole : Except Failure Catalogue

namespace Library

/-- What references of a schema find. -/
def of (d : Document) : Except Failure Library := do
  let address := (← d.name?).getD ""
  let known := published.enter address d
  return ⟨address, known, d.catalogue address known⟩

/-- A catalogue of a library, the whole one or the one that is known from the start. -/
def catalogue (library : Library) (whole : Bool) : Except Failure Catalogue :=
  if whole then library.whole else .ok library.known

end Library

end Intake.JsonSchema
