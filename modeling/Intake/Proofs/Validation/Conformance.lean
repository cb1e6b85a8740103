import Intake.Validation.Run

/-!
# Values that conform to a definition

The language that a definition declares, told from the definition alone, by recursion on it: bounds
and patterns are those of the field, or those of its rules where it has none, and parts are asked to
conform to their own definitions. Neither checks nor options nor labels play a role in it. The output
that is made of a conforming value is not covered here.
-/

namespace Intake

/-- The entries of data that is null or a record; null has none. -/
def Value.entries? : Value → Option (List (String × Value))
  | .null => some []
  | .record entries => some entries
  | _ => none

/-- What a value holds as JSON: a text what can be read from it, any other value itself. The truth
value tells whether it was read. -/
def Value.jsonPart? : Value → Option (Bool × Value)
  | .text s => (Json.read? s).map (true, ·)
  | v => some (false, v)

/-- A size lies between the bounds that there are, both included. -/
def IsBetween (least greatest : Option Int) (size : Nat) : Prop :=
  (∀ bound ∈ least, bound ≤ size) ∧ ∀ bound ∈ greatest, (size : Int) ≤ bound

namespace FieldAttributes

/-- The least length that a text of the field may have: the one the field declares, or the integer
part of the one from its rules. What is confidential has at least one character. -/
def shortest (a : FieldAttributes) : Option Int :=
  let declared := a.minLength.value?.or (a.ruleMinimum.bind Binary64.truncate?)
  if a.kind.isConfigOnly then some (max (declared.getD 1) 1) else declared

/-- The greatest length that a text of the field may have: the one the field declares, or the
integer part of the one from its rules. -/
def longest (a : FieldAttributes) : Option Int :=
  a.maxLength.value?.or (a.ruleMaximum.bind Binary64.truncate?)

/-- The JSON Schema that the rules of a field declare. -/
def declaredSchema (a : FieldAttributes) : Option (List (String × Value)) :=
  a.rules?.bind (·.jsonSchema.value?)

/-- A text has the length, the pattern and the format that a field asks for. -/
structure AdmitsText (a : FieldAttributes) (s : String) : Prop where
  /-- The length lies between the bounds. -/
  length : IsBetween a.shortest a.longest s.length
  /-- The pattern is found in the text. -/
  pattern : ∀ text ∈ a.searchText, ∃ p, Pattern.read text = .ok p ∧ p.searchIn s = .found
  /-- The text has the format. -/
  format : ∀ f ∈ a.format.value?, f.accepts s = true

/-- A text is an absolute URL, in one of the schemes that are listed. -/
def AdmitsUrl (a : FieldAttributes) (s : String) : Prop :=
  ∃ scheme, urlScheme? s = some scheme ∧
    ∀ listed ∈ a.protocols, scheme ∈ listed.map Compile.protocolName

/-- A finite number lies within the bounds and needs no more digits than a field allows. -/
structure AdmitsNumber (a : FieldAttributes) (n : Number) : Prop where
  /-- The number is finite. -/
  finite : n.isFinite = true
  /-- The number is not below the least one. -/
  minimum : ∀ least ∈ a.leastNumber, n.lessThan (.float least) = false
  /-- The number is not above the greatest one. -/
  maximum : ∀ greatest ∈ a.greatestNumber, (Number.float greatest).lessThan n = false
  /-- The number is whole if it has to be. -/
  whole : a.integer.getD false = true → n.isIntegral = true
  /-- The number has no more decimal places than it may have. -/
  places : ∀ most ∈ a.precision.value?, (n.decimalPlaces : Int) ≤ most

/-- A value is equal to one of several. -/
def Matches (values : List Value) (v : Value) : Prop := ∃ member ∈ values, v.sameAs member = true

/-- A list is as long as a field asks for and repeats nothing that must differ, its items apart. -/
structure AdmitsItems (a : FieldAttributes) (items : List Value) : Prop where
  /-- The number of items lies between the bounds. -/
  size : IsBetween a.minItems.value? a.maxItems.value? items.length
  /-- The canonical texts of items that must differ do. -/
  distinct : a.uniqueItems.getD false = true → (items.map Json.canonical).Nodup

/-- A date lies within the range of a field, bounds being read as the date itself is. -/
structure AdmitsDate {α : Type} (read? : Value → Option α) (isBefore : α → α → Bool)
    (a : FieldAttributes) (date : α) : Prop where
  /-- The date is not before the earliest one. -/
  earliest : ∀ text ∈ a.minDate.value?, ∀ bound ∈ read? (.text text), isBefore date bound = false
  /-- The date is not after the latest one. -/
  latest : ∀ text ∈ a.maxDate.value?, ∀ bound ∈ read? (.text text), isBefore bound date = false

/-- A point in time tells the offset that a field asks for. -/
def AdmitsOffset (a : FieldAttributes) (t : DateTime) : Prop :=
  match a.timezone.value? with
  | some .required => t.time.offset.isSome = true
  | some .utcOnly => t.time.offset = some 0
  | _ => True

/-- A value describes a file of a size and a type that a field allows. -/
structure AdmitsFile (a : FieldAttributes) (v : Value) : Prop where
  /-- The file has a name. -/
  named : ∃ name, v.get? "name" = some (.text name)
  /-- The file has a finite size, not above the greatest one. -/
  sized : ∃ size, v.get? "size" = some (.number size) ∧ size.isFinite = true ∧
    ∀ greatest ∈ a.maxFileSize.value?, (Number.int greatest).lessThan size = false
  /-- The file has a type, one of those listed if any are. -/
  typed : ∃ type, v.get? "type" = some (.text type) ∧
    ∀ types ∈ a.allowedMimeTypes.value?, types ≠ [] → type ∈ types

/-- A value is what a field of a kind without parts holds. Lists and records are anything here. -/
def AdmitsWhole (a : FieldAttributes) (v : Value) : Prop :=
  match a.kind with
  | .string | .apiKey | .secret => ∃ s, v = .text s ∧ a.AdmitsText s
  | .url => ∃ s, v = .text s ∧ a.AdmitsText s ∧ a.AdmitsUrl s
  | .number => ∃ n, v = .number n ∧ a.AdmitsNumber n
  | .boolean => ∃ b, v = .bool b
  | .enumeration => Matches (a.choices.getD []) v
  | .array => ∃ items, v = .list items ∧ a.AdmitsItems items
  | .object => ∃ entries, v = .record entries
  | .date => ∃ d, v.date? = some d ∧ a.AdmitsDate Value.date? Date.isBefore d
  | .dateTime =>
    ∃ t, v.dateTime? = some t ∧ a.AdmitsOffset t ∧ a.AdmitsDate Value.dateTime? DateTime.isBefore t
  | .time => (∃ t, v = .time t) ∨ ∃ s, v = .text s ∧ isClockTimeText s = true
  | .file => a.AdmitsFile v
  | .json =>
    ∃ isRead part, v.jsonPart? = some (isRead, part) ∧
      ∀ schema ∈ a.declaredSchema, JsonSchema.violations (.record schema) isRead part = .ok []

/-- A value is one of those that a field of another kind than an enumeration lists, if any are. -/
def AdmitsMember (a : FieldAttributes) (v : Value) : Prop :=
  a.kind ≠ .enumeration → ∀ values ∈ a.ownValues, Matches values v

end FieldAttributes

mutual

/-- A value conforms to a definition. -/
def Definition.Admits (d : Definition) (v : Value) : Prop :=
  match d with
  | ⟨a, items, properties⟩ =>
    a.AdmitsWhole v ∧ a.AdmitsMember v ∧
      (a.kind = .array → ItemsConform items v) ∧ (a.kind = .object → PropertiesConform a properties v)

/-- The items of a list conform to their definition, if there is one. -/
def ItemsConform (items : Slot Definition) (v : Value) : Prop :=
  match items with
  | .of item => ∀ found, v = .list found → ∀ part ∈ found, item.Admits part
  | _ => True

/-- The properties of a record conform to their definitions, if there are any, and no others are
there unless they may be. -/
def PropertiesConform (a : FieldAttributes) (properties : Slot FieldMap) (v : Value) : Prop :=
  match properties with
  | .of fields =>
    ∀ entries, v = .record entries →
      FieldsConform (a.requiredProperties.value?.getD []) fields entries ∧
        (a.additionalProperties.getD false = false → ∀ entry ∈ entries, entry.1 ∈ fields.map Prod.fst)
  | _ => True

/-- Every declared field is absent or null and not required, or conforms to its definition. -/
def FieldsConform (required : List String) (fields : FieldMap) (entries : List (String × Value)) :
    Prop :=
  match fields with
  | [] => True
  | (name, d) :: rest =>
    (match present? name entries with
      | none => d.isRequired = false ∧ name ∉ required
      | some v => d.Admits v) ∧
    FieldsConform required rest entries

end

end Intake
