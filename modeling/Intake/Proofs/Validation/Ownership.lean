import Intake.Proofs.Validation.Parts
import Intake.Proofs.Validation.Recompile

/-!
# Attributes that belong to a kind

All attributes stand side by side in a definition, whatever its kind is. Some bear on all fields, the
others on fields of certain kinds only, and definitions of items and of properties on lists and records
only. Main statement: two definitions of one kind that agree on the attributes that belong to it, in
their items and properties as well, are made ready as the same check, or fail with the same error,
whatever the other attributes are.
-/

namespace Intake

/-- An attribute that may bear on how values are checked, definitions inside the field apart. Those
that the rules declare beside others of the same purpose are named for the rules. -/
inductive Attribute where
  /-- The value must be there. -/
  | required
  /-- The value that stands for an absent one. -/
  | fallback
  /-- The value is sensitive. -/
  | sensitive
  /-- The value is secret. -/
  | secret
  /-- The enumerated values. -/
  | values
  /-- The message of the rules. -/
  | errorMessage
  /-- The least length. -/
  | minLength
  /-- The greatest length. -/
  | maxLength
  /-- A pattern. -/
  | pattern
  /-- A format. -/
  | format
  /-- What happens to a text after the checks. -/
  | transform
  /-- The least number. -/
  | minimum
  /-- The greatest number. -/
  | maximum
  /-- The number must be whole. -/
  | integer
  /-- How many decimal places a number may need. -/
  | precision
  /-- The least number of items. -/
  | minItems
  /-- The greatest number of items. -/
  | maxItems
  /-- The items must differ. -/
  | uniqueItems
  /-- Properties that must be there. -/
  | requiredProperties
  /-- Other properties may be there. -/
  | additionalProperties
  /-- The earliest date. -/
  | minDate
  /-- The latest date. -/
  | maxDate
  /-- What a point in time says about its offset. -/
  | timezone
  /-- The types of a file. -/
  | allowedMimeTypes
  /-- The greatest size of a file. -/
  | maxFileSize
  /-- The least number or length that the rules declare. -/
  | ruleMinimum
  /-- The greatest number or length that the rules declare. -/
  | ruleMaximum
  /-- The pattern that the rules declare. -/
  | rulePattern
  /-- The enumerated values that the rules declare. -/
  | ruleValues
  /-- The schemes that a URL may have. -/
  | allowedProtocols
  /-- A JSON Schema. -/
  | jsonSchema
  deriving DecidableEq

namespace Attribute

/-- The type of what an attribute holds. -/
def Held : Attribute → Type
  | required | sensitive | secret | integer | uniqueItems | additionalProperties => Bool
  | fallback => Option Value
  | values | ruleValues => Option (List Value)
  | errorMessage | pattern | minDate | maxDate | rulePattern => Option String
  | minLength | maxLength | precision | minItems | maxItems | maxFileSize => Option Int
  | format => Option TextFormat
  | transform => Option Transform
  | minimum | maximum | ruleMinimum | ruleMaximum => Option Binary64
  | requiredProperties | allowedMimeTypes | allowedProtocols => Option (List String)
  | timezone => Option TimezoneRule
  | jsonSchema => Option (List (String × Value))

/-- What an attribute holds in a field: nothing, or no, if it is left out or null. -/
def held : (x : Attribute) → FieldAttributes → x.Held
  | required, a => a.required.getD false
  | fallback, a => a.fallback
  | sensitive, a => a.sensitive.getD false
  | secret, a => a.secret.getD false
  | values, a => a.values.value?
  | errorMessage, a => a.rules?.bind (·.errorMessage.value?)
  | minLength, a => a.minLength.value?
  | maxLength, a => a.maxLength.value?
  | pattern, a => a.pattern.value?
  | format, a => a.format.value?
  | transform, a => a.transform.value?
  | minimum, a => a.minimum.value?
  | maximum, a => a.maximum.value?
  | integer, a => a.integer.getD false
  | precision, a => a.precision.value?
  | minItems, a => a.minItems.value?
  | maxItems, a => a.maxItems.value?
  | uniqueItems, a => a.uniqueItems.getD false
  | requiredProperties, a => a.requiredProperties.value?
  | additionalProperties, a => a.additionalProperties.getD false
  | minDate, a => a.minDate.value?
  | maxDate, a => a.maxDate.value?
  | timezone, a => a.timezone.value?
  | allowedMimeTypes, a => a.allowedMimeTypes.value?
  | maxFileSize, a => a.maxFileSize.value?
  | ruleMinimum, a => a.rules?.bind (·.minimum.value?)
  | ruleMaximum, a => a.rules?.bind (·.maximum.value?)
  | rulePattern, a => a.rules?.bind (·.pattern.value?)
  | ruleValues, a => a.rules?.bind (·.values.value?)
  | allowedProtocols, a => a.rules?.bind (·.allowedProtocols.value?)
  | jsonSchema, a => a.rules?.bind (·.jsonSchema.value?)

/-- The attributes that belong to all kinds. -/
def common : List Attribute := [required, fallback, sensitive, secret, values, errorMessage]

/-- The attributes that belong to texts. -/
def ofTexts : List Attribute :=
  [minLength, maxLength, pattern, format, ruleMinimum, ruleMaximum, rulePattern]

/-- The attributes that belong to a kind beside the common ones. -/
def ofKind : FieldKind → List Attribute
  | .string => transform :: ofTexts
  | .url => transform :: allowedProtocols :: ofTexts
  | .apiKey | .secret => ofTexts
  | .number => [minimum, maximum, integer, precision, ruleMinimum, ruleMaximum]
  | .enumeration => [ruleValues]
  | .array => [minItems, maxItems, uniqueItems]
  | .object => [requiredProperties, additionalProperties]
  | .date => [minDate, maxDate]
  | .dateTime => [minDate, maxDate, timezone]
  | .file => [allowedMimeTypes, maxFileSize]
  | .json => [jsonSchema]
  | .boolean | .time => []

end Attribute

namespace FieldAttributes

/-- Two fields hold the same in some attributes. -/
def AgreeOn (attributes : List Attribute) (a a' : FieldAttributes) : Prop :=
  ∀ x ∈ attributes, x.held a = x.held a'

/-- Two fields are of one kind and hold the same in the attributes that belong to it. -/
structure AgreeOnOwn (a a' : FieldAttributes) : Prop where
  /-- The kinds are the same. -/
  kind : a.kind = a'.kind
  /-- What belongs to all kinds is the same. -/
  common : AgreeOn Attribute.common a a'
  /-- What belongs to the kind is the same. -/
  ofKind : AgreeOn (Attribute.ofKind a.kind) a a'

variable {a a' : FieldAttributes}

theorem AgreeOn.mono {attributes others : List Attribute} (h : AgreeOn attributes a a')
    (hsub : others ⊆ attributes) : AgreeOn others a a' := fun x hx => h x (hsub hx)

/-- What a check knows of its field is told by the kind and the common attributes. -/
theorem AgreeOnOwn.subject_eq (h : AgreeOnOwn a a') (label : String) :
    Compile.subject label a = Compile.subject label a' := by
  have hrequired : a.isRequired = a'.isRequired := h.common .required (by decide)
  have hfallback : a.fallback = a'.fallback := h.common .fallback (by decide)
  have hsensitive : a.sensitive.getD false = a'.sensitive.getD false :=
    h.common .sensitive (by decide)
  have hsecret : a.secret.getD false = a'.secret.getD false := h.common .secret (by decide)
  have hsecrets : a.isSecret = a'.isSecret := by
    rw [isSecret, isSecret, hsensitive, hsecret, h.kind]
  have hvalues : a.values.value? = a'.values.value? := h.common .values (by decide)
  have hmembers : a.ownValues = a'.ownValues := by rw [ownValues, ownValues, hvalues]
  have hrules : a.rules?.bind (·.errorMessage.value?) = a'.rules?.bind (·.errorMessage.value?) :=
    h.common .errorMessage (by decide)
  have hmessage : a.ownMessage = a'.ownMessage := by rw [ownMessage, ownMessage, hrules]
  rw [Compile.subject, Compile.subject, h.kind, hrequired, hfallback, hsecrets, hmessage, hmembers]

/-- What is asked of a text is told by the attributes that belong to texts. -/
theorem AgreeOn.textRule_eq (h : AgreeOn Attribute.ofTexts a a') (label : String) :
    Compile.textRule label a = Compile.textRule label a' := by
  have hminLength : a.minLength.value? = a'.minLength.value? := h .minLength (by decide)
  have hruleMinimum : a.ruleMinimum = a'.ruleMinimum := h .ruleMinimum (by decide)
  have hleast : a.leastLength = a'.leastLength := by
    rw [leastLength, leastLength, hminLength, hruleMinimum]
  have hmaxLength : a.maxLength.value? = a'.maxLength.value? := h .maxLength (by decide)
  have hruleMaximum : a.ruleMaximum = a'.ruleMaximum := h .ruleMaximum (by decide)
  have hgreatest : a.greatestLength = a'.greatestLength := by
    rw [greatestLength, greatestLength, hmaxLength, hruleMaximum]
  have hpattern : a.pattern.value? = a'.pattern.value? := h .pattern (by decide)
  have hrulePattern : a.rules?.bind (·.pattern.value?) = a'.rules?.bind (·.pattern.value?) :=
    h .rulePattern (by decide)
  have hsearch : a.searchText = a'.searchText := by
    rw [searchText, searchText, hpattern, hrulePattern]
  have hformat : a.format.value? = a'.format.value? := h .format (by decide)
  rw [Compile.textRule, Compile.textRule, hleast, hgreatest, hsearch, hformat]

theorem AgreeOn.confidentialRule_eq (h : AgreeOn Attribute.ofTexts a a') (label : String) :
    Compile.confidentialRule label a = Compile.confidentialRule label a' := by
  rw [Compile.confidentialRule, Compile.confidentialRule, h.textRule_eq]

/-- The range of a date is told by its two bounds. -/
theorem AgreeOn.range_eq {α : Type} (h : AgreeOn [.minDate, .maxDate] a a')
    (read? : Value → Option α) (label : String) :
    Compile.range read? label a = Compile.range read? label a' := by
  have hearliest : a.minDate.value? = a'.minDate.value? := h .minDate (by decide)
  have hlatest : a.maxDate.value? = a'.maxDate.value? := h .maxDate (by decide)
  rw [Compile.range, Compile.range, hearliest, hlatest]

theorem AgreeOn.listRule_eq (h : AgreeOn (Attribute.ofKind .array) a a') :
    Compile.listRule a = Compile.listRule a' := by
  have hleast : a.minItems.value? = a'.minItems.value? := h .minItems (by decide)
  have hgreatest : a.maxItems.value? = a'.maxItems.value? := h .maxItems (by decide)
  have hunique : a.uniqueItems.getD false = a'.uniqueItems.getD false := h .uniqueItems (by decide)
  rw [Compile.listRule, Compile.listRule, hleast, hgreatest, hunique]

/-- What is asked of a number is told by the attributes that belong to numbers. -/
theorem AgreeOn.numberRule_eq (h : AgreeOn (Attribute.ofKind .number) a a') :
    NumberRule.mk a.leastNumber a.greatestNumber (a.integer.getD false) a.precision.value? =
      ⟨a'.leastNumber, a'.greatestNumber, a'.integer.getD false, a'.precision.value?⟩ := by
  have hminimum : a.minimum.value? = a'.minimum.value? := h .minimum (by decide)
  have hruleMinimum : a.ruleMinimum = a'.ruleMinimum := h .ruleMinimum (by decide)
  have hmaximum : a.maximum.value? = a'.maximum.value? := h .maximum (by decide)
  have hruleMaximum : a.ruleMaximum = a'.ruleMaximum := h .ruleMaximum (by decide)
  have hinteger : a.integer.getD false = a'.integer.getD false := h .integer (by decide)
  have hprecision : a.precision.value? = a'.precision.value? := h .precision (by decide)
  rw [leastNumber, leastNumber, greatestNumber, greatestNumber, hminimum, hruleMinimum, hmaximum,
    hruleMaximum, hinteger, hprecision]

/-- The rule of a field is told by the attributes that belong to its kind. -/
theorem AgreeOnOwn.leafRule_eq (h : AgreeOnOwn a a') (label : String) :
    Compile.leafRule label a = Compile.leafRule label a' := by
  have hkind := h.kind
  have hown := h.ofKind
  rw [Compile.leafRule, Compile.leafRule, ← hkind]
  cases hk : a.kind with
  | string =>
    rw [hk] at hown
    have htransform : a.transform.value? = a'.transform.value? := hown .transform (by decide)
    have htext := AgreeOn.textRule_eq (hown.mono (by decide)) label
    dsimp only
    rw [htext, htransform]
  | url =>
    rw [hk] at hown
    have htransform : a.transform.value? = a'.transform.value? := hown .transform (by decide)
    have hlisted : a.rules?.bind (·.allowedProtocols.value?) =
        a'.rules?.bind (·.allowedProtocols.value?) := hown .allowedProtocols (by decide)
    have hprotocols : a.protocols = a'.protocols := by rw [protocols, protocols, hlisted]
    have htext := AgreeOn.textRule_eq (hown.mono (by decide)) label
    dsimp only
    rw [htext, htransform, hprotocols]
  | apiKey | secret =>
    rw [hk] at hown
    have hrule := AgreeOn.confidentialRule_eq hown label
    dsimp only
    rw [hrule]
  | number =>
    rw [hk] at hown
    have hrule := AgreeOn.numberRule_eq hown
    dsimp only
    rw [hrule]
  | enumeration =>
    rw [hk] at hown
    have hvalues : a.values.value? = a'.values.value? := h.common .values (by decide)
    have hruleValues : a.rules?.bind (·.values.value?) = a'.rules?.bind (·.values.value?) :=
      hown .ruleValues (by decide)
    have hchoices : a.choices = a'.choices := by
      rw [choices, choices, ownValues, ownValues, hvalues, hruleValues]
    dsimp only
    rw [hchoices]
  | array =>
    rw [hk] at hown
    have hrule := AgreeOn.listRule_eq hown
    dsimp only
    rw [hrule]
  | date =>
    rw [hk] at hown
    have hrange := AgreeOn.range_eq hown Value.date? label
    dsimp only
    rw [hrange]
  | dateTime =>
    rw [hk] at hown
    have hrange := AgreeOn.range_eq (hown.mono (by decide)) Value.dateTime? label
    have htimezone : a.timezone.value? = a'.timezone.value? := hown .timezone (by decide)
    dsimp only
    rw [hrange, htimezone]
  | file =>
    rw [hk] at hown
    have htypes : a.allowedMimeTypes.value? = a'.allowedMimeTypes.value? :=
      hown .allowedMimeTypes (by decide)
    have hsize : a.maxFileSize.value? = a'.maxFileSize.value? := hown .maxFileSize (by decide)
    dsimp only
    rw [htypes, hsize]
  | json =>
    rw [hk] at hown
    have hschema : a.rules?.bind (·.jsonSchema.value?) = a'.rules?.bind (·.jsonSchema.value?) :=
      hown .jsonSchema (by decide)
    dsimp only
    rw [hschema]
  | boolean | object | time => rfl

end FieldAttributes

mutual

/-- Two definitions are of one kind and agree on what belongs to it, definitions that bear on values
included. -/
inductive Definition.AgreeOnOwn : Definition → Definition → Prop
  /-- In neither a definition inside is looked at. -/
  | whole {d d' : Definition} (hown : d.attributes.AgreeOnOwn d'.attributes) (hw : d.IsWhole)
      (hw' : d'.IsWhole) : Definition.AgreeOnOwn d d'
  /-- Both are lists, and their items agree. -/
  | list {d d' item item' : Definition} (hown : d.attributes.AgreeOnOwn d'.attributes)
      (hk : d.kind = .array) (hi : d.items = .of item) (hi' : d'.items = .of item')
      (hitem : Definition.AgreeOnOwn item item') : Definition.AgreeOnOwn d d'
  /-- Both are records, and their properties agree. -/
  | record {d d' : Definition} {fields fields' : FieldMap}
      (hown : d.attributes.AgreeOnOwn d'.attributes) (hk : d.kind = .object)
      (hp : d.properties = .of fields) (hp' : d'.properties = .of fields')
      (hfields : FieldMap.AgreeOnOwn fields fields') : Definition.AgreeOnOwn d d'

/-- Fields have the same names in the same order, and their definitions agree. -/
inductive FieldMap.AgreeOnOwn : FieldMap → FieldMap → Prop
  /-- There are no fields. -/
  | nil : FieldMap.AgreeOnOwn [] []
  /-- A field agrees with one of its name, and so do those after it. -/
  | cons {name : String} {d d' : Definition} {fields fields' : FieldMap}
      (hd : Definition.AgreeOnOwn d d') (hrest : FieldMap.AgreeOnOwn fields fields') :
      FieldMap.AgreeOnOwn ((name, d) :: fields) ((name, d') :: fields')

end

mutual

/-- Definitions that agree on what belongs to their kind are made ready as the same check. -/
theorem Definition.AgreeOnOwn.compile_eq {d d' : Definition} (h : d.AgreeOnOwn d')
    (label : String) : d.compile label = d'.compile label := by
  match h with
  | .whole hown hw hw' =>
    rw [Definition.compile_of_whole hw, Definition.compile_of_whole hw', hown.leafRule_eq,
      hown.subject_eq]
  | .list hown hk hi hi' hitem =>
    have hk' : d'.kind = .array := hown.kind.symm.trans hk
    have hpart := hitem.compile_eq (label ++ "[]")
    have hofKind : FieldAttributes.AgreeOn (Attribute.ofKind d.kind) d.attributes d'.attributes :=
      hown.ofKind
    rw [hk] at hofKind
    rw [Definition.compile_of_items hk hi, Definition.compile_of_items hk' hi', compileItems,
      compileItems, hpart, hown.subject_eq, hofKind.listRule_eq]
  | .record hown hk hp hp' hfields =>
    have hk' : d'.kind = .object := hown.kind.symm.trans hk
    have hparts := hfields.compileFields_eq fun name => label ++ "." ++ name
    have hofKind : FieldAttributes.AgreeOn (Attribute.ofKind d.kind) d.attributes d'.attributes :=
      hown.ofKind
    rw [hk] at hofKind
    have hrequired : d.attributes.requiredProperties.value? =
        d'.attributes.requiredProperties.value? := hofKind .requiredProperties (by decide)
    have hadditional : d.attributes.additionalProperties.getD false =
        d'.attributes.additionalProperties.getD false := hofKind .additionalProperties (by decide)
    rw [Definition.compile_of_properties hk hp, Definition.compile_of_properties hk' hp',
      compileProperties, compileProperties, hparts, hown.subject_eq, hrequired, hadditional]

/-- Fields that agree on what belongs to their kinds are made ready as the same checks. -/
theorem FieldMap.AgreeOnOwn.compileFields_eq {fields fields' : FieldMap}
    (h : FieldMap.AgreeOnOwn fields fields') (labelOf : String → String) :
    compileFields labelOf fields = compileFields labelOf fields' := by
  match h with
  | .nil => rfl
  | @FieldMap.AgreeOnOwn.cons name _ _ _ _ hd hrest =>
    have hfirst := hd.compile_eq (labelOf name)
    have hothers := hrest.compileFields_eq labelOf
    rw [compileFields, compileFields, hfirst, hothers]

end

/-- Fields are made ready as the same checks if one of them is replaced by one that is. -/
theorem compileFields_replace {d d' : Definition} (h : ∀ label, d.compile label = d'.compile label)
    (labelOf : String → String) (before : FieldMap) (field : String) (after : FieldMap) :
    compileFields labelOf (before ++ (field, d) :: after) =
      compileFields labelOf (before ++ (field, d') :: after) := by
  induction before with
  | nil => rw [List.nil_append, List.nil_append, compileFields, compileFields, h]
  | cons other rest ih =>
    rw [List.cons_append, List.cons_append, compileFields, compileFields, ih]

theorem agree_of_eq {ε α : Type} {r : α → α → Prop} (hr : ∀ a, r a a) {a b : Except ε α}
    (h : a = b) : Agree r a b := by
  subst h
  cases a with
  | error e => exact .error e
  | ok a => exact .ok (hr a)

/-- Only attributes that belong to the kind of a field bear on how its values are checked. Two
definitions that agree on them cannot be made ready for the same reason, or give the same outcome for
every value under all options; and so it is for all data if one of them stands among any other
fields in place of the other. -/
theorem Definition.ownAttributes_decide {d d' : Definition} (h : d.AgreeOnOwn d') :
    (∀ label, Agree (fun check check' => ∀ options path v,
        check.run options path v = check'.run options path v)
      (d.compile label) (d'.compile label)) ∧
    ∀ (options : Options) (name field : String) (before after : FieldMap),
      Agree (fun validator validator' => ∀ data, validator.validate data = validator'.validate data)
        (Validator.compile options name (before ++ (field, d) :: after))
        (Validator.compile options name (before ++ (field, d') :: after)) := by
  refine ⟨fun label => ?_, fun options name field before after => ?_⟩
  · exact agree_of_eq (fun _ _ _ _ => rfl) (h.compile_eq label)
  · have hchecks := compileFields_replace h.compile_eq id before field after
    refine agree_of_eq (fun _ _ => rfl) ?_
    rw [Validator.compile, Validator.compile, hchecks]

/-- A list of texts agrees with one whose attributes for other kinds are at fault throughout: bounds
that are no dates, a malformed JSON Schema, an enumeration without values among properties that are
not looked at. Both are made ready. -/
theorem Definition.ownAttributes_decide_list :
    let useless : Definition := .ofKind .enumeration
    let rules : ConfigRules :=
      ⟨.of .nan, .undeclared, .of "(", .undeclared, .of [], .undeclared, .of [("type", .int 1)]⟩
    let item : Definition :=
      ⟨{ FieldAttributes.ofKind .string with minLength := .of 2 }, .undeclared, .undeclared⟩
    let item' : Definition :=
      ⟨{ FieldAttributes.ofKind .string with
          minLength := .of 2, minDate := .of "soon", requiredProperties := .of ["x"] },
        .of useless, .of [("x", useless)]⟩
    let d : Definition :=
      ⟨{ FieldAttributes.ofKind .array with minItems := .of 1 }, .of item, .undeclared⟩
    let d' : Definition :=
      ⟨{ FieldAttributes.ofKind .array with
          minItems := .of 1, maxDate := .of "later", pattern := .of "(", rules := .of rules },
        .of item', .of [("x", useless)]⟩
    d.AgreeOnOwn d' ∧ (∃ check, d.compile "tags" = .ok check) ∧
      Agree (fun check check' => ∀ options path v,
          check.run options path v = check'.run options path v)
        (d.compile "tags") (d'.compile "tags") := by
  intro useless rules item item' d d'
  have htext : item.attributes.AgreeOnOwn item'.attributes := by
    refine ⟨rfl, ?_, ?_⟩
    · simp only [FieldAttributes.AgreeOn, Attribute.common, List.forall_mem_cons]
      exact ⟨rfl, rfl, rfl, rfl, rfl, rfl, nofun⟩
    · change FieldAttributes.AgreeOn (.transform :: Attribute.ofTexts) _ _
      simp only [FieldAttributes.AgreeOn, Attribute.ofTexts, List.forall_mem_cons]
      exact ⟨rfl, rfl, rfl, rfl, rfl, rfl, rfl, rfl, nofun⟩
  have hlist : d.attributes.AgreeOnOwn d'.attributes := by
    refine ⟨rfl, ?_, ?_⟩
    · simp only [FieldAttributes.AgreeOn, Attribute.common, List.forall_mem_cons]
      exact ⟨rfl, rfl, rfl, rfl, rfl, rfl, nofun⟩
    · change FieldAttributes.AgreeOn [.minItems, .maxItems, .uniqueItems] _ _
      simp only [FieldAttributes.AgreeOn, List.forall_mem_cons]
      exact ⟨rfl, rfl, rfl, nofun⟩
  have hd : d.AgreeOnOwn d' :=
    .list hlist rfl rfl rfl (.whole htext ⟨nofun, nofun⟩ ⟨nofun, nofun⟩)
  exact ⟨hd, ⟨_, rfl⟩, (ownAttributes_decide hd).1 "tags"⟩

end Intake
