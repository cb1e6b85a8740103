import Intake.Field.Bounds
import Intake.Proofs.Field.Place
import Intake.Value.Path

/-!
# Where definitions govern data

A definition governs the value at a path if the path leads to it through lists and records: the
definition of the items of a list governs what stands at each index, and that of a property what
stands under its name. Main statement: definitions with the same text govern the same paths by
definitions with the same text, which agree in what may be shown of the values that they refuse.
-/

namespace Intake

open Json

namespace Definition

/-- A definition governs what stands at a path below what another one governs. -/
inductive At : Definition → DataPath → Definition → Prop where
  /-- A definition governs what stands where it stands. -/
  | here (d : Definition) : At d [] d
  /-- The definition of items governs every item. -/
  | items {d item e : Definition} {path : DataPath} (hk : d.kind = .array)
      (hi : d.items = .of item) (i : Nat) (h : At item path e) : At d (.index i :: path) e
  /-- The definition of a property governs what stands under its name. -/
  | property {d p e : Definition} {fields : FieldMap} {name : String} {path : DataPath}
      (hk : d.kind = .object) (hp : d.properties = .of fields) (hm : (name, p) ∈ fields)
      (h : At p path e) : At d (.key name :: path) e

/-- A field that refuses values without showing any: a file of which neither the size nor the type
nor the value is restricted. -/
structure ShowsNothing (d : Definition) : Prop where
  /-- The field holds files. -/
  kind : d.kind = .file
  /-- The size is not restricted. -/
  size : d.attributes.maxFileSize.value? = none
  /-- The type is not restricted. -/
  types : d.attributes.allowedMimeTypes.value?.filter (!·.isEmpty) = none
  /-- No values are enumerated. -/
  values : d.attributes.ownValues = none

/-- No property of a record is declared twice. -/
def NamesUnique (d : Definition) : Prop :=
  ∀ {properties : FieldMap}, d.kind = .object → d.properties = .of properties →
    (properties.map (·.1)).Nodup

end Definition

/-- A path through the first items of lists. -/
def DataPath.throughFirst (path : DataPath) : DataPath :=
  path.map fun
    | .key name => .key name
    | .index _ => .index 0

namespace FieldMap

/-- A definition governs what stands at a path of data. -/
def Governs (fields : FieldMap) (path : DataPath) (e : Definition) : Prop :=
  ∃ name d rest, (name, d) ∈ fields ∧ path = .key name :: rest ∧ d.At rest e

/-- No field and no property is declared twice. -/
structure UniqueNames (fields : FieldMap) : Prop where
  /-- No field is declared twice. -/
  top : (fields.map (·.1)).Nodup
  /-- No property is declared twice. -/
  nested : ∀ path d, fields.Governs path d → d.NamesUnique

end FieldMap

namespace Definition

variable {d d' e : Definition} {path : DataPath}

/-- Items are governed alike: the same definition governs what stands at first items. -/
theorem At.throughFirst (h : d.At path e) : d.At path.throughFirst e := by
  induction h with
  | here d => exact .here d
  | items hk hi i h ih => exact .items hk hi 0 ih
  | property hk hp hm h ih => exact .property hk hp hm ih

/-- What governs below what governs at a path governs at a longer path. -/
theorem At.trans {rest : DataPath} {f : Definition} (h : d.At path e) (hrest : e.At rest f) :
    d.At (path ++ rest) f := by
  induction h with
  | here d => exact hrest
  | items hk hi i h ih => exact .items hk hi i (ih hrest)
  | property hk hp hm h ih => exact .property hk hp hm (ih hrest)

/-- A condition holds of what governs below a list if it holds of the list and below its items. -/
theorem forall_at_items_iff {P : Definition → Prop} {item : Definition} (hk : d.kind = .array)
    (hi : d.items = .of item) :
    (∀ path e, d.At path e → P e) ↔ P d ∧ ∀ path e, item.At path e → P e := by
  constructor
  · exact fun h => ⟨h [] d (.here d), fun path e hat => h _ e (.items hk hi 0 hat)⟩
  · rintro ⟨hd, hitem⟩ path e hat
    cases hat with
    | here => exact hd
    | items _ hi' i hat =>
      cases hi.symm.trans hi'
      exact hitem _ e hat
    | property hk' => cases hk.symm.trans hk'

/-- A condition holds of what governs below a record if it holds of the record and below its
properties. -/
theorem forall_at_properties_iff {P : Definition → Prop} {fields : FieldMap} (hk : d.kind = .object)
    (hp : d.properties = .of fields) :
    (∀ path e, d.At path e → P e) ↔
      P d ∧ ∀ name p, (name, p) ∈ fields → ∀ path e, p.At path e → P e := by
  constructor
  · exact fun h => ⟨h [] d (.here d), fun name p hm path e hat => h _ e (.property hk hp hm hat)⟩
  · rintro ⟨hd, hfields⟩ path e hat
    cases hat with
    | here => exact hd
    | items hk' => cases hk.symm.trans hk'
    | property _ hp' hm hat =>
      cases hp.symm.trans hp'
      exact hfields _ _ hm _ e hat

/-- A condition holds of what governs below a definition in which none is looked at if it holds of
the definition. -/
theorem forall_at_whole_iff {P : Definition → Prop} (hw : d.IsWhole) :
    (∀ path e, d.At path e → P e) ↔ P d := by
  constructor
  · exact fun h => h [] d (.here d)
  · intro hd path e hat
    cases hat with
    | here => exact hd
    | items hk hi => exact absurd hi (hw.items hk _)
    | property hk hp => exact absurd hp (hw.properties hk _)

/-- Definitions with the same text show the same texts of their attributes. -/
theorem shown_eq (h : canonical d.plain = canonical d'.plain) :
    d.attributes.shown = d'.attributes.shown := by
  obtain ⟨hitems, hproperties⟩ := not_mem_shown d.attributes
  refine eq_of_partsUnder_eq rfl d.attributes.shown_nodup fun key hm => ?_
  have hi : "items" ≠ key := fun heq => hitems (heq ▸ hm)
  have hp : "properties" ≠ key := fun heq => hproperties (heq ▸ hm)
  have hkey := textsUnder_plain_eq h key
  rwa [if_neg hi, if_neg hp, if_neg hi, if_neg hp, List.append_nil, List.append_nil,
    List.append_nil, List.append_nil, FieldAttributes.textsUnder_written,
    FieldAttributes.textsUnder_written] at hkey

/-- Whether values are enumerated is told by their text. -/
theorem ownValues_eq_none {a a' : FieldAttributes}
    (h : a.values.texts (fun values => .list (values.map id)) =
      a'.values.texts fun values => .list (values.map id))
    (hnone : a'.ownValues = none) : a.ownValues = none := by
  unfold FieldAttributes.ownValues at hnone ⊢
  cases hvalues : a.values with
  | undeclared => rfl
  | null => rfl
  | of values =>
    obtain ⟨values', hvalues', htext⟩ := Slot.exists_of_texts_eq
      (fun vs => by simp [IsShown, Value.IsTemporal, Value.typeName]) h hvalues
    rw [hvalues'] at hnone
    rw [List.map_id, List.map_id] at htext
    have hitems := canonicalItems_eq htext
    cases values' with
    | nil =>
      cases values with
      | nil => rfl
      | cons v rest => cases hitems
    | cons v' rest' => cases hnone

/-- What definitions agree in, where it is about showing values. -/
structure SameShowing (d d' : Definition) : Prop where
  /-- They have the same kind. -/
  kind : d.kind = d'.kind
  /-- Both are secret or neither is. -/
  isSecret : d.isSecret = d'.isSecret
  /-- Both show nothing or neither does. -/
  showsNothing : d.ShowsNothing ↔ d'.ShowsNothing

/-- Definitions with the same text agree in what may be shown. -/
theorem sameShowing (h : canonical d.plain = canonical d'.plain) : SameShowing d d' := by
  have hshown := shown_eq h
  simp only [FieldAttributes.shown, List.cons.injEq, Prod.mk.injEq, true_and, and_true] at hshown
  obtain ⟨hname, -, -, -, -, hsensitive, -, -, -, -, -, -, -, -, -, -, henum, -, -, -, -, -, -, -, -,
    -, htypes, hsize, hsecret, -, -, -, -⟩ := hshown
  have htells : Tells fun k : FieldKind => .text k.name := .name FieldKind.ofName?_name
  have hkind : d.kind = d'.kind := htells.injective _ _ hname
  have hbytes := Tells.int.eq_of_slot hsize
  have hlisted := Tells.texts.eq_of_slot htypes
  refine ⟨hkind, ?_, fun hd => ⟨hkind ▸ hd.kind, hbytes ▸ hd.size, hlisted ▸ hd.types,
    ownValues_eq_none henum.symm hd.values⟩, fun hd => ⟨hkind.trans hd.kind, hbytes ▸ hd.size,
    hlisted ▸ hd.types, ownValues_eq_none henum hd.values⟩⟩
  change d.attributes.kind = d'.attributes.kind at hkind
  unfold isSecret FieldAttributes.isSecret
  rw [hkind, Tells.bool.eq_of_option hsensitive, Tells.bool.eq_of_option hsecret]

/-- Definitions with the same text govern the same paths by definitions with the same text. -/
theorem At.exists_of_text (h : d.At path e) (htext : canonical d.plain = canonical d'.plain) :
    ∃ e', d'.At path e' ∧ canonical e.plain = canonical e'.plain := by
  induction h generalizing d' with
  | here d => exact ⟨d', .here d', htext⟩
  | items hk hi i h ih =>
    obtain ⟨item', hi', htext'⟩ := exists_items htext hi
    obtain ⟨e', hat, he⟩ := ih htext'
    exact ⟨e', .items ((sameShowing htext).kind ▸ hk) hi' i hat, he⟩
  | property hk hp hm h ih =>
    obtain ⟨fields', hp', htext'⟩ := exists_properties htext hp
    obtain ⟨p', hm', hfield⟩ := FieldMap.exists_field htext' hm
    obtain ⟨e', hat, he⟩ := ih hfield
    exact ⟨e', .property ((sameShowing htext).kind ▸ hk) hp' hm' hat, he⟩

end Definition

/-- Items of fields are governed alike. -/
theorem FieldMap.Governs.throughFirst {fields : FieldMap} {path : DataPath} {e : Definition}
    (h : fields.Governs path e) : fields.Governs path.throughFirst e := by
  obtain ⟨name, d, rest, hm, rfl, hat⟩ := h
  exact ⟨name, d, _, hm, rfl, hat.throughFirst⟩

/-- What governs below what governs at a path of data governs at a longer path. -/
theorem FieldMap.Governs.trans {fields : FieldMap} {path rest : DataPath} {e f : Definition}
    (h : fields.Governs path e) (hrest : e.At rest f) : fields.Governs (path ++ rest) f := by
  obtain ⟨name, d, before, hm, rfl, hat⟩ := h
  exact ⟨name, d, before ++ rest, hm, rfl, hat.trans hrest⟩

/-- Fields with the same text govern the same paths by definitions with the same text. -/
theorem FieldMap.Governs.exists_of_text {fields fields' : FieldMap} {path : DataPath}
    {e : Definition} (h : fields.Governs path e)
    (htext : canonical (Definition.fieldsRecord fields) =
      canonical (Definition.fieldsRecord fields')) :
    ∃ e', fields'.Governs path e' ∧ canonical e.plain = canonical e'.plain := by
  obtain ⟨name, d, rest, hm, rfl, hat⟩ := h
  obtain ⟨d', hm', hd⟩ := exists_field htext hm
  obtain ⟨e', hat', he⟩ := hat.exists_of_text hd
  exact ⟨e', ⟨name, d', rest, hm', rfl, hat'⟩, he⟩

end Intake
