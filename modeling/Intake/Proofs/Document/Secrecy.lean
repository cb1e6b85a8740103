import Intake.Proofs.Document.Required
import Intake.Proofs.Field.Location
import Intake.Proofs.Field.Nested

/-!
# What documentation tells of secrets

A secret field may declare a value for absent ones and an example. Its description tells neither, and
the description of what it stands in is put together from its own. Main statement: tools that differ
at most in such values have the same documentation, and what is told of a field, at whatever depth it
stands, tells the two exactly if they are declared and the field is not secret.
-/

namespace Intake

namespace FieldAttributes

/-- Attributes without the values that a secret field declares for absent ones and as an example. Null
stands in their place, so that it can be seen which of the two are declared. -/
def blanked (a : FieldAttributes) : FieldAttributes :=
  if a.isSecret then
    { a with fallback := a.fallback.map fun _ => .null, sample := a.sample.map fun _ => .null }
  else a

variable {a : FieldAttributes}

/-- What depends neither on the fallback nor on the example is the same without them. -/
theorem apply_blanked {α : Type} {f : FieldAttributes → α}
    (hf : ∀ (a : FieldAttributes) (fallback sample : Option Value),
      f { a with fallback := fallback, sample := sample } = f a) : f a.blanked = f a := by
  unfold blanked
  split
  · exact hf a _ _
  · rfl

theorem kind_blanked : a.blanked.kind = a.kind := apply_blanked fun _ _ _ => rfl

theorem kindKeywords_blanked : a.blanked.kindKeywords = a.kindKeywords :=
  apply_blanked fun _ _ _ => rfl

theorem choiceKeywords_blanked : a.blanked.choiceKeywords = a.choiceKeywords :=
  apply_blanked fun _ _ _ => rfl

theorem isRequired_blanked : a.blanked.isRequired = a.isRequired := apply_blanked fun _ _ _ => rfl

/-- The general keywords tell what is not secret, so they do not depend on what is left out. -/
theorem generalKeywords_blanked : a.blanked.generalKeywords = a.generalKeywords := by
  unfold blanked
  split
  · rename_i hsecret
    exact generalKeywords_of_secret hsecret _ _
  · rfl

end FieldAttributes

namespace Definition

mutual

/-- A definition with its attributes changed at every depth. -/
def mapAttributes (f : FieldAttributes → FieldAttributes) (d : Definition) : Definition :=
  match d with
  | ⟨attributes, items, properties⟩ =>
    ⟨f attributes, mapItems f items, mapProperties f properties⟩

/-- The definition of items with its attributes changed. -/
def mapItems (f : FieldAttributes → FieldAttributes) (items : Slot Definition) : Slot Definition :=
  match items with
  | .undeclared => .undeclared
  | .null => .null
  | .of d => .of (mapAttributes f d)

/-- The definitions of properties with their attributes changed. -/
def mapProperties (f : FieldAttributes → FieldAttributes)
    (properties : Slot (List (String × Definition))) : Slot (List (String × Definition)) :=
  match properties with
  | .undeclared => .undeclared
  | .null => .null
  | .of definitions => .of (mapFields f definitions)

/-- Definitions by name with their attributes changed. -/
def mapFields (f : FieldAttributes → FieldAttributes) (fields : List (String × Definition)) :
    List (String × Definition) :=
  match fields with
  | [] => []
  | (name, d) :: rest => (name, mapAttributes f d) :: mapFields f rest

end

theorem mapFields_eq_map (f : FieldAttributes → FieldAttributes) (fields : FieldMap) :
    mapFields f fields = fields.map fun field => (field.1, field.2.mapAttributes f) := by
  induction fields with
  | nil => rfl
  | cons field rest ih =>
    obtain ⟨name, d⟩ := field
    rw [mapFields, ih, List.map_cons]

theorem mapAttributes_eq (f : FieldAttributes → FieldAttributes) (d : Definition) :
    d.mapAttributes f =
      ⟨f d.attributes, d.items.map (mapAttributes f), d.properties.map (mapFields f)⟩ := by
  obtain ⟨a, items, properties⟩ := d
  have hitems : mapItems f items = items.map (mapAttributes f) := by
    cases items <;> simp only [mapItems, Slot.map]
  have hproperties : mapProperties f properties = properties.map (mapFields f) := by
    cases properties <;> simp only [mapProperties, Slot.map]
  rw [mapAttributes, hitems, hproperties]

/-- A definition without the values that secret fields declare, at every depth. -/
def blanked (d : Definition) : Definition := d.mapAttributes FieldAttributes.blanked

end Definition

/-- Fields without the values that secret ones declare, at every depth. -/
def FieldMap.blanked (fields : FieldMap) : FieldMap :=
  Definition.mapFields FieldAttributes.blanked fields

/-- A schema without the values that secret fields declare, at every depth. -/
def Schema.blanked (s : Schema) : Schema where
  declaredInput := s.declaredInput.map FieldMap.blanked
  declaredConfig := s.declaredConfig.map FieldMap.blanked
  declaredRules := s.declaredRules

theorem FieldMap.blanked_eq_map (fields : FieldMap) :
    fields.blanked = fields.map fun field => (field.1, field.2.blanked) :=
  Definition.mapFields_eq_map _ fields

namespace Definition

theorem blanked_eq (d : Definition) :
    d.blanked = ⟨d.attributes.blanked, d.items.map blanked, d.properties.map FieldMap.blanked⟩ :=
  mapAttributes_eq _ d

theorem isRequired_blanked (d : Definition) : d.blanked.isRequired = d.isRequired := by
  rw [blanked_eq]
  exact FieldAttributes.isRequired_blanked

/-- Fields are described alike if each of them is. -/
theorem describeFields_blanked {fields : FieldMap}
    (h : ∀ name p, (name, p) ∈ fields → p.blanked.describe = p.describe) :
    describeFields fields.blanked = describeFields fields := by
  rw [FieldMap.blanked_eq_map]
  induction fields with
  | nil => rfl
  | cons field rest ih =>
    obtain ⟨name, p⟩ := field
    have hrest := ih fun other q hm => h other q (List.mem_cons_of_mem _ hm)
    rw [List.map_cons, describeFields, describeFields, hrest, h name p List.mem_cons_self]

/-- The same properties are told to be required. -/
theorem requiredNames_blanked (a : FieldAttributes) (fields : FieldMap) :
    requiredNames a.blanked fields.blanked = requiredNames a fields := by
  have hlisted : a.blanked.requiredProperties = a.requiredProperties :=
    FieldAttributes.apply_blanked fun _ _ _ => rfl
  simp only [requiredNames, hlisted, FieldMap.blanked_eq_map, List.filter_map, List.map_map,
    Function.comp_def, isRequired_blanked]

/-- A definition is described alike without the values that secret fields declare. -/
theorem describe_blanked (d : Definition) : d.blanked.describe = d.describe := by
  induction d using nested_induction with
  | step d items properties =>
    have hitems : describeItems (d.items.map blanked) = describeItems d.items := by
      cases hi : d.items with
      | of item => rw [Slot.map, describeItems, describeItems, items item hi]
      | _ => rfl
    have hproperties : describeProperties d.attributes.blanked (d.properties.map FieldMap.blanked) =
        describeProperties d.attributes d.properties := by
      cases hp : d.properties with
      | of fields =>
        have hclosed : d.attributes.blanked.additionalProperties =
            d.attributes.additionalProperties := FieldAttributes.apply_blanked fun _ _ _ => rfl
        rw [Slot.map, describeProperties, describeProperties,
          describeFields_blanked (properties fields hp), requiredNames_blanked, hclosed]
      | _ => rfl
    have hparts : d.blanked.partKeywords = d.partKeywords := by
      rw [blanked_eq]
      simp only [partKeywords, kind, FieldAttributes.kind_blanked, hitems, hproperties]
    rw [describe_eq, describe_eq, hparts, blanked_eq]
    simp only [FieldAttributes.kindKeywords_blanked, FieldAttributes.generalKeywords_blanked,
      FieldAttributes.choiceKeywords_blanked]

end Definition

namespace Schema

theorem sidePart_blanked (name : String) (fields : FieldMap) :
    Page.sidePart name fields.blanked = Page.sidePart name fields := by
  have hempty : fields.blanked.isEmpty = fields.isEmpty := by
    rw [FieldMap.blanked_eq_map, List.isEmpty_map]
  have hrequired : (fields.blanked.filter fun field => field.2.isRequired).map (·.1) =
      (fields.filter fun field => field.2.isRequired).map (·.1) := by
    simp only [FieldMap.blanked_eq_map, List.filter_map, List.map_map, Function.comp_def,
      Definition.isRequired_blanked]
  unfold Page.sidePart Page.sideSchema
  rw [hempty, Definition.describeFields_blanked fun _ p _ => p.describe_blanked]
  simp only [hrequired]

/-- A tool is documented alike without the values that secret fields declare. -/
theorem page_blanked (s : Schema) (title : PageTitle) : s.blanked.page title = s.page title := by
  have hfields (declared : Option FieldMap) :
      (declared.map FieldMap.blanked).getD [] = (declared.getD []).blanked := by
    cases declared <;> rfl
  have hinput : s.blanked.input = s.input.blanked := hfields s.declaredInput
  have hconfig : s.blanked.config = s.config.blanked := hfields s.declaredConfig
  have hempty : s.input.blanked.isEmpty = s.input.isEmpty := by
    rw [FieldMap.blanked_eq_map, List.isEmpty_map]
  unfold page Page.requestSchema
  rw [hinput, hconfig, sidePart_blanked, sidePart_blanked, hempty]

end Schema

/-- The keys that lead through a description to what is told of the field at a path. -/
def DataPath.keywords (path : DataPath) : List String :=
  path.flatMap fun
    | .key name => ["properties", name]
    | .index _ => ["items"]

namespace Definition

/-- A fragment describes a definition, and tells its example and its fallback exactly if they are
declared and not secret. -/
structure ToldOpenly (d : Definition) (fragment : Value) : Prop where
  /-- The fragment describes the definition. -/
  describe : d.describe = .ok fragment
  /-- The example is told unless it is secret. -/
  sample : fragment.get? "example" = if d.isSecret then none else d.attributes.sample
  /-- The fallback is told unless it is secret. -/
  fallback : fragment.get? "default" = if d.isSecret then none else d.attributes.fallback

variable {d e : Definition} {fragment : Value}

theorem toldOpenly_of_describe (h : d.describe = .ok fragment) : d.ToldOpenly fragment :=
  ⟨h, (get?_open_of_describe h).1, (get?_open_of_describe h).2⟩

/-- What is told of a list tells of its items. -/
theorem exists_items_of_describe (h : d.describe = .ok fragment) (hk : d.kind = .array)
    {item : Definition} (hi : d.items = .of item) :
    ∃ part, item.describe = .ok part ∧ fragment.get? "items" = some part := by
  obtain ⟨own, parts, -, hparts, hget⟩ := get?_of_describe h
  rw [partKeywords, hk, hi] at hparts
  simp only [describeItems] at hparts
  obtain ⟨part, hpart, rfl⟩ := exists_of_map_eq_ok hparts
  exact ⟨part, hpart, by simp [hget "items" (by decide)]⟩

/-- What is told of a record tells of its properties. -/
theorem exists_properties_of_describe (h : d.describe = .ok fragment) (hk : d.kind = .object)
    {fields : FieldMap} (hp : d.properties = .of fields) :
    ∃ fragments, describeFields fields = .ok fragments ∧
      fragment.get? "properties" = some (.record fragments) := by
  obtain ⟨own, parts, -, hparts, hget⟩ := get?_of_describe h
  rw [partKeywords, hk, hp] at hparts
  simp only [describeProperties] at hparts
  obtain ⟨fragments, hfragments, hparts⟩ := exists_of_bind_eq_ok hparts
  cases hparts
  exact ⟨fragments, hfragments, by simp [hget "properties" (by decide)]⟩

/-- What is told of fields tells of each under its name. -/
theorem lookup_of_describeFields {fields : FieldMap} {fragments : List (String × Value)}
    (h : describeFields fields = .ok fragments) (hnames : (fields.map (·.1)).Nodup) {name : String}
    {p : Definition} (hm : (name, p) ∈ fields) :
    ∃ part, p.describe = .ok part ∧ fragments.lookup name = some part := by
  induction fields generalizing fragments with
  | nil => cases hm
  | cons field rest ih =>
    obtain ⟨other, q⟩ := field
    obtain ⟨first, hfirst, h⟩ := exists_of_bind_eq_ok h
    obtain ⟨others, hothers, h⟩ := exists_of_bind_eq_ok h
    cases h
    rw [List.map_cons, List.nodup_cons] at hnames
    rcases List.mem_cons.mp hm with heq | hm
    · cases heq
      exact ⟨first, hfirst, List.lookup_cons_self⟩
    · obtain ⟨part, hpart, hlookup⟩ := ih hothers hnames.2 hm
      have hne : name ≠ other := fun heq => hnames.1 (List.mem_map.mpr ⟨(name, p), hm, heq⟩)
      exact ⟨part, hpart, by rw [lookup_cons_eq, if_neg hne, hlookup]⟩

/-- What is told of a definition tells openly of each definition below it. -/
theorem At.toldOpenly {path : DataPath} (h : d.At path e)
    (hnames : ∀ path e, d.At path e → e.NamesUnique) (hd : d.describe = .ok fragment) :
    ∃ part, fragment.follow? path.keywords = some part ∧ e.ToldOpenly part := by
  -- Down the path: a step to items is one key of the fragment, a step to a property two.
  induction h generalizing fragment with
  | here d => exact ⟨fragment, rfl, toldOpenly_of_describe hd⟩
  | items hk hi i h ih =>
    obtain ⟨inner, hinner, hget⟩ := exists_items_of_describe hd hk hi
    obtain ⟨part, hpart, htold⟩ := ih (fun path e hat => hnames _ e (.items hk hi i hat)) hinner
    refine ⟨part, ?_, htold⟩
    change (fragment.get? "items").bind (·.follow? _) = _
    rw [hget]
    exact hpart
  | property hk hp hm h ih =>
    obtain ⟨fragments, hfragments, hget⟩ := exists_properties_of_describe hd hk hp
    obtain ⟨inner, hinner, hlookup⟩ :=
      lookup_of_describeFields hfragments (hnames [] _ (.here _) hk hp) hm
    obtain ⟨part, hpart, htold⟩ := ih (fun path e hat => hnames _ e (.property hk hp hm hat)) hinner
    refine ⟨part, ?_, htold⟩
    change (fragment.get? "properties").bind (fun record => (record.get? _).bind (·.follow? _)) = _
    rw [hget]
    change (fragments.lookup _).bind _ = _
    rw [hlookup]
    exact hpart

end Definition

theorem Value.follow?_append (v : Value) (keys rest : List String) :
    v.follow? (keys ++ rest) = (v.follow? keys).bind (·.follow? rest) := by
  induction keys generalizing v with
  | nil => rfl
  | cons key others ih =>
    rw [List.cons_append, follow?, follow?, Option.bind_assoc]
    exact congrArg _ (funext ih)

/-- The page of a tool tells openly of every field of each side, at every depth. -/
theorem Schema.toldOpenly_of_page {s : Schema} {title : PageTitle} {page : Value}
    (h : s.page title = .ok page) {side : Side} (hnames : (s.fields side).UniqueNames)
    {path : DataPath} {e : Definition} (he : (s.fields side).Governs path e) :
    ∃ part, page.follow? (side.pageKeys ++ path.keywords) = some part ∧ e.ToldOpenly part := by
  obtain ⟨name, d, rest, hm, rfl, hat⟩ := he
  rcases side_of_page h side with ⟨hnil, -⟩ | ⟨told, hfollow, htold⟩
  · rw [hnil] at hm
    cases hm
  · obtain ⟨fragments, hfragments, htold⟩ := exists_of_bind_eq_ok htold
    cases htold
    obtain ⟨inner, hinner, hlookup⟩ := Definition.lookup_of_describeFields hfragments hnames.top hm
    have hbelow : ∀ path e, d.At path e → e.NamesUnique := fun path e hat =>
      hnames.nested (.key name :: path) e ⟨name, d, path, hm, rfl, hat⟩
    obtain ⟨part, hpart, hopen⟩ := hat.toldOpenly hbelow hinner
    refine ⟨part, ?_, hopen⟩
    rw [Value.follow?_append, hfollow]
    change (fragments.lookup name).bind _ = _
    rw [hlookup]
    exact hpart

/-- Documentation does not depend on the values that secret fields declare for absent ones and as
examples: definitions that agree without them have the same description, and tools that agree without
them the same page. Whatever is told of a field, inside a description or on a page, tells its example
and its fallback exactly if they are declared and not secret. -/
theorem documentation_keeps_secrets :
    (∀ d d' : Definition, d.blanked = d'.blanked → d.describe = d'.describe) ∧
    (∀ (s s' : Schema) (title : PageTitle), s.blanked = s'.blanked → s.page title = s'.page title) ∧
    (∀ (d : Definition) (fragment : Value), d.describe = .ok fragment →
      (∀ path e, d.At path e → e.NamesUnique) → ∀ path e, d.At path e →
        ∃ part, fragment.follow? path.keywords = some part ∧ e.ToldOpenly part) ∧
    ∀ (s : Schema) (title : PageTitle) (page : Value), s.page title = .ok page →
      ∀ side, (s.fields side).UniqueNames → ∀ path e, (s.fields side).Governs path e →
        ∃ part, page.follow? (side.pageKeys ++ path.keywords) = some part ∧ e.ToldOpenly part := by
  refine ⟨fun d d' h => ?_, fun s s' title h => ?_,
    fun d fragment hd hnames path e hat => hat.toldOpenly hnames hd,
    fun s title page hpage side hnames path e he => Schema.toldOpenly_of_page hpage hnames he⟩
  · rw [← d.describe_blanked, h, d'.describe_blanked]
  · rw [← s.page_blanked, h, s'.page_blanked]

/-- A secret text with a value for absent ones. -/
def secretDefinition (fallback : Value) : Definition where
  attributes :=
    { FieldAttributes.ofKind .string with sensitive := some true, fallback := some fallback }
  items := .undeclared
  properties := .undeclared

/-- A list of secret texts. -/
def secretListDefinition (fallback : Value) : Definition where
  attributes := FieldAttributes.ofKind .array
  items := .of (secretDefinition fallback)
  properties := .undeclared

/-- A record with a list of secret texts. -/
def secretsDefinition (fallback : Value) : Definition where
  attributes := FieldAttributes.ofKind .object
  items := .undeclared
  properties := .of [("codes", secretListDefinition fallback)]

/-- A tool with secrets. -/
def secretsSchema (fallback : Value) : Schema :=
  ⟨some [("access", secretsDefinition fallback)], none, none⟩

theorem namesUnique_secrets (fallback : Value) :
    ∀ path e, (secretsDefinition fallback).At path e → e.NamesUnique := by
  refine (Definition.forall_at_properties_iff rfl rfl).mpr ⟨fun _ hp => ?_, fun name p hm => ?_⟩
  · cases hp
    exact List.nodup_singleton _
  · cases List.mem_singleton.mp hm
    refine (Definition.forall_at_items_iff rfl rfl).mpr ⟨fun hk => (nomatch hk), ?_⟩
    have hwhole : (secretDefinition fallback).IsWhole :=
      ⟨fun _ _ hi => (nomatch hi), fun _ _ hp => (nomatch hp)⟩
    exact (Definition.forall_at_whole_iff hwhole).mpr fun hk => (nomatch hk)

/-- The documentation of a tool with secrets is that of the tool with other secrets, and tells none. -/
theorem documentation_keeps_secrets_list :
    ∃ fragment page inner part, (secretsDefinition (.text "a")).describe = .ok fragment ∧
      (secretsDefinition (.text "b")).describe = .ok fragment ∧
      (secretsSchema (.text "a")).page .standard = .ok page ∧
      (secretsSchema (.text "b")).page .standard = .ok page ∧
      fragment.follow? ["properties", "codes", "items"] = some inner ∧
      inner.get? "default" = none ∧
      page.follow? (Side.input.pageKeys ++ ["properties", "access", "properties", "codes", "items"]) =
        some part ∧ part.get? "default" = none := by
  obtain ⟨hdescribe, hpage, hbelow, hplaces⟩ := documentation_keeps_secrets
  have hat : (secretsDefinition (.text "a")).At [.key "codes", .index 0]
      (secretDefinition (.text "a")) :=
    .property rfl rfl List.mem_cons_self (.items rfl rfl 0 (.here _))
  have hnames : ((secretsSchema (.text "a")).fields .input).UniqueNames := by
    refine ⟨List.nodup_singleton _, fun path e he => ?_⟩
    obtain ⟨name, d, rest, hm, -, he⟩ := he
    cases List.mem_singleton.mp hm
    exact namesUnique_secrets _ rest e he
  obtain ⟨inner, hinner, htold⟩ := hbelow _ _ rfl (namesUnique_secrets _) _ _ hat
  obtain ⟨part, hpart, hopen⟩ := hplaces (secretsSchema (.text "a")) .standard _ rfl .input hnames
    (.key "access" :: _) _ ⟨_, _, _, List.mem_cons_self, rfl, hat⟩
  exact ⟨_, _, inner, part, rfl,
    (hdescribe (secretsDefinition (.text "a")) (secretsDefinition (.text "b")) rfl).symm, rfl,
    (hpage (secretsSchema (.text "a")) (secretsSchema (.text "b")) .standard rfl).symm,
    hinner, htold.fallback, hpart, hopen.fallback⟩

end Intake
