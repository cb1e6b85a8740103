import Intake.Document.Fragment
import Intake.Proofs.Results
import Intake.Proofs.Validation.Order

/-!
# What a fragment tells

The description of a definition puts the keywords of its parts, of its kind and of its enumerated
values after general ones, and no keyword occurs in two of these groups. So what it tells under a
keyword can be read off the group of the keyword. Main statements: where the bounds, the enumerated
values and the required properties are told.
-/

namespace Intake

namespace Value

/-- The number that a fragment tells under a keyword. -/
def bound? (fragment : Value) (keyword : String) : Option Number :=
  match fragment.get? keyword with
  | some (.number n) => some n
  | _ => none

/-- The names that a fragment tells under a keyword, none if it does not tell the keyword. -/
def namesUnder (fragment : Value) (keyword : String) : List String :=
  match fragment.get? keyword with
  | some (.list names) => names.filterMap text?
  | _ => []

variable {fragment : Value} {keyword : String}

theorem bound?_of_int {bound : Option Int} (h : fragment.get? keyword = bound.map .int) :
    fragment.bound? keyword = bound.map .int := by
  rw [bound?, h]
  cases bound <;> rfl

theorem bound?_of_float {bound : Option Binary64} (h : fragment.get? keyword = bound.map .float) :
    fragment.bound? keyword = bound.map .float := by
  rw [bound?, h]
  cases bound <;> rfl

theorem namesUnder_of_texts {names : List String}
    (h : fragment.get? keyword = some (.texts names)) : fragment.namesUnder keyword = names := by
  rw [namesUnder, h]
  change (names.map Value.text).filterMap text? = names
  rw [List.filterMap_map]
  exact List.filterMap_some

theorem namesUnder_of_none (h : fragment.get? keyword = none) :
    fragment.namesUnder keyword = [] := by
  rw [namesUnder, h]

end Value

theorem lookup_cons_eq {α : Type} (key name : String) (a : α) (rest : List (String × α)) :
    ((name, a) :: rest).lookup key = if key = name then some a else rest.lookup key := by
  by_cases h : key = name
  · simp [h]
  · simp [List.lookup_cons, beq_eq_false_iff_ne.mpr h, h]

theorem lookup_keywordOf {α : Type} (key name : String) (write : α → Value) (value : Option α) :
    (keywordOf name write value).lookup key = if key = name then value.map write else none := by
  cases value <;> simp [keywordOf, lookup_cons_eq]

theorem lookup_keywordIf (key name : String) (condition : Bool) (value : Value) :
    (keywordIf condition name value).lookup key =
      if key = name ∧ condition = true then some value else none := by
  cases condition <;> simp [keywordIf, lookup_cons_eq]

namespace FieldAttributes

variable {a : FieldAttributes} {key : String} {own : List (String × Value)}

/-- Under other keywords the general ones tell nothing. -/
theorem lookup_generalKeywords (h : key ∉ ["type", "format", "description", "example", "default"]) :
    a.generalKeywords.lookup key = none := by
  simp only [List.mem_cons, List.not_mem_nil, or_false, not_or] at h
  unfold generalKeywords
  split <;> simp [List.lookup_append, lookup_keywordOf, lookup_cons_eq, h]

/-- The example and the fallback are told unless they are secret. -/
theorem lookup_generalKeywords_open :
    a.generalKeywords.lookup "example" = (if a.isSecret then none else a.sample) ∧
      a.generalKeywords.lookup "default" = if a.isSecret then none else a.fallback := by
  unfold generalKeywords
  split <;> simp [List.lookup_append, lookup_keywordOf, lookup_cons_eq]

/-- What is told under the keyword of enumerated values. -/
theorem lookup_choiceKeywords :
    a.choiceKeywords.lookup "enum" = if a.kind = .array then none else a.choices.map .list := by
  unfold choiceKeywords
  split
  · rfl
  · cases a.choices <;> simp

/-- Under other keywords the enumerated values tell nothing. -/
theorem lookup_choiceKeywords_of_ne (h : key ∉ ["enum", "x-enum-labels"]) :
    a.choiceKeywords.lookup key = none := by
  simp only [List.mem_cons, List.not_mem_nil, or_false, not_or] at h
  unfold choiceKeywords
  split
  · rfl
  · cases a.choices <;> simp [lookup_cons_eq, lookup_keywordOf, h]

/-- The step between numbers is told if there is one for the decimal places that are declared. -/
theorem numberKeywords_eq_ok_iff :
    a.numberKeywords = .ok own ↔
      ∃ step, (a.precision.value?.mapM placesStep) = .ok step ∧
        own = keywordOf "minimum" .float a.leastNumber ++
          keywordOf "maximum" .float a.greatestNumber ++ keywordOf "multipleOf" id step := by
  unfold numberKeywords
  cases a.precision.value? with
  | none => simp [bind, Except.bind, pure, Except.pure, eq_comm]
  | some places =>
    have hmap : (some places).mapM placesStep = (placesStep places).map some := rfl
    rw [hmap]
    cases hstep : placesStep places <;>
      simp [bind, Except.bind, pure, Except.pure, Except.map, hstep, eq_comm]

/-- What is told of a text by its kind. -/
theorem kindKeywords_of_text (hk : a.kind ∈ [.string, .url, .apiKey, .secret]) :
    a.kindKeywords = a.textKeywords := by
  simp only [List.mem_cons, List.not_mem_nil, or_false] at hk
  unfold kindKeywords
  rcases hk with hk | hk | hk | hk <;> rw [hk]

/-- The kind of a field tells nothing under the keywords of enumerated values, examples and
fallbacks. -/
theorem lookup_kindKeywords (h : a.kindKeywords = .ok own)
    (hkey : key ∈ ["enum", "example", "default"]) : own.lookup key = none := by
  have hothers : ∀ key ∈ ["enum", "example", "default"], key ∉ ["minLength", "maxLength", "pattern",
      "x-allowed-protocols", "minimum", "maximum", "multipleOf", "minItems", "maxItems", "uniqueItems",
      "x-min-date", "x-max-date", "x-timezone", "properties", "required", "x-allowed-mime-types",
      "x-max-file-size", "x-json-schema"] := by decide
  have hother := hothers key hkey
  simp only [List.mem_cons, List.not_mem_nil, or_false, not_or] at hother
  unfold kindKeywords at h
  split at h
  case h_1 | h_2 | h_3 | h_4 =>
    obtain ⟨least, -, h⟩ := exists_of_bind_eq_ok h
    obtain ⟨greatest, -, h⟩ := exists_of_bind_eq_ok h
    cases h
    simp [List.lookup_append, lookup_keywordOf, hother]
  case h_5 =>
    obtain ⟨step, -, rfl⟩ := numberKeywords_eq_ok_iff.mp h
    simp [List.lookup_append, lookup_keywordOf, hother]
  all_goals
    cases h
    simp [listKeywords, dateKeywords, fileKeywords, jsonKeywords, List.lookup_append,
      lookup_cons_eq, lookup_keywordOf, lookup_keywordIf, hother]

end FieldAttributes

namespace Definition

variable {d : Definition} {fragment : Value}

/-- What is told of the parts of a field. -/
def partKeywords (d : Definition) : Except Failure (List (String × Value)) :=
  match d.kind with
  | .array => describeItems d.items
  | .object => describeProperties d.attributes d.properties
  | _ => .ok []

/-- A fragment is put together from what is told in general, of the parts, by the kind and of the
enumerated values. -/
theorem describe_eq (d : Definition) :
    d.describe = d.attributes.kindKeywords.bind fun own => d.partKeywords.map fun parts =>
      .record (d.attributes.generalKeywords ++ parts ++ own ++ d.attributes.choiceKeywords) := by
  obtain ⟨a, items, properties⟩ := d
  rw [describe]
  unfold partKeywords kind
  dsimp only [bind]
  cases a.kindKeywords with
  | error failure => rfl
  | ok own =>
    dsimp only [Except.bind]
    cases a.kind
    case array => cases describeItems items <;> rfl
    case object => cases describeProperties a properties <;> rfl
    all_goals rfl

/-- A description is put together if the kind and the parts have something to tell. -/
theorem exists_of_describe (h : d.describe = .ok fragment) :
    ∃ own parts, d.attributes.kindKeywords = .ok own ∧ d.partKeywords = .ok parts ∧
      fragment = .record (d.attributes.generalKeywords ++ parts ++ own ++
        d.attributes.choiceKeywords) := by
  rw [describe_eq] at h
  obtain ⟨own, hown, h⟩ := exists_of_bind_eq_ok h
  obtain ⟨parts, hparts, rfl⟩ := exists_of_map_eq_ok h
  exact ⟨own, parts, hown, hparts, rfl⟩

/-- What a fragment tells under keywords that are no general ones. -/
theorem get?_of_describe (h : d.describe = .ok fragment) :
    ∃ own parts, d.attributes.kindKeywords = .ok own ∧ d.partKeywords = .ok parts ∧
      ∀ key ∉ ["type", "format", "description", "example", "default"],
        fragment.get? key = ((parts.lookup key).or (own.lookup key)).or
          (d.attributes.choiceKeywords.lookup key) := by
  obtain ⟨own, parts, hown, hparts, rfl⟩ := exists_of_describe h
  refine ⟨own, parts, hown, hparts, fun key hkey => ?_⟩
  simp [Value.get?, List.lookup_append, FieldAttributes.lookup_generalKeywords hkey,
    Option.or_assoc]

/-- Under other keywords the parts of a field tell nothing. -/
theorem lookup_partKeywords {parts : List (String × Value)} (h : d.partKeywords = .ok parts)
    {key : String} (hkey : key ∉ ["items", "properties", "required", "additionalProperties"]) :
    parts.lookup key = none := by
  simp only [List.mem_cons, List.not_mem_nil, or_false, not_or] at hkey
  unfold partKeywords at h
  split at h
  · unfold describeItems at h
    split at h
    · obtain ⟨part, -, rfl⟩ := exists_of_map_eq_ok h
      simp [lookup_cons_eq, hkey]
    · cases h
      rfl
  · unfold describeProperties at h
    split at h
    · obtain ⟨fragments, -, h⟩ := exists_of_bind_eq_ok h
      cases h
      simp [lookup_cons_eq, List.lookup_append, lookup_keywordIf, hkey]
    · cases h
      rfl
  · cases h
    rfl

/-- The enumerated values of a field are told, unless it holds lists. -/
theorem get?_enum_of_describe (h : d.describe = .ok fragment) :
    fragment.get? "enum" = if d.kind = .array then none else d.attributes.choices.map .list := by
  obtain ⟨own, parts, hown, hparts, hget⟩ := get?_of_describe h
  rw [hget "enum" (by decide), lookup_partKeywords hparts (by decide),
    FieldAttributes.lookup_kindKeywords hown (by decide), FieldAttributes.lookup_choiceKeywords]
  rfl

/-- The example and the fallback of a field are told unless they are secret. -/
theorem get?_open_of_describe (h : d.describe = .ok fragment) :
    fragment.get? "example" = (if d.isSecret then none else d.attributes.sample) ∧
      fragment.get? "default" = if d.isSecret then none else d.attributes.fallback := by
  obtain ⟨own, parts, hown, hparts, rfl⟩ := exists_of_describe h
  have hgeneral : ∀ key ∈ ["example", "default"], (Value.record (d.attributes.generalKeywords ++
      parts ++ own ++ d.attributes.choiceKeywords)).get? key =
        d.attributes.generalKeywords.lookup key := by
    have hothers : ∀ key ∈ ["example", "default"],
        key ∉ ["items", "properties", "required", "additionalProperties"] ∧
          key ∈ ["enum", "example", "default"] ∧ key ∉ ["enum", "x-enum-labels"] := by decide
    intro key hkey
    obtain ⟨hpart, hkind, hchoice⟩ := hothers key hkey
    simp [Value.get?, List.lookup_append, lookup_partKeywords hparts hpart,
      FieldAttributes.lookup_kindKeywords hown hkind,
      FieldAttributes.lookup_choiceKeywords_of_ne hchoice]
  rw [hgeneral _ (by decide), hgeneral _ (by decide)]
  exact FieldAttributes.lookup_generalKeywords_open

/-- The bounds of a field are told by its kind. -/
theorem get?_bound_of_describe (h : d.describe = .ok fragment) :
    ∃ own, d.attributes.kindKeywords = .ok own ∧
      ∀ key ∈ ["minLength", "maxLength", "minimum", "maximum", "minItems", "maxItems"],
        fragment.get? key = own.lookup key := by
  have hothers : ∀ key ∈ ["minLength", "maxLength", "minimum", "maximum", "minItems", "maxItems"],
      key ∉ ["items", "properties", "required", "additionalProperties"] ∧
        key ∉ ["enum", "x-enum-labels"] ∧
        key ∉ ["type", "format", "description", "example", "default"] := by decide
  obtain ⟨own, parts, hown, hparts, hget⟩ := get?_of_describe h
  refine ⟨own, hown, fun key hkey => ?_⟩
  obtain ⟨hpart, hchoice, hgeneral⟩ := hothers key hkey
  rw [hget key hgeneral, lookup_partKeywords hparts hpart,
    FieldAttributes.lookup_choiceKeywords_of_ne hchoice, Option.none_or, Option.or_none]

/-- The bounds told of a text are the lengths in force. -/
theorem bound?_of_text (h : d.describe = .ok fragment)
    (hk : d.kind ∈ [.string, .url, .apiKey, .secret]) :
    ∃ least greatest, d.attributes.leastLength = .ok least ∧
      d.attributes.greatestLength = .ok greatest ∧
      fragment.bound? "minLength" = least.map .int ∧
      fragment.bound? "maxLength" = greatest.map .int := by
  obtain ⟨own, hown, hget⟩ := get?_bound_of_describe h
  rw [FieldAttributes.kindKeywords_of_text hk] at hown
  obtain ⟨least, hleast, hown⟩ := exists_of_bind_eq_ok hown
  obtain ⟨greatest, hgreatest, hown⟩ := exists_of_bind_eq_ok hown
  cases hown
  refine ⟨least, greatest, hleast, hgreatest, Value.bound?_of_int ?_, Value.bound?_of_int ?_⟩
  all_goals
    rw [hget _ (by decide)]
    simp [List.lookup_append, lookup_keywordOf]

/-- The bounds told of a number are the ones in force. -/
theorem bound?_of_number (h : d.describe = .ok fragment) (hk : d.kind = .number) :
    fragment.bound? "minimum" = d.attributes.leastNumber.map .float ∧
      fragment.bound? "maximum" = d.attributes.greatestNumber.map .float := by
  obtain ⟨own, hown, hget⟩ := get?_bound_of_describe h
  unfold FieldAttributes.kindKeywords at hown
  rw [show d.attributes.kind = .number from hk] at hown
  obtain ⟨step, -, rfl⟩ := FieldAttributes.numberKeywords_eq_ok_iff.mp hown
  refine ⟨Value.bound?_of_float ?_, Value.bound?_of_float ?_⟩
  all_goals
    rw [hget _ (by decide)]
    simp [List.lookup_append, lookup_keywordOf]

/-- The bounds told of a list are the declared ones. -/
theorem bound?_of_array (h : d.describe = .ok fragment) (hk : d.kind = .array) :
    fragment.bound? "minItems" = d.attributes.minItems.value?.map .int ∧
      fragment.bound? "maxItems" = d.attributes.maxItems.value?.map .int := by
  obtain ⟨own, hown, hget⟩ := get?_bound_of_describe h
  unfold FieldAttributes.kindKeywords at hown
  rw [show d.attributes.kind = .array from hk] at hown
  cases hown
  refine ⟨Value.bound?_of_int ?_, Value.bound?_of_int ?_⟩
  all_goals
    rw [hget _ (by decide)]
    simp [FieldAttributes.listKeywords, List.lookup_append, lookup_keywordOf, lookup_keywordIf]

/-- The names told as required are those of the required properties. -/
theorem namesUnder_required (h : d.describe = .ok fragment) (hk : d.kind = .object)
    {fields : FieldMap} (hp : d.properties = .of fields) :
    fragment.namesUnder "required" = requiredNames d.attributes fields := by
  obtain ⟨own, parts, hown, hparts, hget⟩ := get?_of_describe h
  replace hget := hget "required" (by decide)
  rw [FieldAttributes.lookup_choiceKeywords_of_ne (by decide)] at hget
  unfold FieldAttributes.kindKeywords at hown
  rw [show d.attributes.kind = .object from hk] at hown
  cases hown
  unfold partKeywords at hparts
  rw [hk, hp] at hparts
  unfold describeProperties at hparts
  obtain ⟨fragments, -, hparts⟩ := exists_of_bind_eq_ok hparts
  cases hparts
  simp only [List.lookup_append, lookup_cons_eq, lookup_keywordIf, List.lookup_nil] at hget
  cases hnames : requiredNames d.attributes fields with
  | nil => exact Value.namesUnder_of_none (by simpa [hnames] using hget)
  | cons name rest => exact Value.namesUnder_of_texts (by simpa [hnames] using hget)

/-- A definition has a description. -/
def IsDescribed (d : Definition) : Prop := ∃ fragment, d.describe = .ok fragment

/-- A definition is described if its kind and its parts are. -/
theorem isDescribed_iff (d : Definition) :
    d.IsDescribed ↔ (∃ own, d.attributes.kindKeywords = .ok own) ∧
      ∃ parts, d.partKeywords = .ok parts := by
  unfold IsDescribed
  rw [describe_eq]
  cases d.attributes.kindKeywords with
  | error failure => simp [Except.bind]
  | ok own => cases d.partKeywords <;> simp [Except.bind, Except.map]

/-- Fields are described if each of them is. -/
theorem exists_describeFields_iff (fields : FieldMap) :
    (∃ fragments, describeFields fields = .ok fragments) ↔
      ∀ name p, (name, p) ∈ fields → p.IsDescribed := by
  induction fields with
  | nil => simp [describeFields]
  | cons field rest ih =>
    obtain ⟨name, p⟩ := field
    have hrest : (∀ other q, (other, q) ∈ (name, p) :: rest → q.IsDescribed) ↔
        p.IsDescribed ∧ ∃ fragments, describeFields rest = .ok fragments := by
      rw [ih]
      simp only [List.mem_cons, Prod.mk.injEq]
      constructor
      · exact fun h => ⟨h name p (.inl ⟨rfl, rfl⟩), fun other q hm => h other q (.inr hm)⟩
      · rintro ⟨hp, hothers⟩ other q (⟨rfl, rfl⟩ | hm)
        · exact hp
        · exact hothers other q hm
    rw [hrest, describeFields, IsDescribed]
    cases p.describe with
    | error failure => simp [bind, Except.bind]
    | ok fragment =>
      cases describeFields rest <;> simp [bind, Except.bind, pure, Except.pure]

end Definition

end Intake
