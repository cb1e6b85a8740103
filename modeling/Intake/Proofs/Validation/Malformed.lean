import Intake.Proofs.Results
import Intake.Proofs.Validation.Order

/-!
# Malformed declarations

The definitions that fields declare, items of lists and properties of records among them, are made
ready one after the other, parts before what they are parts of, and the first that cannot be made
ready decides. Most malformed definitions are told as such. Some break: a bound of lengths that has no
integer part, a pattern whose reader fails, a JSON Schema whose check fails. And a record without
definitions of properties may require some, which nobody notices. Main statement: malformed
declarations are reported as they should be if and only if no definition breaks before another one is
told, and none requires properties unnoticed unless another one is told.
-/

namespace Intake

mutual

/-- The definitions declared in a definition with their labels, in the order in which they are made
ready. -/
def Definition.declared (label : String) (d : Definition) : List (String × Definition) :=
  match d with
  | ⟨a, items, properties⟩ =>
    (match a.kind with
      | .array => declaredItems label items
      | .object => declaredProperties label properties
      | _ => []) ++ [(label, ⟨a, items, properties⟩)]

/-- The definitions declared for the items of a list. -/
def declaredItems (label : String) (items : Slot Definition) : List (String × Definition) :=
  match items with
  | .of item => item.declared (label ++ "[]")
  | _ => []

/-- The definitions declared for the properties of a record. -/
def declaredProperties (label : String) (properties : Slot (List (String × Definition))) :
    List (String × Definition) :=
  match properties with
  | .of fields => declaredFields (fun name => label ++ "." ++ name) fields
  | _ => []

/-- The definitions declared by name, each under the label of its name. -/
def declaredFields (labelOf : String → String) (fields : List (String × Definition)) :
    List (String × Definition) :=
  match fields with
  | [] => []
  | (name, d) :: rest => d.declared (labelOf name) ++ declaredFields labelOf rest

end

/-- The definitions that fields declare with their labels, in the order in which they are made
ready. -/
def FieldMap.declared (fields : FieldMap) : List (String × Definition) := declaredFields id fields

namespace FieldAttributes

/-- The lengths of texts are bounded by a number of the rules that is infinite or none. -/
def LengthNotFinite (a : FieldAttributes) : Prop :=
  (a.minLength.value? = none ∧ ∃ x, a.ruleMinimum = some x ∧ x.isFinite = false) ∨
    a.maxLength.value? = none ∧ ∃ x, a.ruleMaximum = some x ∧ x.isFinite = false

/-- The pattern in force cannot be read. -/
def Misreads (a : FieldAttributes) (e : PatternError) : Prop :=
  ∃ text, a.searchText = some text ∧ Pattern.read text = .error e

/-- A pattern is misread in one way. -/
theorem Misreads.unique {a : FieldAttributes} {e e' : PatternError} (h : a.Misreads e)
    (h' : a.Misreads e') : e = e' := by
  obtain ⟨text, htext, hread⟩ := h
  obtain ⟨text', htext', hread'⟩ := h'
  cases htext.symm.trans htext'
  exact Except.error.inj (hread.symm.trans hread')

/-- A date bounds a field, in writing. -/
def IsDateBound (a : FieldAttributes) (text : String) : Prop :=
  a.minDate.value? = some text ∨ a.maxDate.value? = some text

/-- The properties that a record requires. -/
def requiredNames (a : FieldAttributes) : List String := a.requiredProperties.value?.getD []

end FieldAttributes

namespace Definition

/-- A definition is malformed, its parts apart. -/
def Malformed (d : Definition) : Prop :=
  match d.kind with
  | .enumeration => d.attributes.choices = none
  | .object => ∃ name ∈ d.attributes.requiredNames, name ∉ d.propertyNames
  | .string | .url | .apiKey | .secret =>
    d.attributes.LengthNotFinite ∨ ∃ e, d.attributes.Misreads e
  | .date => ∃ text, d.attributes.IsDateBound text ∧ Value.date? (.text text) = none
  | .dateTime => ∃ text, d.attributes.IsDateBound text ∧ Value.dateTime? (.text text) = none
  | .json =>
    ∃ schema, d.attributes.declaredSchema = some schema ∧
      JsonSchema.fault? (.record schema) ≠ .ok none
  | _ => False

/-- What is declared cannot even be judged: lengths have no integer part, or the reader of patterns or
the check of JSON Schemas fails. -/
def Breaks (d : Definition) : Prop :=
  match d.kind with
  | .string | .url | .apiKey | .secret =>
    d.attributes.LengthNotFinite ∨
      ∃ e, d.attributes.Misreads e ∧ ∀ fault position, e ≠ .malformed fault position
  | .json =>
    ∃ schema, d.attributes.declaredSchema = some schema ∧
      ∃ failure, JsonSchema.fault? (.record schema) = .error failure
  | _ => False

/-- A record whose properties have no definitions requires some. -/
structure RequiresUndefined (d : Definition) : Prop where
  kind : d.kind = .object
  undefined : ∀ fields, d.properties ≠ .of fields
  required : d.attributes.requiredNames ≠ []

/-- A malformed definition that is told as such. -/
structure IsTold (d : Definition) : Prop where
  malformed : d.Malformed
  judged : ¬ d.Breaks
  noticed : ¬ d.RequiresUndefined

/-- What keeps a definition from being made ready whose parts are ready. -/
def obstacle? (label : String) (d : Definition) : Option CompileError :=
  match d.kind, d.properties with
  | .object, .of fields =>
    match Compile.undeclaredNames d.attributes.requiredNames (fields.map (·.1)) with
    | [] => none
    | names => some (.schema (.undeclared label names))
  | _, _ => errorOf? (Compile.leafRule label d.attributes)

section

variable {d : Definition} {label : String}

theorem declared_of_items {item : Definition} (hk : d.kind = .array) (hi : d.items = .of item) :
    d.declared label = item.declared (label ++ "[]") ++ [(label, d)] := by
  obtain ⟨a, items, properties⟩ := d
  have hkind : a.kind = .array := hk
  have hitems : items = .of item := hi
  simp only [declared, hkind, hitems, declaredItems]

theorem declared_of_properties {fields : FieldMap} (hk : d.kind = .object)
    (hp : d.properties = .of fields) :
    d.declared label =
      declaredFields (fun name => label ++ "." ++ name) fields ++ [(label, d)] := by
  obtain ⟨a, items, properties⟩ := d
  have hkind : a.kind = .object := hk
  have hproperties : properties = .of fields := hp
  simp only [declared, hkind, hproperties, declaredProperties]

theorem declared_of_whole (hw : d.IsWhole) : d.declared label = [(label, d)] := by
  obtain ⟨a, items, properties⟩ := d
  rw [declared]
  split
  · rename_i hk
    cases items with
    | of item => exact absurd rfl (hw.items hk item)
    | undeclared | null => rfl
  · rename_i hk
    cases properties with
    | of fields => exact absurd rfl (hw.properties hk fields)
    | undeclared | null => rfl
  · rfl

theorem obstacle?_of_items (hk : d.kind = .array) : d.obstacle? label = none := by
  have hkind : d.attributes.kind = .array := hk
  simp [obstacle?, hk, Compile.leafRule, hkind]

theorem obstacle?_of_properties {fields : FieldMap} (hk : d.kind = .object)
    (hp : d.properties = .of fields) :
    d.obstacle? label =
      match Compile.undeclaredNames d.attributes.requiredNames (fields.map (·.1)) with
      | [] => none
      | names => some (.schema (.undeclared label names)) := by
  simp only [obstacle?, hk, hp]

theorem obstacle?_of_whole (hw : d.IsWhole) :
    d.obstacle? label = errorOf? (Compile.leafRule label d.attributes) := by
  unfold obstacle?
  split
  · rename_i hk hp
    exact absurd hp (hw.properties hk _)
  · rfl

end

/-- Fields are made ready until the first obstacle in one of them. -/
theorem errorOf?_compileFields (labelOf : String → String) {fields : FieldMap}
    (h : ∀ name p, (name, p) ∈ fields → ∀ label, errorOf? (p.compile label) =
      (p.declared label).findSome? fun part => part.2.obstacle? part.1) :
    errorOf? (compileFields labelOf fields) =
      (declaredFields labelOf fields).findSome? fun part => part.2.obstacle? part.1 := by
  induction fields with
  | nil => rfl
  | cons field rest ih =>
    obtain ⟨name, p⟩ := field
    have hfirst := h name p List.mem_cons_self (labelOf name)
    have hrest := ih fun other q hm => h other q (List.mem_cons_of_mem _ hm)
    rw [compileFields, declaredFields, List.findSome?_append, ← hfirst, ← hrest]
    cases p.compile (labelOf name) with
    | error e => rfl
    | ok check => cases compileFields labelOf rest <;> rfl

/-- The first obstacle in a definition keeps it from being made ready, and nothing else does. -/
theorem errorOf?_compile (d : Definition) (label : String) :
    errorOf? (d.compile label) =
      (d.declared label).findSome? fun part => part.2.obstacle? part.1 := by
  induction d using nested_induction generalizing label with
  | step d hitems hproperties =>
    rcases shape d with ⟨hk, item, hi⟩ | ⟨hk, fields, hp⟩ | hw
    · have hitem := hitems item hi (label ++ "[]")
      rw [compile_of_items hk hi, compileItems, declared_of_items hk hi, List.findSome?_append,
        ← hitem, List.findSome?_singleton, obstacle?_of_items hk]
      cases item.compile (label ++ "[]") <;> rfl
    · have hfields := errorOf?_compileFields (fun name => label ++ "." ++ name)
        (hproperties fields hp)
      rw [compile_of_properties hk hp, compileProperties, declared_of_properties hk hp,
        List.findSome?_append, ← hfields, List.findSome?_singleton, obstacle?_of_properties hk hp]
      cases hchecks : compileFields (fun name => label ++ "." ++ name) fields with
      | error e => rfl
      | ok checks =>
        rw [← names_of_compileFields hchecks]
        dsimp only [FieldAttributes.requiredNames]
        cases Compile.undeclaredNames (d.attributes.requiredProperties.value?.getD [])
          (checks.map (·.1)) <;> rfl
    · rw [compile_of_whole hw, errorOf?_map, declared_of_whole hw, List.findSome?_singleton,
        obstacle?_of_whole hw]

end Definition

/-- A double without an integer part is not finite. -/
theorem Binary64.integerPart_eq_error {x : Binary64} {failure : Failure}
    (h : x.integerPart = .error failure) : x.isFinite = false := by
  cases x with
  | finite => cases h
  | infinite | nan => rfl

/-- A double with an integer part is finite. -/
theorem Binary64.isFinite_of_integerPart {x : Binary64} {n : Int} (h : x.integerPart = .ok n) :
    x.isFinite = true := by
  cases x with
  | finite => rfl
  | infinite | nan => cases h

/-- There is no length bound if and only if it would be a bound of the rules that is not finite. -/
theorem lengthBound_eq_error_iff (own : Option Int) (rule : Option Binary64) :
    (∃ failure, lengthBound own rule = .error failure) ↔
      own = none ∧ ∃ x, rule = some x ∧ x.isFinite = false := by
  rcases own with - | n
  · rcases rule with - | x
    · simp [lengthBound]
    · cases hx : x.integerPart with
      | error failure =>
        simp [lengthBound, hx, Except.map, Binary64.integerPart_eq_error hx]
      | ok n => simp [lengthBound, hx, Except.map, Binary64.isFinite_of_integerPart hx]
  · simp [lengthBound]

namespace Compile

variable {label : String} {a : FieldAttributes}

/-- What is asked of a text can be said unless a length is not finite or the pattern is misread. -/
inductive TextOutcome (label : String) (a : FieldAttributes) : Option CompileError → Prop
  /-- All of it can be said. -/
  | clear (hlength : ¬ a.LengthNotFinite) (hpattern : ∀ e, ¬ a.Misreads e) : TextOutcome label a none
  /-- The pattern is malformed. -/
  | malformed {fault : SchemaFault} (hlabel : fault.label = label) (hlength : ¬ a.LengthNotFinite)
    {problem : PatternFault} {position : Option Nat}
    (hpattern : a.Misreads (.malformed problem position)) :
    TextOutcome label a (some (.schema fault))
  /-- A length is not finite. -/
  | length {failure : Failure} (h : a.LengthNotFinite) : TextOutcome label a (some (.failure failure))
  /-- The reader of patterns fails. -/
  | pattern {failure : Failure} {e : PatternError} (h : a.Misreads e)
    (hraw : ∀ fault position, e ≠ .malformed fault position) :
    TextOutcome label a (some (.failure failure))

theorem textOutcome_textRule (label : String) (a : FieldAttributes) :
    TextOutcome label a (errorOf? (textRule label a)) := by
  have hleast := lengthBound_eq_error_iff a.minLength.value? a.ruleMinimum
  have hgreatest := lengthBound_eq_error_iff a.maxLength.value? a.ruleMaximum
  unfold textRule FieldAttributes.leastLength FieldAttributes.greatestLength
  cases hl : lengthBound a.minLength.value? a.ruleMinimum with
  | error failure => exact .length (.inl (hleast.mp ⟨failure, hl⟩))
  | ok least =>
    cases hg : lengthBound a.maxLength.value? a.ruleMaximum with
    | error failure => exact .length (.inr (hgreatest.mp ⟨failure, hg⟩))
    | ok greatest =>
      have hlength : ¬ a.LengthNotFinite := by
        unfold FieldAttributes.LengthNotFinite
        rw [← hleast, ← hgreatest, hl, hg]
        simp
      cases ht : a.searchText with
      | none => exact .clear hlength fun e he => by simp [FieldAttributes.Misreads, ht] at he
      | some text =>
        have hmisreads (e : PatternError) : a.Misreads e ↔ Pattern.read text = .error e := by
          simp [FieldAttributes.Misreads, ht]
        cases hread : Pattern.read text with
        | ok p =>
          simp only [optional, pattern, hread]
          exact .clear hlength fun e he => by simp [hmisreads, hread] at he
        | error e =>
          simp only [optional, pattern, hread]
          cases e with
          | malformed problem position => exact .malformed rfl hlength ((hmisreads _).mpr hread)
          | countTooLarge | tooManyDigits | clashingModes =>
            exact .pattern ((hmisreads _).mpr hread) fun _ _ => PatternError.noConfusion

theorem errorOf?_confidentialRule (label : String) (a : FieldAttributes) :
    errorOf? (confidentialRule label a) = errorOf? (textRule label a) := by
  unfold confidentialRule
  cases textRule label a <;> rfl

/-- A date that is declared bounds a field unless it cannot be read. -/
theorem errorOf?_bound {α : Type} (read? : Value → Option α) (label : String)
    (declared : Option String) :
    (errorOf? (optional (bound read? label) declared) = none ∧
        ∀ text, declared = some text → read? (.text text) ≠ none) ∨
      ∃ text, errorOf? (optional (bound read? label) declared) =
          some (.schema (.bound label text)) ∧
        declared = some text ∧ read? (.text text) = none := by
  cases declared with
  | none => simp [optional]
  | some text => cases h : read? (.text text) <;> simp [optional, bound, h]

/-- Dates bound a field unless one of them cannot be read. -/
theorem errorOf?_range {α : Type} (read? : Value → Option α) (label : String) (a : FieldAttributes) :
    (errorOf? (range read? label a) = none ∧
        ∀ text, a.IsDateBound text → read? (.text text) ≠ none) ∨
      ∃ text, errorOf? (range read? label a) = some (.schema (.bound label text)) ∧
        a.IsDateBound text ∧ read? (.text text) = none := by
  have hrange : errorOf? (range read? label a) =
      (errorOf? (optional (bound read? label) a.minDate.value?)).or
        (errorOf? (optional (bound read? label) a.maxDate.value?)) :=
    errorOf?_bind_of_eq fun _ => errorOf?_bind_pure _ _
  rw [hrange]
  rcases errorOf?_bound read? label a.minDate.value? with
    ⟨hnone, hearliest⟩ | ⟨text, htext, hbound, hread⟩
  · rw [hnone, Option.none_or]
    rcases errorOf?_bound read? label a.maxDate.value? with
      ⟨hnone, hlatest⟩ | ⟨text, htext, hbound, hread⟩
    · exact .inl ⟨hnone, fun text hbound => hbound.elim (hearliest text) (hlatest text)⟩
    · exact .inr ⟨text, htext, .inr hbound, hread⟩
  · rw [htext, Option.some_or]
    exact .inr ⟨text, rfl, .inl hbound, hread⟩

end Compile

namespace Definition

/-- What keeps a definition from being made ready tells what is wrong with it. -/
inductive Assessed (d : Definition) (label : String) : Option CompileError → Prop
  /-- Nothing is wrong, or nobody notices. -/
  | clear (hbreaks : ¬ d.Breaks) (hmalformed : d.Malformed → d.RequiresUndefined) :
    Assessed d label none
  /-- A malformed definition is told at its label. -/
  | told {fault : SchemaFault} (hlabel : fault.label = label) (h : d.IsTold) :
    Assessed d label (some (.schema fault))
  /-- A definition breaks. -/
  | breaks {failure : Failure} (h : d.Breaks) : Assessed d label (some (.failure failure))

variable {d : Definition}

theorem not_requiresUndefined (hk : d.kind ≠ .object) : ¬ d.RequiresUndefined :=
  fun h => hk h.kind

/-- Fields of texts are assessed by what is asked of a text. -/
theorem assessed_text {label : String} {e : Option CompileError}
    (hk : d.kind ∈ [.string, .url, .apiKey, .secret])
    (h : Compile.TextOutcome label d.attributes e) : d.Assessed label e := by
  have hobject : d.kind ≠ .object := by
    rintro heq
    simp [heq] at hk
  have hmalformed : d.Malformed ↔ d.attributes.LengthNotFinite ∨ ∃ e, d.attributes.Misreads e := by
    unfold Malformed
    generalize d.kind = k at hk
    cases k <;> simp at hk ⊢
  have hbreaks : d.Breaks ↔ d.attributes.LengthNotFinite ∨
      ∃ e, d.attributes.Misreads e ∧ ∀ fault position, e ≠ .malformed fault position := by
    unfold Breaks
    generalize d.kind = k at hk
    cases k <;> simp at hk ⊢
  cases h with
  | clear hlength hpattern =>
    refine .clear ?_ ?_
    · rw [hbreaks]
      rintro (h | ⟨e, he, -⟩)
      · exact hlength h
      · exact hpattern e he
    · rw [hmalformed]
      rintro (h | ⟨e, he⟩)
      · exact absurd h hlength
      · exact absurd he (hpattern e)
  | malformed hlabel hlength hpattern =>
    refine .told hlabel ⟨hmalformed.mpr (.inr ⟨_, hpattern⟩), ?_, not_requiresUndefined hobject⟩
    rw [hbreaks]
    rintro (h | ⟨e, he, hraw⟩)
    · exact hlength h
    · exact hraw _ _ (he.unique hpattern)
  | length h => exact .breaks (hbreaks.mpr (.inl h))
  | pattern h hraw => exact .breaks (hbreaks.mpr (.inr ⟨_, h, hraw⟩))

/-- Fields of dates are assessed by the dates that bound them. -/
theorem assessed_range {label : String} {α : Type} {read? : Value → Option α}
    (hk : d.kind ≠ .object) (hbreaks : ¬ d.Breaks)
    (hmalformed : d.Malformed ↔ ∃ text, d.attributes.IsDateBound text ∧ read? (.text text) = none) :
    d.Assessed label (errorOf? (Compile.range read? label d.attributes)) := by
  rcases Compile.errorOf?_range read? label d.attributes with ⟨hnone, hread⟩ | ⟨text, htext, h⟩
  · rw [hnone]
    refine .clear hbreaks fun hm => ?_
    obtain ⟨text, hbound, hnone⟩ := hmalformed.mp hm
    exact absurd hnone (hread text hbound)
  · rw [htext]
    exact .told rfl ⟨hmalformed.mpr ⟨text, h⟩, hbreaks, not_requiresUndefined hk⟩

/-- Fields of JSON are assessed by the check of their JSON Schema. -/
theorem assessed_json {label : String} (hk : d.kind = .json) :
    d.Assessed label (errorOf?
      (Compile.optional (Compile.jsonSchema label) d.attributes.declaredSchema)) := by
  have hobject : ¬ d.RequiresUndefined := not_requiresUndefined (by simp [hk])
  cases hs : d.attributes.declaredSchema with
  | none => exact .clear (by simp [Breaks, hk, hs]) (by simp [Malformed, hk, hs])
  | some schema =>
    simp only [Compile.optional, Compile.jsonSchema, errorOf?_map]
    cases hf : JsonSchema.fault? (.record schema) with
    | error failure => exact .breaks (by simp [Breaks, hk, hs, hf])
    | ok problem? =>
      have hbreaks : ¬ d.Breaks := by simp [Breaks, hk, hs, hf]
      cases problem? with
      | none => exact .clear hbreaks (by simp [Malformed, hk, hs, hf])
      | some problem => exact .told rfl ⟨by simp [Malformed, hk, hs, hf], hbreaks, hobject⟩

/-- What keeps a definition in which none is looked at from being made ready tells what is wrong with
it. -/
theorem assessed_whole (hw : d.IsWhole) (label : String) :
    d.Assessed label (errorOf? (Compile.leafRule label d.attributes)) := by
  unfold Compile.leafRule
  cases hk : d.attributes.kind with
  | string | url =>
    dsimp only
    rw [errorOf?_bind_pure]
    exact assessed_text (by simp [kind, hk]) (Compile.textOutcome_textRule label d.attributes)
  | apiKey | secret =>
    dsimp only
    rw [errorOf?_bind_pure, Compile.errorOf?_confidentialRule]
    exact assessed_text (by simp [kind, hk]) (Compile.textOutcome_textRule label d.attributes)
  | number | boolean | array | time | file =>
    exact .clear (by simp [Breaks, kind, hk]) (by simp [Malformed, kind, hk])
  | enumeration =>
    cases hc : d.attributes.choices with
    | none =>
      exact .told rfl ⟨by simp [Malformed, kind, hk, hc], by simp [Breaks, kind, hk],
        not_requiresUndefined (by simp [kind, hk])⟩
    | some values =>
      exact .clear (by simp [Breaks, kind, hk]) (by simp [Malformed, kind, hk, hc])
  | object =>
    refine .clear (by simp [Breaks, kind, hk]) fun hm => ?_
    simp only [Malformed, kind, hk] at hm
    obtain ⟨name, hrequired, -⟩ := hm
    exact ⟨hk, hw.properties hk, List.ne_nil_of_mem hrequired⟩
  | date =>
    dsimp only
    rw [errorOf?_bind_pure]
    exact assessed_range (by simp [kind, hk]) (by simp [Breaks, kind, hk])
      (by simp [Malformed, kind, hk])
  | dateTime =>
    dsimp only
    rw [errorOf?_bind_pure]
    exact assessed_range (by simp [kind, hk]) (by simp [Breaks, kind, hk])
      (by simp [Malformed, kind, hk])
  | json =>
    dsimp only
    rw [errorOf?_bind_pure]
    exact assessed_json hk

/-- What keeps a definition from being made ready tells what is wrong with it, its parts apart. -/
theorem assessed (d : Definition) (label : String) : d.Assessed label (d.obstacle? label) := by
  rcases shape d with ⟨hk, item, -⟩ | ⟨hk, fields, hp⟩ | hw
  · rw [obstacle?_of_items hk]
    exact .clear (by simp [Breaks, hk]) (by simp [Malformed, hk])
  · have hnames : d.propertyNames = fields.map (·.1) := by simp only [propertyNames, hp]
    have hbreaks : ¬ d.Breaks := by simp [Breaks, hk]
    have hmalformed := undeclaredNames_eq_nil_iff d.attributes.requiredNames d.propertyNames
    rw [obstacle?_of_properties hk hp, ← hnames]
    split
    · next hnil =>
      refine .clear hbreaks fun hm => ?_
      simp only [Malformed, hk] at hm
      obtain ⟨name, hrequired, hname⟩ := hm
      exact absurd (hmalformed.mp hnil name hrequired) hname
    · next hnames =>
      refine .told rfl ⟨?_, hbreaks, fun h => h.undefined fields hp⟩
      simp only [Malformed, hk]
      by_contra hall
      push Not at hall
      exact hnames (hmalformed.mpr hall)
  · rw [obstacle?_of_whole hw]
    exact assessed_whole hw label

section

variable {label : String} {fault : SchemaFault} {failure : Failure}

theorem breaks_of_obstacle (h : d.obstacle? label = some (.failure failure)) : d.Breaks := by
  have ha := d.assessed label
  rw [h] at ha
  cases ha with
  | breaks hbreaks => exact hbreaks

theorem isTold_of_obstacle (h : d.obstacle? label = some (.schema fault)) :
    fault.label = label ∧ d.IsTold := by
  have ha := d.assessed label
  rw [h] at ha
  cases ha with
  | told hlabel htold => exact ⟨hlabel, htold⟩

theorem not_breaks_of_obstacle (h : d.obstacle? label = none) :
    ¬ d.Breaks ∧ (d.Malformed → d.RequiresUndefined) := by
  have ha := d.assessed label
  rw [h] at ha
  cases ha with
  | clear hbreaks hmalformed => exact ⟨hbreaks, hmalformed⟩

end

/-- A definition that is told is not ready. -/
theorem IsTold.obstacle?_ne_none (h : d.IsTold) (label : String) : d.obstacle? label ≠ none :=
  fun hnone => h.noticed ((not_breaks_of_obstacle hnone).2 h.malformed)

/-- A definition that breaks is kept from being made ready by a failure. -/
theorem Breaks.obstacle?_eq (h : d.Breaks) (label : String) :
    ∃ failure, d.obstacle? label = some (.failure failure) := by
  have ha := d.assessed label
  cases hd : d.obstacle? label with
  | none => exact absurd h (not_breaks_of_obstacle hd).1
  | some e =>
    cases e with
    | schema fault => exact absurd h (isTold_of_obstacle hd).2.judged
    | failure failure => exact ⟨failure, rfl⟩

/-- What breaks is malformed. -/
theorem Breaks.malformed (h : d.Breaks) : d.Malformed := by
  unfold Breaks at h
  unfold Malformed
  generalize d.kind = k at h ⊢
  cases k with
  | string | url | apiKey | secret => exact h.imp_right fun ⟨e, he, _⟩ => ⟨e, he⟩
  | json =>
    obtain ⟨schema, hschema, failure, hfails⟩ := h
    exact ⟨schema, hschema, by simp [hfails]⟩
  | _ => exact h.elim

/-- Properties that are required and not defined are not declared. -/
theorem RequiresUndefined.malformed (h : d.RequiresUndefined) : d.Malformed := by
  have hw : d.IsWhole := ⟨fun hk => by simp [h.kind] at hk, fun _ => h.undefined⟩
  obtain ⟨name, hrequired⟩ := List.exists_mem_of_ne_nil _ h.required
  simp only [Malformed, h.kind, hw.propertyNames_eq h.kind]
  exact ⟨name, hrequired, List.not_mem_nil⟩

end Definition

namespace FieldMap

/-- Malformed declarations are reported. -/
structure ReportsFaults (fields : FieldMap) (options : Options) (name : String) : Prop where
  /-- There is a fault of the schema if and only if a definition is malformed. -/
  reported : (∃ fault, Validator.compile options name fields = .error (.schema fault)) ↔
    ∃ part ∈ fields.declared, part.2.Malformed
  /-- The fault is told at the label of a malformed definition. -/
  located : ∀ fault, Validator.compile options name fields = .error (.schema fault) →
    ∃ d, (fault.label, d) ∈ fields.declared ∧ d.Malformed
  /-- In every other case there is a validator. -/
  settled : (∃ validator, Validator.compile options name fields = .ok validator) ∨
    ∃ fault, Validator.compile options name fields = .error (.schema fault)

/-- What is malformed can be reported. -/
structure IsReportable (fields : FieldMap) : Prop where
  /-- No definition breaks before another one is told. -/
  inTime : ∀ before label d after, fields.declared = before ++ (label, d) :: after → d.Breaks →
    ∃ part ∈ before, part.2.IsTold
  /-- None requires properties that are not defined, unless another one is told. -/
  noticed : ∀ part ∈ fields.declared, part.2.RequiresUndefined →
    ∃ other ∈ fields.declared, other.2.IsTold

variable {fields : FieldMap} {options : Options} {name : String}

/-- The first obstacle in fields keeps them from being made ready, and nothing else does. -/
theorem errorOf?_compile (fields : FieldMap) (options : Options) (name : String) :
    errorOf? (Validator.compile options name fields) =
      fields.declared.findSome? fun part => part.2.obstacle? part.1 := by
  rw [declared, ← Definition.errorOf?_compileFields id fun _ p _ => p.errorOf?_compile,
    Validator.compile]
  cases compileFields id fields <;> rfl

/-- If fields are ready, malformed declarations were reported only if there are none. -/
theorem reportsFaults_iff_of_ok {validator : Validator}
    (hc : Validator.compile options name fields = .ok validator) :
    fields.ReportsFaults options name ↔ fields.IsReportable := by
  have herror := fields.errorOf?_compile options name
  rw [hc, errorOf?_ok, eq_comm, List.findSome?_eq_none_iff] at herror
  constructor
  · intro h
    have hall (part : String × Definition) (hm : part ∈ fields.declared) : ¬ part.2.Malformed := by
      intro hmalformed
      obtain ⟨fault, hfault⟩ := h.reported.mpr ⟨part, hm, hmalformed⟩
      rw [hc] at hfault
      cases hfault
    refine ⟨fun before label d after heq hbreaks => ?_, fun part hm hrequires => ?_⟩
    · have hm : (label, d) ∈ fields.declared := by simp [heq]
      exact absurd hbreaks.malformed (hall _ hm)
    · exact absurd hrequires.malformed (hall part hm)
  · intro h
    have hall (part : String × Definition) (hm : part ∈ fields.declared) : ¬ part.2.Malformed := by
      intro hmalformed
      obtain ⟨other, hother, htold⟩ :=
        h.noticed part hm ((Definition.not_breaks_of_obstacle (herror part hm)).2 hmalformed)
      exact htold.obstacle?_ne_none other.1 (herror other hother)
    refine ⟨⟨?_, ?_⟩, ?_, .inl ⟨validator, hc⟩⟩
    · rintro ⟨fault, hfault⟩
      rw [hc] at hfault
      cases hfault
    · rintro ⟨part, hm, hmalformed⟩
      exact absurd hmalformed (hall part hm)
    · intro fault hfault
      rw [hc] at hfault
      cases hfault

/-- If a fault is told, it is that of a malformed definition, and none broke before. -/
theorem reportsFaults_of_fault {fault : SchemaFault}
    (hc : Validator.compile options name fields = .error (.schema fault)) :
    fields.ReportsFaults options name ∧ fields.IsReportable := by
  have herror := fields.errorOf?_compile options name
  rw [hc, errorOf?_error, eq_comm] at herror
  obtain ⟨before, ⟨label, d⟩, after, heq, hobstacle, hbefore⟩ :=
    List.findSome?_eq_some_iff.mp herror
  obtain ⟨rfl, htold⟩ := Definition.isTold_of_obstacle hobstacle
  have hm : (fault.label, d) ∈ fields.declared := by simp [heq]
  refine ⟨⟨?_, ?_, .inr ⟨fault, hc⟩⟩, ⟨?_, fun _ _ _ => ⟨_, hm, htold⟩⟩⟩
  · exact iff_of_true ⟨fault, hc⟩ ⟨_, hm, htold.malformed⟩
  · intro other hother
    cases hc.symm.trans hother
    exact ⟨d, hm, htold.malformed⟩
  · -- A definition before that breaks would be an obstacle of another sort.
    intro others label e rest hsplit hbreaks
    rw [hsplit, List.findSome?_append, Option.or_eq_some_iff] at herror
    rcases herror with hfirst | ⟨-, hlater⟩
    · obtain ⟨part, hpart, hfault⟩ := List.exists_of_findSome?_eq_some hfirst
      exact ⟨part, hpart, (Definition.isTold_of_obstacle hfault).2⟩
    · obtain ⟨failure, hfailure⟩ := hbreaks.obstacle?_eq label
      rw [List.findSome?_cons_of_isSome (by simp [hfailure]), hfailure] at hlater
      cases hlater

/-- If fields cannot be judged, malformed declarations are not reported. -/
theorem not_reportsFaults_of_failure {failure : Failure}
    (hc : Validator.compile options name fields = .error (.failure failure)) :
    ¬ fields.ReportsFaults options name ∧ ¬ fields.IsReportable := by
  have herror := fields.errorOf?_compile options name
  rw [hc, errorOf?_error, eq_comm] at herror
  obtain ⟨before, ⟨label, d⟩, after, heq, hobstacle, hbefore⟩ :=
    List.findSome?_eq_some_iff.mp herror
  constructor
  · intro h
    rcases h.settled with ⟨validator, hok⟩ | ⟨fault, hfault⟩
    · rw [hc] at hok
      cases hok
    · rw [hc] at hfault
      cases hfault
  · intro h
    obtain ⟨part, hm, htold⟩ :=
      h.inTime before label d after heq (Definition.breaks_of_obstacle hobstacle)
    exact htold.obstacle?_ne_none part.1 (hbefore part hm)

/-- Malformed declarations are reported as they should be if and only if none breaks before another
one is told, and no required property goes unnoticed. -/
theorem reportsFaults_iff (fields : FieldMap) (options : Options) (name : String) :
    fields.ReportsFaults options name ↔ fields.IsReportable := by
  cases hc : Validator.compile options name fields with
  | ok validator => exact reportsFaults_iff_of_ok hc
  | error e =>
    cases e with
    | schema fault =>
      obtain ⟨hreports, hreportable⟩ := reportsFaults_of_fault hc
      exact iff_of_true hreports hreportable
    | failure failure =>
      obtain ⟨hreports, hreportable⟩ := not_reportsFaults_of_failure hc
      exact iff_of_false hreports hreportable

/-- A text whose rules ask for infinitely many characters. -/
def endlessDefinition : Definition :=
  ⟨{ FieldAttributes.ofKind .string with
      rules := .of ⟨.of (.infinite false), .undeclared, .undeclared, .undeclared, .undeclared,
        .undeclared, .undeclared⟩ },
    .undeclared, .undeclared⟩

/-- A record whose choice has no values, before a text of infinitely many characters. -/
def choiceFields : FieldMap :=
  [("o", ⟨.ofKind .object, .undeclared, .of [("choice", .ofKind .enumeration)]⟩),
    ("s", endlessDefinition)]

/-- The choice is told, as it comes before the text. -/
theorem reportsFaults_choice :
    choiceFields.ReportsFaults .standard "input" ∧
      ∃ fault, Validator.compile .standard "input" choiceFields = .error (.schema fault) ∧
        fault.label = "o.choice" := by
  have hdeclared : choiceFields.declared =
      [("o.choice", .ofKind .enumeration),
        ("o", ⟨.ofKind .object, .undeclared, .of [("choice", .ofKind .enumeration)]⟩),
        ("s", endlessDefinition)] := rfl
  have htold : Definition.IsTold (.ofKind .enumeration) :=
    ⟨rfl, id, fun h => FieldKind.noConfusion h.kind⟩
  have hreportable : choiceFields.IsReportable := by
    refine ⟨fun before label d after heq hbreaks => ?_, fun _ _ _ => ⟨_, List.mem_cons_self, htold⟩⟩
    rw [hdeclared] at heq
    cases before with
    | nil =>
      cases heq
      exact hbreaks.elim
    | cons part rest =>
      obtain ⟨rfl, -⟩ := List.cons.inj heq
      exact ⟨_, List.mem_cons_self, htold⟩
  exact ⟨(reportsFaults_iff choiceFields .standard "input").mpr hreportable, _, rfl, rfl⟩

/-- A text of infinitely many characters alone. -/
def endlessFields : FieldMap := [("f", endlessDefinition)]

/-- A record that requires a property, none of which are defined. -/
def undefinedFields : FieldMap :=
  [("o", ⟨{ FieldAttributes.ofKind .object with requiredProperties := .of ["x"] }, .undeclared,
    .undeclared⟩)]

/-- Not all malformed declarations are reported: a bound that is infinite leads to another error, and
a property that is required without definitions of properties to none. -/
theorem not_reportsFaults :
    ¬ endlessFields.ReportsFaults .standard "input" ∧
      ¬ undefinedFields.ReportsFaults .standard "input" := by
  constructor
  · intro h
    have hc : Validator.compile .standard "input" endlessFields =
        .error (.failure .infiniteToInteger) := rfl
    rcases h.settled with ⟨validator, hok⟩ | ⟨fault, hfault⟩
    · cases hc.symm.trans hok
    · cases hc.symm.trans hfault
  · intro h
    have hmalformed : ∃ part ∈ undefinedFields.declared, part.2.Malformed :=
      ⟨_, List.mem_cons_self, "x", List.mem_cons_self, List.not_mem_nil⟩
    obtain ⟨fault, hfault⟩ := h.reported.mpr hmalformed
    cases hfault

end FieldMap

end Intake
