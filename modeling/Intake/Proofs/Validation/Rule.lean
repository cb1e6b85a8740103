import Intake.Proofs.Validation.Conformance

/-!
# What the rules for values pass

A rule that is made of a field passes exactly the values that the field holds, parts apart: each part
of a rule finds nothing wrong exactly if the value has what the part asks for, and the parts of a
rule are those that the field declares. A check that does not come to an end passes nothing.
-/

namespace Intake

/-- A check comes to an end and finds nothing wrong. -/
def Passes (result : Except Failure Outcome) : Prop := ∃ o, result = .ok o ∧ o.issues = []

@[simp]
theorem passes_ok (o : Outcome) : Passes (.ok o) ↔ o.issues = [] := by
  simp [Passes]

@[simp]
theorem not_passes_error (failure : Failure) : ¬ Passes (.error failure) := by
  simp [Passes]

@[simp]
theorem issues_accept (v : Value) : (Outcome.accept v).issues = [] := rfl

@[simp]
theorem issues_reject_ne (v : Value) (issue : Issue) : (Outcome.reject v issue).issues ≠ [] := by
  simp [Outcome.reject]

@[simp]
theorem issueIf_eq_nil_iff (condition : Bool) (issue : Issue) :
    issueIf condition issue = [] ↔ condition = false := by
  cases condition <;> simp [issueIf]

/-- What holds of an issue holds of it under a condition. -/
theorem forall_mem_issueIf {P : Issue → Prop} {issue : Issue} (condition : Bool) (h : P issue) :
    ∀ other ∈ issueIf condition issue, P other := by
  cases condition with
  | true => exact List.forall_mem_singleton.mpr h
  | false => exact List.forall_mem_nil _

/-- A step that succeeds goes on from a result. -/
theorem exists_of_bind_eq_ok {ε α β : Type} {x : Except ε α} {f : α → Except ε β} {b : β}
    (h : x >>= f = .ok b) : ∃ a, x = .ok a ∧ f a = .ok b := by
  cases x with
  | error e => cases h
  | ok a => exact ⟨a, rfl, h⟩

/-- A part that is made ready is there in both forms or in none. -/
theorem Compile.optional_eq_ok {α β : Type} {f : α → Except CompileError β} {o : Option α}
    {r : Option β} (h : Compile.optional f o = .ok r) :
    (o = none ∧ r = none) ∨ ∃ a b, o = some a ∧ r = some b ∧ f a = .ok b := by
  cases o with
  | none =>
    cases h
    exact .inl ⟨rfl, rfl⟩
  | some a =>
    rw [Compile.optional] at h
    cases hf : f a with
    | error e => rw [hf] at h; cases h
    | ok b =>
      rw [hf] at h
      cases h
      exact .inr ⟨a, b, rfl, rfl, hf⟩

/-- A length bound is the declared one, or the integer part of that of the rules. -/
theorem lengthBound_eq_ok {own : Option Int} {rule : Option Binary64} {bound : Option Int}
    (h : lengthBound own rule = .ok bound) : bound = own.or (rule.bind Binary64.truncate?) := by
  cases own with
  | some n =>
    cases h
    rfl
  | none =>
    cases rule with
    | none =>
      cases h
      rfl
    | some x =>
      cases x with
      | nan => cases h
      | infinite negative => cases h
      | finite negative significand exponent =>
        cases h
        rfl

namespace TextRule

/-- A rule finds the pattern of a text that has it. -/
theorem patternIssues_eq_ok_nil_iff (rule : TextRule) (site : Site) (s : String) :
    rule.patternIssues site s = .ok [] ↔ ∀ found ∈ rule.pattern, found.2.searchIn s = .found := by
  unfold patternIssues
  cases rule.pattern with
  | none => simp
  | some found =>
    obtain ⟨text, p⟩ := found
    cases hs : p.searchIn s <;> simp [hs]

/-- A rule finds nothing wrong with a text of the right length, pattern and format. -/
theorem issues_eq_ok_nil_iff (rule : TextRule) (site : Site) (s : String) :
    rule.issues site s = .ok [] ↔
      IsBetween rule.minLength rule.maxLength s.length ∧
        (∀ found ∈ rule.pattern, found.2.searchIn s = .found) ∧
        ∀ f ∈ rule.format, f.accepts s = true := by
  rw [← patternIssues_eq_ok_nil_iff rule site]
  unfold issues IsBetween
  cases rule.patternIssues site s with
  | error failure => simp [bind, Except.bind]
  | ok found =>
    simp only [bind, Except.bind, pure, Except.pure, Except.ok.injEq, List.append_eq_nil_iff]
    cases rule.minLength <;> cases rule.maxLength <;> cases rule.format <;>
      simp [and_assoc, and_left_comm, and_comm]

end TextRule

/-- A rule finds nothing wrong with a number that lies within the bounds and needs no more digits
than it may. -/
theorem NumberRule.issues_eq_nil_iff (rule : NumberRule) (site : Site) (n : Number) :
    rule.issues site n = [] ↔
      (∀ least ∈ rule.minimum, n.lessThan (.float least) = false) ∧
        (∀ greatest ∈ rule.maximum, (Number.float greatest).lessThan n = false) ∧
        (rule.integer = true → n.isIntegral = true) ∧
        ∀ most ∈ rule.precision, (n.decimalPlaces : Int) ≤ most := by
  unfold issues
  simp only [List.append_eq_nil_iff, and_assoc]
  cases rule.minimum <;> cases rule.maximum <;> cases rule.precision <;> simp

namespace ListRule

/-- A rule finds nothing wrong with a size between its bounds. -/
theorem sizeIssues_eq_nil_iff (rule : ListRule) (site : Site) (size : Nat) :
    rule.sizeIssues site size = [] ↔ IsBetween rule.minItems rule.maxItems size := by
  unfold sizeIssues IsBetween
  cases rule.minItems <;> cases rule.maxItems <;> simp

/-- Nothing is repeated among texts that differ from each other and from those seen. -/
theorem repeatedFrom_eq_nil_iff (seen : List (List Char)) (i : Nat) (items : List Value) :
    repeatedFrom seen i items = [] ↔
      (items.map Json.canonical).Nodup ∧ ∀ v ∈ items, Json.canonical v ∉ seen := by
  induction items generalizing seen i with
  | nil => simp [repeatedFrom]
  | cons v rest ih =>
    by_cases hs : Json.canonical v ∈ seen
    · simp [repeatedFrom, hs]
    · simp only [repeatedFrom, List.contains_iff_mem, hs, if_false, ih]
      simp only [List.map_cons, List.nodup_cons, List.mem_map, List.mem_cons, not_or, not_exists,
        not_and]
      constructor
      · rintro ⟨hd, hr⟩
        refine ⟨⟨fun w hw he => (hr w hw).1 he, hd⟩, ?_⟩
        rintro w (rfl | hw)
        · exact hs
        · exact (hr w hw).2
      · rintro ⟨⟨hv, hd⟩, hr⟩
        exact ⟨hd, fun w hw => ⟨fun he => hv w hw he, hr w (.inr hw)⟩⟩

/-- A rule finds nothing repeated among items that differ if they have to. -/
theorem repetitionIssues_eq_nil_iff (rule : ListRule) (site : Site) (items : List Value) :
    rule.repetitionIssues site items = [] ↔
      (rule.unique = true → (items.map Json.canonical).Nodup) := by
  unfold repetitionIssues
  cases rule.unique with
  | false => simp
  | true =>
    have hr := repeatedFrom_eq_nil_iff [] 0 items
    simp [repeatedIndices, hr]

end ListRule

theorem Value.text?_eq_some_iff (v : Value) (s : String) : v.text? = some s ↔ v = .text s := by
  cases v <;> simp [text?]

theorem Value.finite?_eq_some_iff (v : Value) (n : Number) :
    v.finite? = some n ↔ v = .number n ∧ n.isFinite = true := by
  cases v with
  | number m =>
    by_cases hm : m.isFinite = true
    · simp only [finite?, hm, if_true, Option.some.injEq, Value.number.injEq]
      exact ⟨fun h => ⟨h, h ▸ hm⟩, fun h => h.1⟩
    · simp only [finite?, hm]
      constructor
      · intro h
        cases h
      · rintro ⟨h, hn⟩
        cases h
        exact absurd hn hm
  | _ => simp [finite?]

/-- A rule finds nothing wrong with a date that lies between its bounds. -/
theorem DateRange.issues_eq_nil_iff {α : Type} (range : DateRange α) (isBefore : α → α → Bool)
    (site : Site) (v : Value) (date : α) :
    range.issues isBefore site v date = [] ↔
      (∀ bound ∈ range.earliest, isBefore date bound.value = false) ∧
        ∀ bound ∈ range.latest, isBefore bound.value date = false := by
  unfold issues
  cases range.earliest <;> cases range.latest <;> simp

/-- A rule finds nothing wrong with a file of a size and a type that it allows. -/
theorem FileRule.issues_eq_nil_iff (rule : FileRule) (site : Site) (size : Number) (type : String) :
    rule.issues site size type = [] ↔
      (∀ greatest ∈ rule.maxSize, (Number.int greatest).lessThan size = false) ∧
        ∀ types ∈ rule.types, type ∈ types := by
  unfold issues
  cases rule.maxSize <;> cases rule.types <;> simp

/-- A value is one of several exactly if it matches them. -/
theorem isMember_iff (v : Value) (values : List Value) :
    isMember v values = true ↔ FieldAttributes.Matches values v := by
  simp [isMember, FieldAttributes.Matches]

namespace Compile

/-- A pattern is made ready by reading it. -/
theorem pattern_eq_ok {label text : String} {found : String × Pattern}
    (h : pattern label text = .ok found) : Pattern.read text = .ok found.2 := by
  unfold pattern at h
  split at h
  · rename_i p hp
    cases h
    exact hp
  · cases h
  · cases h

/-- What is asked of a text is what its field declares. -/
theorem textRule_eq_ok {label : String} {a : FieldAttributes} {rule : TextRule}
    (h : textRule label a = .ok rule) :
    rule.minLength = a.minLength.value?.or (a.ruleMinimum.bind Binary64.truncate?) ∧
      rule.maxLength = a.longest ∧ optional (pattern label) a.searchText = .ok rule.pattern ∧
      rule.format = a.format.value? := by
  unfold textRule at h
  obtain ⟨least, hl, h⟩ := exists_of_bind_eq_ok h
  obtain ⟨greatest, hg, h⟩ := exists_of_bind_eq_ok h
  obtain ⟨found, hf, h⟩ := exists_of_bind_eq_ok h
  cases h
  have lifted {bound : Option Int} {own : Option Int} {declared : Option Binary64}
      (h : CompileError.lift (lengthBound own declared) = .ok bound) :
      bound = own.or (declared.bind Binary64.truncate?) := by
    cases hb : lengthBound own declared with
    | error failure => rw [hb] at h; cases h
    | ok length =>
      rw [hb] at h
      cases h
      exact lengthBound_eq_ok hb
  exact ⟨lifted hl, lifted hg, hf, rfl⟩

/-- A rule made of a field finds nothing wrong with the texts that the field admits. -/
theorem issues_eq_ok_nil_iff_admitsText {label : String} {a : FieldAttributes} {rule : TextRule}
    (hmin : rule.minLength = a.shortest) (hmax : rule.maxLength = a.longest)
    (hpattern : optional (pattern label) a.searchText = .ok rule.pattern)
    (hformat : rule.format = a.format.value?) (site : Site) (s : String) :
    rule.issues site s = .ok [] ↔ a.AdmitsText s := by
  have hsearch : (∀ found ∈ rule.pattern, found.2.searchIn s = .found) ↔
      ∀ text ∈ a.searchText, ∃ p, Pattern.read text = .ok p ∧ p.searchIn s = .found := by
    rcases optional_eq_ok hpattern with ⟨hs, hp⟩ | ⟨text, found, hs, hp, hr⟩
    · simp [hs, hp]
    · simp [hs, hp, pattern_eq_ok hr]
  rw [TextRule.issues_eq_ok_nil_iff, hmin, hmax, hformat, hsearch]
  exact ⟨fun ⟨hl, hp, hf⟩ => ⟨hl, hp, hf⟩, fun ⟨hl, hp, hf⟩ => ⟨hl, hp, hf⟩⟩

/-- A rule made of a text field finds nothing wrong with the texts that the field admits. -/
theorem textRule_issues_eq_ok_nil_iff {label : String} {a : FieldAttributes} {rule : TextRule}
    (hk : a.kind.isConfigOnly = false) (h : textRule label a = .ok rule) (site : Site)
    (s : String) : rule.issues site s = .ok [] ↔ a.AdmitsText s := by
  obtain ⟨hmin, hmax, hp, hf⟩ := textRule_eq_ok h
  refine issues_eq_ok_nil_iff_admitsText ?_ hmax hp hf site s
  rw [hmin, FieldAttributes.shortest, hk]
  rfl

/-- A rule made of a confidential field finds nothing wrong with the texts that the field admits. -/
theorem confidentialRule_issues_eq_ok_nil_iff {label : String} {a : FieldAttributes}
    {rule : TextRule} (hk : a.kind.isConfigOnly = true) (h : confidentialRule label a = .ok rule)
    (site : Site) (s : String) : rule.issues site s = .ok [] ↔ a.AdmitsText s := by
  unfold confidentialRule at h
  obtain ⟨plain, hplain, h⟩ := exists_of_bind_eq_ok h
  cases h
  obtain ⟨hmin, hmax, hp, hf⟩ := textRule_eq_ok hplain
  have hshortest : some (max (plain.minLength.getD 1) 1) = a.shortest := by
    rw [FieldAttributes.shortest, hk, ← hmin]
    rfl
  apply issues_eq_ok_nil_iff_admitsText
  · exact hshortest
  · exact hmax
  · exact hp
  · exact hf

/-- A JSON Schema is made ready as it was declared. -/
theorem jsonSchema_eq_ok {label : String} {schema : List (String × Value)} {found : Value}
    (h : jsonSchema label schema = .ok found) : found = .record schema := by
  unfold jsonSchema at h
  obtain ⟨problem?, hp, h⟩ := exists_of_bind_eq_ok h
  cases problem? with
  | some problem => cases h
  | none =>
    cases h
    rfl

/-- A bound of a date is made ready by reading it. -/
theorem optional_bound_eq_ok {α : Type} {read? : Value → Option α} {label : String}
    {declared : Option String} {found : Option (DateBound α)}
    (h : optional (bound read? label) declared = .ok found) (p : α → Prop) :
    (∀ bound ∈ found, p bound.value) ↔
      ∀ text ∈ declared, ∀ value ∈ read? (.text text), p value := by
  rcases optional_eq_ok h with ⟨rfl, rfl⟩ | ⟨text, bound, rfl, rfl, hb⟩
  · simp
  · unfold Compile.bound at hb
    split at hb
    · rename_i value hv
      cases hb
      simp [hv]
    · cases hb

/-- A range made of a field holds the dates that the field admits. -/
theorem range_issues_eq_nil_iff {α : Type} {read? : Value → Option α} {label : String}
    {a : FieldAttributes} {range : DateRange α} (h : Compile.range read? label a = .ok range)
    (isBefore : α → α → Bool) (site : Site) (v : Value) (date : α) :
    range.issues isBefore site v date = [] ↔ a.AdmitsDate read? isBefore date := by
  unfold Compile.range at h
  obtain ⟨earliest, he, h⟩ := exists_of_bind_eq_ok h
  obtain ⟨latest, hl, h⟩ := exists_of_bind_eq_ok h
  cases h
  rw [DateRange.issues_eq_nil_iff, optional_bound_eq_ok he fun bound => isBefore date bound = false,
    optional_bound_eq_ok hl fun bound => isBefore bound date = false]
  exact ⟨fun ⟨h, h'⟩ => ⟨h, h'⟩, fun ⟨h, h'⟩ => ⟨h, h'⟩⟩

end Compile

namespace LeafRule

/-- A rule for a text passes the texts with which it finds nothing wrong. -/
theorem run_text_passes_iff (rule : TextRule) (transform : Option Transform) (site : Site)
    (v : Value) :
    Passes ((LeafRule.text rule transform).run site v) ↔
      ∃ s, v = .text s ∧ rule.issues site s = .ok [] := by
  cases v with
  | text s =>
    simp only [run, Value.text.injEq, exists_eq_left']
    cases rule.issues site s <;> simp [Except.map]
  | _ => simp [run]

/-- The check of a URL passes absolute ones, in the schemes that are listed. -/
theorem issues_checkUrl_eq_nil_iff (site : Site) (protocols : Option (List String))
    (s output : String) :
    (checkUrl site protocols s output).issues = [] ↔
      ∃ scheme, urlScheme? s = some scheme ∧ ∀ listed ∈ protocols, scheme ∈ listed := by
  unfold checkUrl
  cases urlScheme? s with
  | none => simp
  | some scheme =>
    cases protocols with
    | none => simp
    | some listed => by_cases hm : scheme ∈ listed <;> simp [hm]

/-- A rule for a URL passes the texts with which it finds nothing wrong and that are URLs. -/
theorem run_url_passes_iff (rule : TextRule) (transform : Option Transform)
    (protocols : Option (List String)) (site : Site) (v : Value) :
    Passes ((LeafRule.url rule transform protocols).run site v) ↔
      ∃ s, v = .text s ∧ rule.issues site s = .ok [] ∧
        ∃ scheme, urlScheme? s = some scheme ∧ ∀ listed ∈ protocols, scheme ∈ listed := by
  cases v with
  | text s =>
    simp only [run, Value.text.injEq, exists_eq_left']
    cases rule.issues site s with
    | error failure => simp
    | ok issues =>
      cases issues with
      | nil => simp [issues_checkUrl_eq_nil_iff]
      | cons first others => simp
  | _ => simp [run]

/-- A rule for a number passes the finite ones with which it finds nothing wrong. -/
theorem run_number_passes_iff (rule : NumberRule) (site : Site) (v : Value) :
    Passes ((LeafRule.number rule).run site v) ↔
      ∃ n, v = .number n ∧ n.isFinite = true ∧ rule.issues site n = [] := by
  cases v with
  | number n =>
    cases hf : n.isFinite <;> simp [run, Value.finite?, hf]
  | _ => simp [run, Value.finite?]

/-- A rule for a list of anything passes lists whose size and items it allows. -/
theorem run_anyList_passes_iff (rule : ListRule) (site : Site) (v : Value) :
    Passes ((LeafRule.anyList rule).run site v) ↔
      ∃ items, v = .list items ∧ rule.sizeIssues site items.length = [] ∧
        rule.repetitionIssues site items = [] := by
  cases v with
  | list items =>
    simp only [run]
    cases hs : rule.sizeIssues site items.length <;> simp [hs]
  | _ => simp [run]

/-- A rule for a date passes those that lie between its bounds. -/
theorem run_date_passes_iff (range : DateRange Date) (site : Site) (v : Value) :
    Passes ((LeafRule.date range).run site v) ↔
      ∃ d, v.date? = some d ∧ range.issues Date.isBefore site v d = [] := by
  simp only [run]
  cases v.date? <;> simp

/-- The offset that a field asks for is there exactly if nothing breaks its rule. -/
theorem broken?_eq_none_iff (a : FieldAttributes) (t : DateTime) :
    a.timezone.value?.bind (·.broken? t) = none ↔ a.AdmitsOffset t := by
  unfold FieldAttributes.AdmitsOffset
  cases a.timezone.value? with
  | none => simp
  | some rule =>
    cases rule with
    | optional => simp [TimezoneRule.broken?]
    | required => cases h : t.time.offset <;> simp [TimezoneRule.broken?, h]
    | utcOnly =>
      cases h : t.time.offset with
      | none => simp [TimezoneRule.broken?, h]
      | some offset => by_cases ho : offset = 0 <;> simp [TimezoneRule.broken?, h, ho]

/-- A rule for a point in time passes those that tell the right offset and lie between its
bounds. -/
theorem run_dateTime_passes_iff (range : DateRange DateTime) (timezone : Option TimezoneRule)
    (site : Site) (v : Value) :
    Passes ((LeafRule.dateTime range timezone).run site v) ↔
      ∃ t, v.dateTime? = some t ∧ timezone.bind (·.broken? t) = none ∧
        range.issues DateTime.isBefore site v t = [] := by
  simp only [run]
  cases v.dateTime? with
  | none => simp
  | some t =>
    simp only [Option.some.injEq, exists_eq_left']
    cases timezone.bind (·.broken? t) <;> simp

/-- A rule for a time of day passes times and the texts of times. -/
theorem run_time_passes_iff (site : Site) (v : Value) :
    Passes (LeafRule.time.run site v) ↔
      (∃ t, v = .time t) ∨ ∃ s, v = .text s ∧ isClockTimeText s = true := by
  cases v with
  | text s => cases hs : isClockTimeText s <;> simp [run, Value.text?, hs]
  | _ => simp [run, Value.text?]

/-- A rule for a file passes the descriptions of files that it allows. -/
theorem run_file_passes_iff (rule : FileRule) (site : Site) (v : Value) :
    Passes ((LeafRule.file rule).run site v) ↔
      ∃ size type, FileRule.parts? v = some (size, type) ∧ rule.issues site size type = [] := by
  simp only [run]
  cases FileRule.parts? v with
  | none => simp
  | some found =>
    obtain ⟨size, type⟩ := found
    simp [and_assoc]

/-- The check against a JSON Schema passes what has no violation. -/
theorem passes_checkSchema_iff (site : Site) (schema : Option Value) (isRead : Bool)
    (v part : Value) :
    Passes (checkSchema site schema isRead v part) ↔
      ∀ s ∈ schema, JsonSchema.violations s isRead part = .ok [] := by
  unfold checkSchema
  cases schema with
  | none => simp
  | some s =>
    dsimp only
    cases hv : JsonSchema.violations s isRead part with
    | error failure => simp [hv]
    | ok found => cases found <;> simp [hv]

/-- A rule for JSON passes what can be read and has no violation of its schema. -/
theorem run_json_passes_iff (schema : Option Value) (site : Site) (v : Value) :
    Passes ((LeafRule.json schema).run site v) ↔
      ∃ isRead part, v.jsonPart? = some (isRead, part) ∧
        ∀ s ∈ schema, JsonSchema.violations s isRead part = .ok [] := by
  cases v with
  | text s =>
    simp only [run, Value.jsonPart?]
    cases Json.read? s with
    | none => simp
    | some part => simp [passes_checkSchema_iff]
  | _ => simp [run, Value.jsonPart?, passes_checkSchema_iff]

/-- The parts of a file are a size and a type, beside a name. -/
theorem parts?_eq_some_iff (v : Value) (size : Number) (type : String) :
    FileRule.parts? v = some (size, type) ↔
      (∃ name, v.get? "name" = some (.text name)) ∧
        (v.get? "size" = some (.number size) ∧ size.isFinite = true) ∧
        v.get? "type" = some (.text type) := by
  simp only [FileRule.parts?, Option.bind_eq_bind, Option.bind_eq_some_iff,
    Value.text?_eq_some_iff, Value.finite?_eq_some_iff, Option.pure_def, Option.some.injEq, Prod.mk.injEq]
  constructor
  · rintro ⟨n, hn, name, rfl, s, hs, size', ⟨rfl, hf⟩, t, ht, type', rfl, rfl, rfl⟩
    exact ⟨⟨name, hn⟩, ⟨hs, hf⟩, ht⟩
  · rintro ⟨⟨name, hn⟩, ⟨hs, hf⟩, ht⟩
    exact ⟨_, hn, name, rfl, _, hs, size, ⟨rfl, hf⟩, _, ht, type, rfl, rfl, rfl⟩

/-- The kinds of fields that a rule can be made of. -/
def kinds : LeafRule → List FieldKind
  | .text _ _ => [.string, .apiKey, .secret]
  | .url _ _ _ => [.url]
  | .number _ => [.number]
  | .boolean => [.boolean]
  | .choice _ => [.enumeration]
  | .anyList _ => [.array]
  | .anyRecord => [.object]
  | .date _ => [.date]
  | .dateTime _ _ => [.dateTime]
  | .time => [.time]
  | .file _ => [.file]
  | .json _ => [.json]

/-- A rule is made of a field of one of its kinds. -/
theorem kind_mem_kinds {label : String} {a : FieldAttributes} {rule : LeafRule}
    (h : Compile.leafRule label a = .ok rule) : a.kind ∈ rule.kinds := by
  unfold Compile.leafRule at h
  cases hk : a.kind with
  | number | boolean | array | object | time | file =>
    rw [hk] at h
    cases h
    exact List.mem_cons_self
  | enumeration =>
    rw [hk] at h
    cases hc : a.choices with
    | none => rw [hc] at h; cases h
    | some values =>
      rw [hc] at h
      cases h
      exact List.mem_cons_self
  | string | url | apiKey | secret | date | dateTime | json =>
    rw [hk] at h
    obtain ⟨part, -, h⟩ := exists_of_bind_eq_ok h
    cases h
    simp [kinds]

/-- A rule made of a field passes exactly the values that the field holds, parts apart. -/
theorem run_passes_iff {label : String} {a : FieldAttributes} {rule : LeafRule}
    (h : Compile.leafRule label a = .ok rule) (site : Site) (v : Value) :
    Passes (rule.run site v) ↔ a.AdmitsWhole v := by
  unfold Compile.leafRule at h
  unfold FieldAttributes.AdmitsWhole
  cases hk : a.kind with
  | string =>
    rw [hk] at h
    obtain ⟨found, hr, h⟩ := exists_of_bind_eq_ok h
    cases h
    simp only [run_text_passes_iff, Compile.textRule_issues_eq_ok_nil_iff (by rw [hk]; rfl) hr]
  | url =>
    rw [hk] at h
    obtain ⟨found, hr, h⟩ := exists_of_bind_eq_ok h
    cases h
    simp only [run_url_passes_iff, Compile.textRule_issues_eq_ok_nil_iff (by rw [hk]; rfl) hr,
      FieldAttributes.AdmitsUrl]
    cases a.protocols <;> simp
  | apiKey =>
    rw [hk] at h
    obtain ⟨found, hr, h⟩ := exists_of_bind_eq_ok h
    cases h
    simp only [run_text_passes_iff,
      Compile.confidentialRule_issues_eq_ok_nil_iff (by rw [hk]; rfl) hr]
  | secret =>
    rw [hk] at h
    obtain ⟨found, hr, h⟩ := exists_of_bind_eq_ok h
    cases h
    simp only [run_text_passes_iff,
      Compile.confidentialRule_issues_eq_ok_nil_iff (by rw [hk]; rfl) hr]
  | number =>
    rw [hk] at h
    cases h
    simp only [run_number_passes_iff, NumberRule.issues_eq_nil_iff]
    constructor
    · rintro ⟨n, rfl, hf, hmin, hmax, hi, hp⟩
      exact ⟨n, rfl, hf, hmin, hmax, hi, hp⟩
    · rintro ⟨n, rfl, hf, hmin, hmax, hi, hp⟩
      exact ⟨n, rfl, hf, hmin, hmax, hi, hp⟩
  | boolean =>
    rw [hk] at h
    cases h
    cases v <;> simp [run, Value.isBool]
  | enumeration =>
    rw [hk] at h
    cases hc : a.choices with
    | none => rw [hc] at h; cases h
    | some values =>
      rw [hc] at h
      cases h
      have hm := isMember_iff v values
      cases hb : isMember v values <;> simp [run, hb, ← hm]
  | array =>
    rw [hk] at h
    cases h
    simp only [run_anyList_passes_iff, ListRule.sizeIssues_eq_nil_iff,
      ListRule.repetitionIssues_eq_nil_iff]
    constructor
    · rintro ⟨items, rfl, hs, hd⟩
      exact ⟨items, rfl, hs, hd⟩
    · rintro ⟨items, rfl, hs, hd⟩
      exact ⟨items, rfl, hs, hd⟩
  | object =>
    rw [hk] at h
    cases h
    cases v <;> simp [run]
  | date =>
    rw [hk] at h
    obtain ⟨range, hr, h⟩ := exists_of_bind_eq_ok h
    cases h
    simp only [run_date_passes_iff, Compile.range_issues_eq_nil_iff hr]
  | dateTime =>
    rw [hk] at h
    obtain ⟨range, hr, h⟩ := exists_of_bind_eq_ok h
    cases h
    simp only [run_dateTime_passes_iff, Compile.range_issues_eq_nil_iff hr, broken?_eq_none_iff]
  | time =>
    rw [hk] at h
    cases h
    exact run_time_passes_iff site v
  | file =>
    rw [hk] at h
    cases h
    have hlisted (type : String) :
        (∀ types ∈ a.allowedMimeTypes.value?.filter (!·.isEmpty), type ∈ types) ↔
          ∀ types ∈ a.allowedMimeTypes.value?, types ≠ [] → type ∈ types := by
      cases a.allowedMimeTypes.value? with
      | none => simp
      | some types => cases types <;> simp
    simp only [run_file_passes_iff, FileRule.issues_eq_nil_iff, parts?_eq_some_iff, hlisted]
    constructor
    · rintro ⟨size, type, ⟨hn, hs, ht⟩, hsize, htype⟩
      exact ⟨hn, ⟨size, hs.1, hs.2, hsize⟩, type, ht, htype⟩
    · rintro ⟨hn, ⟨size, hs, hf, hsize⟩, type, ht, htype⟩
      exact ⟨size, type, ⟨hn, ⟨hs, hf⟩, ht⟩, hsize, htype⟩
  | json =>
    rw [hk] at h
    obtain ⟨schema, hr, h⟩ := exists_of_bind_eq_ok h
    cases h
    rw [run_json_passes_iff]
    dsimp only
    rcases Compile.optional_eq_ok hr with ⟨hs, rfl⟩ | ⟨declared, found, hs, rfl, hd⟩
    · simp [FieldAttributes.declaredSchema, hs]
    · simp [FieldAttributes.declaredSchema, hs, Compile.jsonSchema_eq_ok hd]

end LeafRule

end Intake
