import Intake.Proofs.Field.Location
import Intake.Proofs.Validation.Locality
import Intake.Proofs.Validation.Order
import Intake.Proofs.Validation.Repetition

/-!
# Issues point at the data

The path of an issue leads through the data as it was given: keys lead to entries of records, indices
to items of lists. Main statement: every issue of a validator points into the data. Its path leads to
a part of it, that of a missing value to a record in which the last key is absent or null; the value
it shows is that part, or the entry of a file that is at fault; what it says of keys, of repeated items
and of the number of items is said of the record or the list that the path leads to.
-/

namespace Intake

namespace Value

/-- The part of a value that one step leads to. -/
def step? (v : Value) : PathSegment → Option Value
  | .key name => v.get? name
  | .index (.ofNat i) =>
    match v with
    | .list items => items[i]?
    | _ => none
  | .index (.negSucc _) => none

/-- The part of a value that a path leads to. -/
def at? (v : Value) : DataPath → Option Value
  | [] => some v
  | segment :: rest => (v.step? segment).bind (·.at? rest)

/-- A path with one more step leads one step further. -/
theorem at?_append_singleton {v w : Value} {path : DataPath} (h : v.at? path = some w)
    (segment : PathSegment) : v.at? (path ++ [segment]) = w.step? segment := by
  induction path generalizing v with
  | nil =>
    cases h
    exact Option.bind_fun_some _
  | cons first rest ih =>
    obtain ⟨u, hu, hrest⟩ := Option.bind_eq_some_iff.mp h
    rw [List.cons_append, at?, hu]
    exact ih hrest

end Value

/-- The names that fields declare for the record at a path: their own at the start, below them those
of the properties of the definition that governs the path. -/
inductive FieldMap.DeclaresAt (fields : FieldMap) : DataPath → List String → Prop where
  /-- The fields are declared for the data itself. -/
  | top : fields.DeclaresAt [] (fields.map (·.1))
  /-- The properties of a record are declared by the definition that governs it. -/
  | governed {path : DataPath} {e : Definition} (h : fields.Governs path e)
      (hk : e.kind = .object) : fields.DeclaresAt path e.propertyNames

namespace Issue

/-- What an issue under a code shows of the part of the data that it lies at: the size or the type of
a file that breaks its rule, otherwise the part itself. -/
def shownOf (code : ErrorCode) (part : Value) : Option Value :=
  match code with
  | .fileTooLarge => part.get? "size"
  | .mimeTypeNotAllowed => part.get? "type"
  | _ => some part

/-- What an issue says of the part of the data that it lies at. -/
structure TellsOf (part : Value) (issue : Issue) : Prop where
  /-- It shows nothing or what its code shows of the part. -/
  shown : issue.value = .null ∨ shownOf issue.code part = some issue.value
  /-- Repeated items are among those of the list that the part is, told in ascending order. -/
  repeated : issue.code = .notUnique → ∃ (items : List Value) (repeated : List Nat),
    part = .list items ∧
      issue.context = some [("duplicates", .list (repeated.map fun i : Nat => .int i))] ∧
      repeated.Pairwise (· < ·) ∧ ∀ i ∈ repeated, i < items.length
  /-- A size that is too small or too big is the length of the list that the part is; of what is no
  list no size is told. -/
  counted : issue.code = .tooSmall ∨ issue.code = .tooBig →
    (∃ items, part = .list items ∧ issue.context = some [("size", .int items.length)]) ∨
      (∀ items, part ≠ .list items) ∧ issue.context = none

/-- An issue points into data that some fields are declared for. -/
structure PointsInto (fields : FieldMap) (data : Value) (issue : Issue) : Prop where
  /-- If nothing is missing, the path leads to a part of the data, of which the issue tells. -/
  reached : issue.code ≠ .required → ∃ part, data.at? issue.path = some part ∧ issue.TellsOf part
  /-- If a value is missing, the path up to its last key leads to a record in which this key is absent
  or null. -/
  missing : issue.code = .required → issue.value = .null ∧ ∃ before name entries,
    issue.path = before ++ [.key name] ∧ data.at? before = some (.record entries) ∧
      (entries.lookup name = none ∨ entries.lookup name = some .null)
  /-- Unknown keys are those of the record that the path leads to which are not declared for it. -/
  keys : issue.code = .unrecognizedKeys → ∃ names entries, fields.DeclaresAt issue.path names ∧
    data.at? issue.path = some (.record entries) ∧
    issue.context = some [("keys", .texts ((entries.map (·.1)).filter (!names.contains ·)))]

/-- An issue is told by a check of the part of the data that it lies at: it does not say that
something is missing or unknown. -/
structure FoundIn (part : Value) (issue : Issue) : Prop extends TellsOf part issue where
  /-- Nothing is missing, and no keys are unknown. -/
  own : issue.code ∉ [.required, .unrecognizedKeys]

end Issue

namespace Issue.FoundIn

variable {site : Site} {constraint : Constraint} {standard expected : String} {part : Value}

/-- What is found of a value is shown with it, or nothing is. -/
theorem of_code {issue : Issue}
    (hcode : issue.code ∉ [.required, .unrecognizedKeys, .notUnique, .tooSmall, .tooBig])
    (hshown : issue.value = .null ∨ shownOf issue.code part = some issue.value) :
    FoundIn part issue where
  shown := hshown
  repeated h := absurd (h ▸ hcode) (by decide)
  counted h := h.elim (fun h => absurd (h ▸ hcode) (by decide)) fun h => absurd (h ▸ hcode) (by decide)
  own h :=
    have hsub : [ErrorCode.required, .unrecognizedKeys] ⊆
      [.required, .unrecognizedKeys, .notUnique, .tooSmall, .tooBig] := by simp
    hcode (hsub h)

/-- The bound of a text, a number or a date is broken by what is no list. -/
theorem of_bound {issue : Issue} (hcode : issue.code = .tooSmall ∨ issue.code = .tooBig)
    (hvalue : issue.value = part) (hcontext : issue.context = none)
    (hlist : ∀ items, part ≠ .list items) : FoundIn part issue where
  shown := .inr (by rcases hcode with h | h <;> rw [h, hvalue] <;> rfl)
  repeated h := by rcases hcode with hc | hc <;> cases hc.symm.trans h
  counted _ := .inr ⟨hlist, hcontext⟩
  own h := by rcases hcode with hc | hc <;> rw [hc] at h <;> simp at h

/-- The bound of the number of items is broken by the length of a list. -/
theorem of_size {issue : Issue} {items : List Value}
    (hcode : issue.code = .tooSmall ∨ issue.code = .tooBig) (hvalue : issue.value = .null)
    (hcontext : issue.context = some [("size", .int items.length)]) :
    FoundIn (.list items) issue where
  shown := .inl hvalue
  repeated h := by rcases hcode with hc | hc <;> cases hc.symm.trans h
  counted _ := .inl ⟨items, rfl, hcontext⟩
  own h := by rcases hcode with hc | hc <;> rw [hc] at h <;> simp at h

end Issue.FoundIn

open Issue

section

variable {site : Site} {v : Value} {o : Outcome} {issues : List Issue}

theorem foundIn_typeIssue (site : Site) (v : Value) (expected : String) :
    FoundIn v (site.typeIssue v expected) :=
  .of_code (by simp [Site.typeIssue, Site.issue]) (.inr rfl)

theorem foundIn_choiceIssue (site : Site) (v : Value) (values : List Value) :
    FoundIn v (site.choiceIssue v values) :=
  .of_code (by simp [Site.choiceIssue, Site.issueWith, Site.issue]) (.inr rfl)

theorem TextRule.foundIn {rule : TextRule} {s : String} (h : rule.issues site s = .ok issues) :
    ∀ issue ∈ issues, FoundIn (.text s) issue := by
  obtain ⟨byPattern, hpattern, h⟩ := exists_of_bind_eq_ok h
  cases h
  have hbyPattern : ∀ issue ∈ byPattern, FoundIn (.text s) issue := by
    unfold patternIssues at hpattern
    split at hpattern
    · split at hpattern <;> cases hpattern
      · exact List.forall_mem_nil _
      · exact List.forall_mem_singleton.mpr
          (.of_code (by simp [patternIssue, Site.issue]) (.inr rfl))
    · cases hpattern
      exact List.forall_mem_nil _
  refine List.forall_mem_append.mpr ⟨List.forall_mem_append.mpr
    ⟨List.forall_mem_append.mpr ⟨?_, ?_⟩, hbyPattern⟩, ?_⟩
  · cases rule.minLength with
    | none => exact List.forall_mem_nil _
    | some least => exact forall_mem_issueIf _ (.of_bound (.inl rfl) rfl rfl (by simp))
  · cases rule.maxLength with
    | none => exact List.forall_mem_nil _
    | some greatest => exact forall_mem_issueIf _ (.of_bound (.inr rfl) rfl rfl (by simp))
  · cases rule.format with
    | none => exact List.forall_mem_nil _
    | some format =>
      exact forall_mem_issueIf _ (.of_code (by simp [formatIssue, Site.issue]) (.inr rfl))

theorem NumberRule.foundIn (rule : NumberRule) (n : Number) :
    ∀ issue ∈ rule.issues site n, FoundIn (.number n) issue := by
  refine List.forall_mem_append.mpr ⟨List.forall_mem_append.mpr
    ⟨List.forall_mem_append.mpr ⟨?_, ?_⟩, ?_⟩, ?_⟩
  · cases rule.minimum with
    | none => exact List.forall_mem_nil _
    | some least => exact forall_mem_issueIf _ (.of_bound (.inl rfl) rfl rfl (by simp))
  · cases rule.maximum with
    | none => exact List.forall_mem_nil _
    | some greatest => exact forall_mem_issueIf _ (.of_bound (.inr rfl) rfl rfl (by simp))
  · exact forall_mem_issueIf _ (.of_code (by simp [Site.issue]) (.inr rfl))
  · cases rule.precision with
    | none => exact List.forall_mem_nil _
    | some places => exact forall_mem_issueIf _ (.of_code (by simp [Site.issue]) (.inr rfl))

theorem ListRule.foundIn_sizeIssues (rule : ListRule) (items : List Value) :
    ∀ issue ∈ rule.sizeIssues site items.length, FoundIn (.list items) issue := by
  refine List.forall_mem_append.mpr ⟨?_, ?_⟩
  · cases rule.minItems with
    | none => exact List.forall_mem_nil _
    | some least => exact forall_mem_issueIf _ (.of_size (.inl rfl) rfl rfl)
  · cases rule.maxItems with
    | none => exact List.forall_mem_nil _
    | some greatest => exact forall_mem_issueIf _ (.of_size (.inr rfl) rfl rfl)

theorem ListRule.foundIn_repetitionIssues (rule : ListRule) (items : List Value) :
    ∀ issue ∈ rule.repetitionIssues site items, FoundIn (.list items) issue := by
  have hrepeats := listsRepeats_repeatedIndices items
  unfold repetitionIssues
  split
  · exact forall_mem_issueIf _
      { shown := .inl rfl
        repeated := fun _ => ⟨items, repeatedIndices items, rfl, rfl, hrepeats.ascending,
          fun i hi => ((hrepeats.mem_iff i).mp hi).lt_length⟩
        counted := by simp [Site.issueWith, Site.issue]
        own := by simp [Site.issueWith, Site.issue] }
  · exact List.forall_mem_nil _

theorem DateRange.foundIn {α : Type} (range : DateRange α) (isBefore : α → α → Bool) (date : α)
    (hlist : ∀ items, v ≠ .list items) :
    ∀ issue ∈ range.issues isBefore site v date, FoundIn v issue := by
  refine List.forall_mem_append.mpr ⟨?_, ?_⟩
  · cases range.earliest with
    | none => exact List.forall_mem_nil _
    | some bound => exact forall_mem_issueIf _ (.of_bound (.inl rfl) rfl rfl hlist)
  · cases range.latest with
    | none => exact List.forall_mem_nil _
    | some bound => exact forall_mem_issueIf _ (.of_bound (.inr rfl) rfl rfl hlist)

theorem FileRule.foundIn (rule : FileRule) {size : Number} {type : String}
    (hsize : v.get? "size" = some (.number size)) (htype : v.get? "type" = some (.text type)) :
    ∀ issue ∈ rule.issues site size type, FoundIn v issue := by
  refine List.forall_mem_append.mpr ⟨?_, ?_⟩
  · cases rule.maxSize with
    | none => exact List.forall_mem_nil _
    | some greatest => exact forall_mem_issueIf _ (.of_code (by simp [Site.issue]) (.inr hsize))
  · cases rule.types with
    | none => exact List.forall_mem_nil _
    | some types => exact forall_mem_issueIf _ (.of_code (by simp [Site.issue]) (.inr htype))

namespace LeafRule

theorem foundIn_checkUrl (protocols : Option (List String)) (s output : String) :
    ∀ issue ∈ (checkUrl site protocols s output).issues, FoundIn (.text s) issue := by
  unfold checkUrl
  split
  · exact List.forall_mem_singleton.mpr (.of_code (by simp [Site.issue]) (.inr rfl))
  · split
    · exact List.forall_mem_nil _
    · split
      · exact List.forall_mem_nil _
      · exact List.forall_mem_singleton.mpr
          (.of_code (by simp [Site.issueWith, Site.issue]) (.inr rfl))

theorem foundIn_checkSchema {schema : Option Value} {isRead : Bool} {part : Value}
    (h : checkSchema site schema isRead v part = .ok o) : ∀ issue ∈ o.issues, FoundIn v issue := by
  unfold checkSchema at h
  split at h
  · cases h
    exact List.forall_mem_nil _
  · split at h
    · cases h
    · cases h
      exact List.forall_mem_nil _
    · cases h
      exact List.forall_mem_singleton.mpr
        (.of_code (by simp [schemaIssue, Site.issueWith, Site.issue]) (.inr rfl))

/-- What a rule finds wrong with a value is told of the value. -/
theorem foundIn_run {rule : LeafRule} (h : rule.run site v = .ok o) :
    ∀ issue ∈ o.issues, FoundIn v issue := by
  have reject {issue : Issue} (hissue : FoundIn v issue) :
      ∀ other ∈ (Outcome.reject v issue).issues, FoundIn v other :=
    List.forall_mem_singleton.mpr hissue
  cases rule with
  | text rule transform =>
    simp only [run] at h
    split at h
    · obtain ⟨issues, hissues, rfl⟩ := exists_of_map_eq_ok h
      exact rule.foundIn hissues
    · cases h
      exact reject (foundIn_typeIssue _ _ _)
  | url rule transform protocols =>
    simp only [run] at h
    split at h
    · split at h
      · cases h
        exact foundIn_checkUrl _ _ _
      · rename_i hissues
        cases h
        exact rule.foundIn hissues
      · cases h
    · cases h
      exact reject (foundIn_typeIssue _ _ _)
  | number rule =>
    simp only [run] at h
    split at h
    · rename_i n hn
      obtain ⟨rfl, -⟩ := (Value.finite?_eq_some_iff v n).mp hn
      cases h
      exact rule.foundIn n
    · cases h
      exact reject (foundIn_typeIssue _ _ _)
  | boolean =>
    cases h
    split
    · exact List.forall_mem_nil _
    · exact reject (foundIn_typeIssue _ _ _)
  | choice values =>
    cases h
    split
    · exact List.forall_mem_nil _
    · exact reject (foundIn_choiceIssue _ _ _)
  | anyList rule =>
    simp only [run] at h
    split at h
    · split at h
      · cases h
        exact rule.foundIn_repetitionIssues _
      · cases h
        exact rule.foundIn_sizeIssues _
    · cases h
      exact reject (foundIn_typeIssue _ _ _)
  | anyRecord =>
    simp only [run] at h
    split at h
    · cases h
      exact List.forall_mem_nil _
    · cases h
      exact reject (foundIn_typeIssue _ _ _)
  | date range =>
    simp only [run] at h
    split at h
    · rename_i d hd
      cases h
      refine range.foundIn _ _ ?_
      rintro items rfl
      cases hd
    · cases h
      exact reject (.of_code (by simp [dateIssue, Site.issue]) (.inr rfl))
  | dateTime range timezone =>
    simp only [run] at h
    split at h
    · rename_i t ht
      split at h
      · cases h
        exact reject (.of_code (by simp [Site.issue]) (.inr rfl))
      · cases h
        refine range.foundIn _ _ ?_
        rintro items rfl
        cases ht
    · cases h
      exact reject (.of_code (by simp [dateIssue, Site.issue]) (.inr rfl))
  | time =>
    simp only [run] at h
    split at h
    · cases h
      exact List.forall_mem_nil _
    · split at h
      · cases h
        exact List.forall_mem_nil _
      · cases h
        exact reject (.of_code (by simp [Site.issue]) (.inr rfl))
  | file rule =>
    simp only [run] at h
    split at h
    · rename_i size type hparts
      obtain ⟨-, ⟨hsize, -⟩, htype⟩ := (parts?_eq_some_iff v size type).mp hparts
      cases h
      exact rule.foundIn hsize htype
    · cases h
      exact reject (.of_code (by simp [Site.issue]) (.inl rfl))
  | json schema =>
    simp only [run] at h
    split at h
    · split at h
      · exact foundIn_checkSchema h
      · cases h
        exact reject (.of_code (by simp [Site.issue]) (.inr rfl))
    · exact foundIn_checkSchema h

end LeafRule

/-- An enumeration that a value is none of is told of the value. -/
theorem Site.foundIn_withMembers (site : Site) {P : Issue → Prop} (h : ∀ issue ∈ o.issues, P issue)
    (hfound : ∀ issue, FoundIn v issue → issue.path = site.path → P issue) :
    ∀ issue ∈ (site.withMembers v o).issues, P issue := by
  unfold withMembers
  split
  · split
    · exact List.forall_mem_singleton.mpr (hfound _ (foundIn_choiceIssue site v _) rfl)
    · exact h
  · exact h

end

section

variable {fields : FieldMap} {data v : Value} {options : Options} {path : DataPath} {label : String}
  {check : Check} {o : Outcome} {d : Definition}

/-- What is told of the part of data that it lies at points into the data. -/
theorem Issue.FoundIn.pointsInto {issue : Issue} (h : FoundIn v issue)
    (hat : data.at? issue.path = some v) : issue.PointsInto fields data where
  reached _ := ⟨v, hat, h.toTellsOf⟩
  missing hcode := absurd (hcode ▸ h.own) (by decide)
  keys hcode := absurd (hcode ▸ h.own) (by decide)

/-- The issue of a missing property points to a record in which the property is absent or null. -/
theorem pointsInto_missingIssue {entries : List (String × Value)} {name : String}
    (hat : data.at? path = some (.record entries)) (habsent : present? name entries = none)
    (subject : Subject) :
    (Site.missingIssue ⟨subject, options, path ++ [.key name]⟩).PointsInto fields data where
  reached hcode := absurd rfl hcode
  missing _ := ⟨rfl, path, name, entries, rfl, hat, present?_eq_none_iff.mp habsent⟩
  keys hcode := by cases hcode

/-- The issue of unknown keys points to the record that has them. -/
theorem pointsInto_keysIssue {entries : List (String × Value)} {names : List String}
    (hat : data.at? path = some (.record entries)) (hnames : fields.DeclaresAt path names) :
    (keysIssue options path ((undeclaredKeys names entries).map (·.1))).PointsInto fields data where
  reached _ := ⟨_, hat, ⟨.inl rfl, by simp [keysIssue], by simp [keysIssue]⟩⟩
  missing hcode := by cases hcode
  keys _ := ⟨names, entries, hnames, hat, by rw [List.filter_map]; rfl⟩

/-- The issues of the properties of a record, and those of its keys, point into the data. -/
theorem pointsInto_closeRecord {entries : List (String × Value)} {required : List String}
    {unknown : UnknownKeys} {checks : List (String × Check)}
    {found : Gathered (List (String × Value))} (hat : data.at? path = some (.record entries))
    (hnames : fields.DeclaresAt path (checks.map (·.1)))
    (hproperty : ∀ name check, (name, check) ∈ checks → ∀ v o,
      data.at? (path ++ [.key name]) = some v → check.run options (path ++ [.key name]) v = .ok o →
        ∀ issue ∈ o.issues, issue.PointsInto fields data)
    (h : resolveProperties options path required entries checks = .ok found) :
    ∀ issue ∈ (closeRecord options unknown path (checks.map (·.1)) entries found).issues,
      issue.PointsInto fields data := by
  intro issue hm
  rcases mem_closeRecord hm with hm | rfl
  · obtain ⟨name, check, hmem, ⟨habsent, rfl⟩ | ⟨v, o, hpresent, hrun, hm⟩⟩ :=
      exists_of_mem_resolveProperties checks h hm
    · exact pointsInto_missingIssue hat habsent check.subject
    · refine hproperty name check hmem v o ?_ hrun issue hm
      rw [Value.at?_append_singleton hat]
      exact (present?_eq_some_iff.mp hpresent).1
  · exact pointsInto_keysIssue hat hnames

/-- What a check finds wrong with a value without parts points to the value. -/
theorem pointsInto_run_whole (hw : d.IsWhole) (hat : data.at? path = some v)
    (hc : d.compile label = .ok check) (h : check.run options path v = .ok o) :
    ∀ issue ∈ o.issues, issue.PointsInto fields data := by
  obtain ⟨rule, -, rfl⟩ := Definition.exists_of_compile_whole hw hc
  rw [Check.run_leaf] at h
  obtain ⟨found, hfound, rfl⟩ := exists_of_map_eq_ok h
  obtain ⟨findings, hfindings⟩ := LeafRule.exists_findings hfound
  refine Site.foundIn_withMembers _ (fun issue hm => ?_) fun issue hissue hpath =>
    hissue.pointsInto (hpath ▸ hat)
  have hpath : issue.path = path := by
    rw [hfindings] at hm
    obtain ⟨finding, -, rfl⟩ := List.mem_map.mp hm
    rfl
  exact (LeafRule.foundIn_run hfound issue hm).pointsInto (hpath ▸ hat)

/-- What a check finds wrong with a list or its items points to them. -/
theorem pointsInto_run_items {item : Definition} (hk : d.kind = .array) (hi : d.items = .of item)
    (hitem : ∀ {label : String} {check : Check} {path : DataPath} {v : Value} {o : Outcome},
      fields.Governs path item → data.at? path = some v → item.compile label = .ok check →
        check.run options path v = .ok o → ∀ issue ∈ o.issues, issue.PointsInto fields data)
    (hd : fields.Governs path d) (hat : data.at? path = some v) (hc : d.compile label = .ok check)
    (h : check.run options path v = .ok o) : ∀ issue ∈ o.issues, issue.PointsInto fields data := by
  obtain ⟨part, hpart, rfl⟩ := Definition.exists_of_compile_items hk hi hc
  rcases v.list_or_ne with ⟨items, rfl⟩ | hne
  · rw [Check.run_listOf_list] at h
    obtain ⟨closed, hclosed, rfl⟩ := exists_of_map_eq_ok h
    obtain ⟨found, hfound, rfl⟩ := exists_of_map_eq_ok hclosed
    have hown {issue : Issue} (hissue : FoundIn (.list items) issue) (hpath : issue.path = path) :
        issue.PointsInto fields data := hissue.pointsInto (hpath ▸ hat)
    refine Site.foundIn_withMembers _ (List.forall_mem_append.mpr
      ⟨List.forall_mem_append.mpr ⟨fun issue hm => ?_, fun issue hm => ?_⟩, fun issue hm => ?_⟩)
      fun issue => hown
    · exact hown (ListRule.foundIn_sizeIssues _ items issue hm)
        (((ListRule.told_sizeIssues _ _ _).allFrom options path issue hm).1)
    · obtain ⟨i, w, o, hw, hrun, hm⟩ := exists_of_mem_gatherItems items hfound hm
      rw [Nat.zero_add] at hrun
      refine hitem (hd.trans (.items hk hi i (.here item))) ?_ hpart hrun issue hm
      rwa [Value.at?_append_singleton hat]
    · split at hm
      · exact hown (ListRule.foundIn_repetitionIssues _ items issue hm)
          (((ListRule.told_repetitionIssues _ _ _).allFrom options path issue hm).1)
      · cases hm
  · rw [Check.run_listOf_of_ne _ _ _ _ _ hne] at h
    cases h
    exact List.forall_mem_singleton.mpr ((foundIn_typeIssue _ _ _).pointsInto hat)

/-- What a check finds wrong with a record or its properties points to them. -/
theorem pointsInto_run_properties {properties : FieldMap} (hk : d.kind = .object)
    (hp : d.properties = .of properties)
    (hproperty : ∀ name p, (name, p) ∈ properties →
      ∀ {label : String} {check : Check} {path : DataPath} {v : Value} {o : Outcome},
        fields.Governs path p → data.at? path = some v → p.compile label = .ok check →
          check.run options path v = .ok o → ∀ issue ∈ o.issues, issue.PointsInto fields data)
    (hd : fields.Governs path d) (hat : data.at? path = some v) (hc : d.compile label = .ok check)
    (h : check.run options path v = .ok o) : ∀ issue ∈ o.issues, issue.PointsInto fields data := by
  obtain ⟨rule, checks, hchecks, rfl⟩ := Definition.exists_of_compile_properties hk hp hc
  rcases v.record_or_ne with ⟨entries, rfl⟩ | hne
  · rw [Check.run_recordOf_record] at h
    obtain ⟨closed, hclosed, rfl⟩ := exists_of_map_eq_ok h
    obtain ⟨shut, hshut, rfl⟩ := exists_of_map_eq_ok hclosed
    obtain ⟨found, hfound, rfl⟩ := exists_of_map_eq_ok hshut
    have hnames : fields.DeclaresAt path (checks.map (·.1)) := by
      have hdeclared : d.propertyNames = checks.map (·.1) := by
        rw [Definition.propertyNames, hp, names_of_compileFields hchecks]
      exact hdeclared ▸ .governed hd hk
    refine Site.foundIn_withMembers _ (pointsInto_closeRecord hat hnames ?_ hfound)
      fun issue hissue hpath => hissue.pointsInto (hpath ▸ hat)
    intro name part hm w o hw hrun
    obtain ⟨p, hmem, hpart⟩ := exists_of_mem_checks hchecks hm
    exact hproperty name p hmem (hd.trans (.property hk hp hmem (.here p))) hw hpart hrun
  · rw [Check.run_recordOf_of_ne _ _ _ _ _ hne] at h
    cases h
    exact List.forall_mem_singleton.mpr ((foundIn_typeIssue _ _ _).pointsInto hat)

/-- What a check finds wrong with the part of data at its path points into the data. -/
theorem pointsInto_run (d : Definition) (hd : fields.Governs path d) (hat : data.at? path = some v)
    (hc : d.compile label = .ok check) (h : check.run options path v = .ok o) :
    ∀ issue ∈ o.issues, issue.PointsInto fields data := by
  induction d using Definition.nested_induction generalizing label check path v o with
  | step d hitems hproperties =>
    rcases d.shape with ⟨hk, item, hi⟩ | ⟨hk, properties, hp⟩ | hw
    · exact pointsInto_run_items hk hi (hitems item hi) hd hat hc h
    · exact pointsInto_run_properties hk hp (fun name p hm => hproperties properties hp name p hm) hd
        hat hc h
    · exact pointsInto_run_whole hw hat hc h

end

/-- Every issue of a validator points into the data. -/
theorem Validator.issues_pointInto {fields : FieldMap} {options : Options} {name : String}
    {validator : Validator} (hc : Validator.compile options name fields = .ok validator)
    {entries : List (String × Value)} {issues : List Issue}
    (h : validator.validate (.record entries) = .ok (.rejected issues)) :
    ∀ issue ∈ issues, issue.PointsInto fields (.record entries) := by
  obtain ⟨checks, hchecks, rfl⟩ := exists_of_compile hc
  change validateRecord _ entries = _ at h
  rw [validateRecord_eq] at h
  obtain ⟨closed, hclosed, hverdict⟩ := exists_of_map_eq_ok h
  obtain ⟨found, hfound, rfl⟩ := exists_of_map_eq_ok hclosed
  have hnames : fields.DeclaresAt [] (checks.map (·.1)) := by
    rw [names_of_compileFields hchecks]
    exact .top
  have hissues : ∀ issue ∈ (closeRecord options options.unknown [] (checks.map (·.1)) entries
      found).issues, issue.PointsInto fields (.record entries) := by
    refine pointsInto_closeRecord rfl hnames (fun key part hm v o hv hrun => ?_) hfound
    obtain ⟨d, hmem, hpart⟩ := exists_of_mem_checks hchecks hm
    exact pointsInto_run d ⟨key, d, [], hmem, rfl, .here d⟩ hv hpart hrun
  unfold Gathered.verdict at hverdict
  split at hverdict
  · cases hverdict
  · cases hverdict
    exact hissues

/-- A record with a code that must be there, and with tags that must differ. -/
def taggedRow : Definition :=
  let code : Definition :=
    ⟨{ FieldAttributes.ofKind .string with required := some true }, .undeclared, .undeclared⟩
  let tags : Definition :=
    ⟨{ FieldAttributes.ofKind .array with uniqueItems := some true }, .undeclared, .undeclared⟩
  ⟨.ofKind .object, .undeclared, .of [("code", code), ("tags", tags)]⟩

/-- A list of such records. -/
def taggedRows : FieldMap := [("rows", ⟨.ofKind .array, .of taggedRow, .undeclared⟩)]

/-- Two records, of which the second has tags that repeat, no code and a size. -/
def mistaggedRows : List (String × Value) :=
  [("rows", .list
    [.record [("code", .text "a")],
      .record [("tags", .texts ["x", "y", "x"]), ("code", .null), ("size", .int 1)]])]

/-- Three issues of the second record point to its code, to its tags and to the record itself. -/
theorem Validator.issues_pointInto_taggedRows :
    ∃ validator issues, Validator.compile .standard "Input" taggedRows = .ok validator ∧
      validator.validate (.record mistaggedRows) = .ok (.rejected issues) ∧
      issues.map (·.path) = [[.key "rows", .index 1, .key "code"],
        [.key "rows", .index 1, .key "tags"], [.key "rows", .index 1]] ∧
      ∀ issue ∈ issues, issue.PointsInto taggedRows (.record mistaggedRows) := by
  have hrow : taggedRow.compile "rows[]" = .ok _ :=
    Definition.compile_of_declared rfl rfl rfl fun _ hm => by cases hm
  have hfields : compileFields id taggedRows = .ok _ :=
    Definition.compileFields_cons_of_ok (Definition.compile_of_item rfl rfl hrow) rfl
  have hc : Validator.compile .standard "Input" taggedRows = .ok ⟨"Input", .standard, _⟩ :=
    congrArg (Except.map _) hfields
  exact ⟨_, _, hc, rfl, rfl, issues_pointInto hc rfl⟩

end Intake
