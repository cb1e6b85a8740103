import Intake.Field.Draft
import Intake.Proofs.Field.RoundTrip
import Intake.Proofs.Validation.Addressing
import Intake.Proofs.Validation.Output
import Intake.Proofs.Validation.Pointing
import Intake.Proofs.Validation.Stability

/-!
# Values that stand for absent ones

A definition that declares a value for absent ones is optional, however it was made: read from a
declaration or built step by step, at every depth. So the value stands in every output where a record
has none of its own, and no issue says that it is missing unless the record itself asks for it by
name. Main statement: this holds of all fields that were made and of all properties of records, but
not of the items of lists: null in a list is an item.
-/

namespace Intake

namespace Draft

variable {draft taken : Draft} {name other : String}

theorem lookup_set_of_ne (hne : name ≠ other) (value : Value) :
    (draft.set other value).attributes.lookup name = draft.attributes.lookup name :=
  lookup_insertEntry_of_ne hne value draft.attributes

/-- No step but one declares a value for absent ones. -/
theorem lookup_default_take {step : DraftStep} (hstep : ∀ value, step ≠ .fallback value)
    (h : draft.take step = .ok taken) :
    taken.attributes.lookup "default" = draft.attributes.lookup "default" := by
  have hset {name : String} {value : Value} (hne : "default" ≠ name)
      (h : Except.ok (draft.set name value) = Except.ok (ε := DraftFault) taken) :
      taken.attributes.lookup "default" = draft.attributes.lookup "default" := by
    cases h
    exact lookup_set_of_ne hne value
  have hmap {name : String} {made : Except DraftFault Value} (hne : "default" ≠ name)
      (h : made.map (draft.set name) = .ok taken) :
      taken.attributes.lookup "default" = draft.attributes.lookup "default" := by
    obtain ⟨value, -, rfl⟩ := exists_of_map_eq_ok h
    exact lookup_set_of_ne hne value
  cases step with
  | fallback value => exact absurd rfl (hstep value)
  | protocols schemes =>
    obtain ⟨value, -, rfl⟩ := exists_of_map_eq_ok h
    exact lookup_set_of_ne (by decide) _
  | transform | format | labels | requiredProperties | timezone | mimeTypes =>
    exact hmap (by decide) h
  | _ => exact hset (by decide) h

theorem lookup_default_takeAll {steps : List DraftStep} (hsteps : ∀ value, .fallback value ∉ steps)
    (h : draft.takeAll steps = .ok taken) :
    taken.attributes.lookup "default" = draft.attributes.lookup "default" := by
  induction steps generalizing draft with
  | nil =>
    cases h
    rfl
  | cons step rest ih =>
    rw [takeAll, List.foldlM_cons] at h
    obtain ⟨next, hnext, hrest⟩ := exists_of_bind_eq_ok h
    have hstep (value : Value) : step ≠ .fallback value :=
      fun heq => hsteps value (heq ▸ List.mem_cons_self)
    rw [ih (fun value hm => hsteps value (List.mem_cons_of_mem step hm)) hrest,
      lookup_default_take hstep hnext]

/-- The value that was declared last stands for absent ones, whatever else was declared before and
after it. -/
theorem lookup_default_of_last {before after : List DraftStep} {u : Value}
    (hafter : ∀ value, .fallback value ∉ after)
    (h : draft.takeAll (before ++ .fallback u :: after) = .ok taken) :
    taken.attributes.lookup "default" = some u := by
  rw [takeAll, List.foldlM_append] at h
  obtain ⟨reached, -, h⟩ := exists_of_bind_eq_ok h
  rw [List.foldlM_cons] at h
  obtain ⟨next, hnext, hrest⟩ := exists_of_bind_eq_ok h
  cases hnext
  rw [lookup_default_takeAll hafter hrest, lookup_set_of_ne (by decide), lookup_set]

/-- A definition that is built declares the value that was declared last, and is optional. -/
theorem declares_of_last {before after : List DraftStep} {u : Value} {d : Definition}
    (hafter : ∀ value, .fallback value ∉ after)
    (h : draft.takeAll (before ++ .fallback u :: after) = .ok taken) (hbuild : taken.build = .read d) :
    d.attributes.fallback = some u ∧ d.attributes.required = some false := by
  have hvalue := lookup_default_of_last hafter h
  have hread : Definition.readWithin (Value.record taken.attributes).depth (.record taken.attributes) =
    .read d := hbuild
  have hoptional := (Definition.fallbackOptional_of_readWithin hread).here
  cases hdepth : (Value.record taken.attributes).depth with
  | zero =>
    rw [hdepth] at hread
    cases hread
  | succ budget =>
    rw [hdepth] at hread
    obtain ⟨_, hentries, hfrom⟩ := Definition.readFrom_of_readWith hread
    cases hentries
    have hfallback := hfrom.fallback
    rw [readOption, findAttribute, hvalue] at hfallback
    have hdeclared : some u = d.attributes.fallback := Reading.read.inj hfallback
    exact ⟨hdeclared.symm, hoptional (hdeclared ▸ rfl)⟩

end Draft

namespace Definition

/-- A definition was made, by reading a declaration or by taking steps from the start of a draft. -/
inductive IsMade (d : Definition) : Prop where
  /-- It was read. -/
  | read {v : Value} (h : Definition.read v = .read d)
  /-- It was built. -/
  | built {draft taken : Draft} {steps : List DraftStep} (hsteps : draft.takeAll steps = .ok taken)
    (h : taken.build = .read d)

theorem IsMade.fallbackOptional {d : Definition} (h : d.IsMade) :
    d.Throughout FieldAttributes.FallbackOptional := by
  cases h with
  | read h => exact fallbackOptional_of_readWithin h
  | built hsteps h => exact fallbackOptional_of_readWithin h

variable {d e : Definition}

theorem At.within {path : DataPath} (h : d.At path e) : e.Within d := by
  induction h with
  | here d => exact .here
  | items hk hi i h ih => exact .items hi ih
  | property hk hp hm h ih => exact .property hp hm ih

/-- A path of at least one step leads through what governs after the step. -/
theorem At.exists_of_cons {segment : PathSegment} {rest : DataPath} (h : d.At (segment :: rest) e) :
    ∃ p, d.At [segment] p ∧ p.At rest e := by
  cases h with
  | items hk hi i h => exact ⟨_, .items hk hi i (.here _), h⟩
  | property hk hp hm h => exact ⟨_, .property hk hp hm (.here _), h⟩

end Definition

/-- Data lacks a value: at a path stands a record that has nothing but null under a name. -/
def Value.Lacks (data : Value) (path : DataPath) (name : String) : Prop :=
  ∃ entries, data.at? path = some (.record entries) ∧ present? name entries = none

/-- Null has no parts. -/
theorem Value.isNull_eq_false_of_at? {v : Value} {path : DataPath}
    {entries : List (String × Value)} (h : v.at? path = some (.record entries)) :
    v.isNull = false := by
  cases v with
  | null =>
    cases path with
    | nil => cases h
    | cons segment rest =>
      obtain ⟨_, hstep, -⟩ := Option.bind_eq_some_iff.mp h
      cases segment with
      | key name => cases hstep
      | index i => cases i <;> cases hstep
  | _ => rfl

section Output

variable {options : Options} {path base : DataPath} {required : List String}
  {data own out : List (String × Value)} {name : String} {check : Check}
  {properties : List (String × Check)}

/-- Under the name of a property stands what was made of it. -/
theorem lookup_resolveProperties (hnames : (properties.map (·.1)).Nodup)
    (h : resolveProperties options path required data properties = .ok ⟨own, []⟩)
    (hm : (name, check) ∈ properties) :
    ∃ mine, resolveProperty options path required data name check = .ok ⟨mine, []⟩ ∧
      own.lookup name = mine.lookup name := by
  induction properties generalizing own with
  | nil => cases hm
  | cons property rest ih =>
    obtain ⟨other, part⟩ := property
    obtain ⟨hfresh, hrest⟩ := List.nodup_cons.mp hnames
    obtain ⟨first, others, hfirst, hothers, rfl⟩ := resolveProperties_cons_eq_iff.mp h
    rcases List.mem_cons.mp hm with heq | hm
    · cases heq
      refine ⟨first, hfirst, ?_⟩
      rw [List.lookup_append, lookup_eq_none_of_keys others, Option.or_none]
      exact fun entry hentry heq => hfresh (heq ▸ key_mem_of_resolveProperties hothers entry hentry)
    · obtain ⟨mine, hmine, hlookup⟩ := ih hrest hothers hm
      refine ⟨mine, hmine, ?_⟩
      rw [List.lookup_append, lookup_eq_none_of_keys first, Option.none_or, hlookup]
      rintro entry hentry rfl
      exact hfresh (key_eq_of_resolveProperty hfirst entry hentry ▸
        List.mem_map_of_mem (f := (·.1)) hm)

variable {fields : FieldMap} {labelOf : String → String} {unknown : UnknownKeys} {d : Definition}

/-- Under the name of a field that is there stands what its check made of it; under that of one that
is not there stands the value that is declared for it, if there is one. -/
theorem lookup_resolveRecord (hchecks : compileFields labelOf fields = .ok properties)
    (hnames : (fields.map (·.1)).Nodup)
    (h : resolveRecord options unknown path required data properties = .ok ⟨out, []⟩)
    (hm : (name, d) ∈ fields) :
    (∀ v, present? name data = some v → ∃ check w, d.compile (labelOf name) = .ok check ∧
      check.run options (path ++ [.key name]) v = .ok (.accept w) ∧ out.lookup name = some w) ∧
    (present? name data = none → ∀ u, d.attributes.fallback = some u → out.lookup name = some u) := by
  obtain ⟨⟨own, issues⟩, hown, hclosed⟩ := exists_of_map_eq_ok h
  obtain ⟨hissues, -, rfl⟩ := closeRecord_eq_iff.mp hclosed
  cases hissues
  obtain ⟨check, hc, hmem⟩ := Definition.compile_of_mem hchecks hm
  have hdistinct : (properties.map (·.1)).Nodup := by
    rw [names_of_compileFields hchecks]
    exact hnames
  obtain ⟨mine, hmine, hlookup⟩ := lookup_resolveProperties hdistinct hown hmem
  have hstands {w : Value} (heq : mine = [(name, w)]) :
      (own ++ if unknown = .keep then undeclaredKeys (properties.map (·.1)) data else []).lookup name =
        some w := by
    rw [List.lookup_append, hlookup, heq, List.lookup_cons_self, Option.some_or]
  rcases resolveProperty_eq_iff.mp hmine with ⟨v, w, hpresent, hrun, heq⟩ | ⟨habsent, -, heq⟩
  · refine ⟨fun v' hv => ?_, fun hv => ?_⟩
    · cases hpresent.symm.trans hv
      exact ⟨check, w, hc, hrun, hstands heq⟩
    · cases hpresent.symm.trans hv
  · refine ⟨fun v hv => ?_, fun _ u hu => hstands ?_⟩
    · cases habsent.symm.trans hv
    · have hfallback : check.subject.fallback = some u := (subject_of_compile hc ▸ hu)
      rw [heq, hfallback]
      rfl

/-- What was made of the items of a list stands at their indices. -/
theorem exists_of_gatherItems {stop : Bool} {check : DataPath → Value → Except Failure Outcome}
    {i j : Nat} {items outputs : List Value} {v : Value}
    (h : gatherItems stop false check path i items = .ok ⟨outputs, []⟩) (hv : items[j]? = some v) :
    ∃ below w, check below v = .ok (.accept w) ∧ outputs[j]? = some w := by
  induction items generalizing i j outputs with
  | nil => cases hv
  | cons first rest ih =>
    obtain ⟨w, others, hfirst, hothers, rfl⟩ := gatherItems_cons_eq_iff.mp h
    cases j with
    | zero =>
      cases hv
      exact ⟨_, w, hfirst, rfl⟩
    | succ j =>
      obtain ⟨below, made, hrun, hmade⟩ := ih hothers hv
      exact ⟨below, made, hrun, hmade⟩

end Output

namespace Definition

variable {options : Options} {base path : DataPath} {label : String} {check : Check}
  {v w part : Value} {d e p : Definition} {segment : PathSegment}

/-- A part of what a check accepts is accepted by the check of what governs it, and the output has what
this check made of it in its place. -/
theorem exists_of_run_accept (hnames : d.NamesUnique) (hc : d.compile label = .ok check)
    (hrun : check.run options base v = .ok (.accept w)) (hat : d.At [segment] p)
    (hpart : v.step? segment = some part) (hthere : part.isNull = false) :
    ∃ other below check' made, p.compile other = .ok check' ∧
      check'.run options below part = .ok (.accept made) ∧ w.step? segment = some made := by
  cases hat with
  | items hk hi i hat =>
    cases hat
    obtain ⟨inner, hinner, rfl⟩ := exists_of_compile_items hk hi hc
    obtain ⟨items, outputs, rfl, rfl, -, hfound, -, -⟩ := Check.run_listOf_eq_accept_iff.mp hrun
    obtain ⟨below, made, hmade, hout⟩ := exists_of_gatherItems hfound hpart
    exact ⟨_, below, inner, made, hinner, hmade, hout⟩
  | property hk hp hm hat =>
    cases hat
    obtain ⟨rule, checks, hchecks, rfl⟩ := exists_of_compile_properties hk hp hc
    obtain ⟨data, out, rfl, rfl, hresolve, -⟩ := Check.run_recordOf_eq_accept_iff.mp hrun
    have hpresent := present?_eq_some_iff.mpr ⟨hpart, hthere⟩
    obtain ⟨inner, made, hinner, hmade, hout⟩ :=
      (lookup_resolveRecord hchecks (hnames hk hp) hresolve hm).1 part hpresent
    exact ⟨_, _, inner, made, hinner, hmade, hout⟩

/-- Where accepted data lacks a value, the output has the one that is declared for absent ones. -/
theorem at?_of_lacks {name : String} {u : Value} (hnames : ∀ path p, d.At path p → p.NamesUnique)
    (hc : d.compile label = .ok check) (hrun : check.run options base v = .ok (.accept w))
    (hat : d.At (path ++ [.key name]) e) (hu : e.attributes.fallback = some u)
    (hlacks : v.Lacks path name) : w.at? (path ++ [.key name]) = some u := by
  induction path generalizing d label check base v w with
  | nil =>
    cases hat with
    | property hk hp hm hat =>
      cases hat
      obtain ⟨rule, checks, hchecks, rfl⟩ := exists_of_compile_properties hk hp hc
      obtain ⟨data, out, rfl, rfl, hresolve, -⟩ := Check.run_recordOf_eq_accept_iff.mp hrun
      obtain ⟨_, hentries, habsent⟩ := hlacks
      cases hentries
      have hout := (lookup_resolveRecord hchecks (hnames [] d (.here d) hk hp) hresolve hm).2
        habsent u hu
      exact Option.bind_eq_some_iff.mpr ⟨u, hout, rfl⟩
  | cons segment rest ih =>
    obtain ⟨p, hstep, hrest⟩ := At.exists_of_cons hat
    obtain ⟨entries, hentries, habsent⟩ := hlacks
    obtain ⟨part, hpart, hbelow⟩ := Option.bind_eq_some_iff.mp hentries
    obtain ⟨_, _, _, made, hcheck, hmade, hout⟩ := exists_of_run_accept (hnames [] d (.here d)) hc
      hrun hstep hpart (Value.isNull_eq_false_of_at? hbelow)
    refine Option.bind_eq_some_iff.mpr ⟨made, hout, ?_⟩
    exact ih (fun path q hq => hnames _ q (hstep.trans hq)) hcheck hmade hrest
      ⟨entries, hbelow, habsent⟩

end Definition

/-- Where accepted data lacks a value, the output has the one that is declared for absent ones, at
whatever depth. -/
theorem Validator.at?_of_lacks {fields : FieldMap} (hnames : fields.UniqueNames) {options : Options}
    {label : String} {validator : Validator}
    (hc : Validator.compile options label fields = .ok validator)
    {entries output : List (String × Value)}
    (h : validator.validateRecord entries = .ok (.accepted output)) {path : DataPath} {name : String}
    {e : Definition} (hgoverns : fields.Governs (path ++ [.key name]) e) {u : Value}
    (hu : e.attributes.fallback = some u) (hlacks : (Value.record entries).Lacks path name) :
    (Value.record output).at? (path ++ [.key name]) = some u := by
  obtain ⟨checks, hchecks, rfl⟩ := exists_of_compile hc
  have hresolve := validateRecord_eq_accepted_iff.mp h
  obtain ⟨field, d, rest, hm, hpath, hat⟩ := hgoverns
  obtain ⟨hthere, habsent⟩ := lookup_resolveRecord hchecks hnames.top hresolve hm
  obtain ⟨inner, hinner, hnone⟩ := hlacks
  cases path with
  | nil =>
    cases hpath
    cases hat
    cases hinner
    exact Option.bind_eq_some_iff.mpr ⟨u, habsent hnone u hu, rfl⟩
  | cons segment before =>
    cases hpath
    obtain ⟨part, hpart, hbelow⟩ := Option.bind_eq_some_iff.mp hinner
    obtain ⟨check, w, hcheck, hrun, hout⟩ := hthere part
      (present?_eq_some_iff.mpr ⟨hpart, Value.isNull_eq_false_of_at? hbelow⟩)
    refine Option.bind_eq_some_iff.mpr ⟨w, hout, ?_⟩
    exact Definition.at?_of_lacks (fun path p hp => hnames.nested _ p ⟨field, d, path, hm, rfl, hp⟩)
      hcheck hrun hat hu ⟨inner, hbelow, hnone⟩

namespace FieldMap

/-- The record at a path asks for a property by name. -/
def AsksFor (fields : FieldMap) (path : DataPath) (name : String) : Prop :=
  ∃ d names, fields.Governs path d ∧ d.attributes.requiredProperties.value? = some names ∧
    name ∈ names

/-- The value at a path is needed: its definition requires it, or the record that it belongs to asks
for it. -/
def Needs (fields : FieldMap) (path : DataPath) : Prop :=
  ∃ before name p, path = before ++ [.key name] ∧ fields.Governs path p ∧
    (p.isRequired = true ∨ fields.AsksFor before name)

end FieldMap

section Missing

variable {fields : FieldMap} {options : Options} {path : DataPath} {label : String} {check : Check}
  {v : Value} {o : Outcome}

/-- Issues say only of needed values that they are missing. -/
def OnlyNeeded (fields : FieldMap) (issues : List Issue) : Prop :=
  ∀ issue ∈ issues, issue.code = .required → fields.Needs issue.path

/-- What is found of a part of data does not say that something is missing. -/
theorem Issue.FoundIn.code_ne {issue : Issue} (h : FoundIn v issue) : issue.code ≠ .required :=
  fun heq => h.own (by simp [heq])

/-- A property is missing only if it is needed, whatever becomes of undeclared keys. -/
theorem onlyNeeded_closeRecord {properties : FieldMap} {labelOf : String → String}
    {checks : List (String × Check)} {required : List String} {unknown : UnknownKeys}
    {data : List (String × Value)} {found : Gathered (List (String × Value))}
    (hchecks : compileFields labelOf properties = .ok checks)
    (hgoverns : ∀ name p, (name, p) ∈ properties → fields.Governs (path ++ [.key name]) p)
    (hasked : ∀ name ∈ required, fields.AsksFor path name)
    (hrun : ∀ name p, (name, p) ∈ properties → ∀ {label : String} {check : Check} {v : Value}
      {o : Outcome}, p.compile label = .ok check →
        check.run options (path ++ [.key name]) v = .ok o → OnlyNeeded fields o.issues)
    (h : resolveProperties options path required data checks = .ok found) :
    OnlyNeeded fields (closeRecord options unknown path (checks.map (·.1)) data found).issues := by
  intro issue hm hcode
  rcases mem_closeRecord hm with hm | rfl
  · obtain ⟨name, check, own, hmem, hown, hm⟩ := exists_property_of_mem checks h hm
    obtain ⟨p, hp, hc⟩ := exists_of_mem_checks hchecks hmem
    rcases missing_or_run_of_mem hown hm with ⟨-, hneeded, rfl⟩ | ⟨v, o, -, ho, hm⟩
    · refine ⟨path, name, p, rfl, hgoverns name p hp, (Bool.or_eq_true_iff.mp hneeded).imp ?_ ?_⟩
      · intro hrequired
        rw [subject_of_compile hc] at hrequired
        exact hrequired
      · exact fun hlisted => hasked name (List.contains_iff_mem.mp hlisted)
    · exact hrun name p hp hc ho issue hm hcode
  · cases hcode

variable {d : Definition}

/-- A check of a value without parts does not say that anything is missing. -/
theorem onlyNeeded_run_whole (hw : d.IsWhole) (hc : d.compile label = .ok check)
    (h : check.run options path v = .ok o) : OnlyNeeded fields o.issues := by
  obtain ⟨rule, -, rfl⟩ := Definition.exists_of_compile_whole hw hc
  rw [Check.run_leaf] at h
  obtain ⟨found, hfound, rfl⟩ := exists_of_map_eq_ok h
  exact Site.foundIn_withMembers _
    (fun issue hm hcode => absurd hcode (LeafRule.foundIn_run hfound issue hm).code_ne)
    fun issue hissue _ hcode => absurd hcode hissue.code_ne

/-- The check of a list adds nothing to what the checks of its items say to be missing. -/
theorem onlyNeeded_run_items {item : Definition} (hk : d.kind = .array) (hi : d.items = .of item)
    (hitem : ∀ {label : String} {check : Check} {path : DataPath} {v : Value} {o : Outcome},
      fields.Governs path item → item.compile label = .ok check →
        check.run options path v = .ok o → OnlyNeeded fields o.issues)
    (hd : fields.Governs path d) (hc : d.compile label = .ok check)
    (h : check.run options path v = .ok o) : OnlyNeeded fields o.issues := by
  obtain ⟨part, hpart, rfl⟩ := Definition.exists_of_compile_items hk hi hc
  rcases v.list_or_ne with ⟨items, rfl⟩ | hne
  · rw [Check.run_listOf_list] at h
    obtain ⟨closed, hclosed, rfl⟩ := exists_of_map_eq_ok h
    obtain ⟨found, hfound, rfl⟩ := exists_of_map_eq_ok hclosed
    refine Site.foundIn_withMembers _ (List.forall_mem_append.mpr
      ⟨List.forall_mem_append.mpr ⟨fun issue hm => ?_, fun issue hm => ?_⟩, fun issue hm => ?_⟩)
      fun issue hissue _ hcode => absurd hcode hissue.code_ne
    · exact fun hcode => absurd hcode (ListRule.foundIn_sizeIssues _ items issue hm).code_ne
    · obtain ⟨i, w, o, -, hrun, hm⟩ := exists_of_mem_gatherItems items hfound hm
      rw [Nat.zero_add] at hrun
      exact hitem (hd.trans (.items hk hi i (.here item))) hpart hrun issue hm
    · split at hm
      · exact fun hcode => absurd hcode (ListRule.foundIn_repetitionIssues _ items issue hm).code_ne
      · cases hm
  · rw [Check.run_listOf_of_ne _ _ _ _ _ hne] at h
    cases h
    exact List.forall_mem_singleton.mpr fun hcode => absurd hcode (foundIn_typeIssue _ v _).code_ne

/-- The check of a record says that a property is missing if its definition requires it, or the record
lists it. -/
theorem onlyNeeded_run_properties {properties : FieldMap} (hk : d.kind = .object)
    (hp : d.properties = .of properties)
    (hproperty : ∀ name p, (name, p) ∈ properties →
      ∀ {label : String} {check : Check} {path : DataPath} {v : Value} {o : Outcome},
        fields.Governs path p → p.compile label = .ok check →
          check.run options path v = .ok o → OnlyNeeded fields o.issues)
    (hd : fields.Governs path d) (hc : d.compile label = .ok check)
    (h : check.run options path v = .ok o) : OnlyNeeded fields o.issues := by
  obtain ⟨checks, hchecks, rfl⟩ := Definition.exists_of_compile_record hk hp hc
  have hgoverns (name : String) (p : Definition) (hm : (name, p) ∈ properties) :
      fields.Governs (path ++ [.key name]) p := hd.trans (.property hk hp hm (.here p))
  rcases v.record_or_ne with ⟨entries, rfl⟩ | hne
  · rw [Check.run_recordOf_record] at h
    obtain ⟨closed, hclosed, rfl⟩ := exists_of_map_eq_ok h
    obtain ⟨shut, hshut, rfl⟩ := exists_of_map_eq_ok hclosed
    obtain ⟨found, hfound, rfl⟩ := exists_of_map_eq_ok hshut
    refine Site.foundIn_withMembers _ (onlyNeeded_closeRecord hchecks hgoverns ?_ ?_ hfound)
      fun issue hissue _ hcode => absurd hcode hissue.code_ne
    · intro name hlisted
      cases hnames : d.attributes.requiredProperties.value? with
      | none =>
        rw [hnames] at hlisted
        cases hlisted
      | some names =>
        rw [hnames] at hlisted
        exact ⟨d, names, hd, hnames, hlisted⟩
    · exact fun name p hm _ _ _ _ hpart hrun => hproperty name p hm (hgoverns name p hm) hpart hrun
  · rw [Check.run_recordOf_of_ne _ _ _ _ _ hne] at h
    cases h
    exact List.forall_mem_singleton.mpr fun hcode => absurd hcode (foundIn_typeIssue _ v _).code_ne

/-- What a check says to be missing is needed. -/
theorem onlyNeeded_run (d : Definition) (hd : fields.Governs path d)
    (hc : d.compile label = .ok check) (h : check.run options path v = .ok o) :
    OnlyNeeded fields o.issues := by
  induction d using Definition.nested_induction generalizing label check path v o with
  | step d hitems hproperties =>
    rcases d.shape with ⟨hk, item, hi⟩ | ⟨hk, properties, hp⟩ | hw
    · exact onlyNeeded_run_items hk hi (hitems item hi) hd hc h
    · exact onlyNeeded_run_properties hk hp (fun name p hm => hproperties properties hp name p hm) hd
        hc h
    · exact onlyNeeded_run_whole hw hc h

/-- What a validator says to be missing is needed. -/
theorem Validator.onlyNeeded {validator : Validator}
    (hc : Validator.compile options label fields = .ok validator) {data : Value} {issues : List Issue}
    (h : validator.validate data = .ok (.rejected issues)) : OnlyNeeded fields issues := by
  obtain ⟨checks, hchecks, rfl⟩ := exists_of_compile hc
  have hrecord (entries : List (String × Value))
      (h : validateRecord ⟨label, options, checks⟩ entries = .ok (.rejected issues)) :
      OnlyNeeded fields issues := by
    rw [validateRecord_eq] at h
    obtain ⟨closed, hclosed, hverdict⟩ := exists_of_map_eq_ok h
    obtain ⟨found, hfound, rfl⟩ := exists_of_map_eq_ok hclosed
    have hissues : OnlyNeeded fields
        (closeRecord options options.unknown [] (checks.map (·.1)) entries found).issues :=
      onlyNeeded_closeRecord hchecks
        (fun name p hm => ⟨name, p, [], hm, rfl, .here p⟩) (fun _ hm => by cases hm)
        (fun name p hm _ _ _ _ hpart hrun =>
          onlyNeeded_run p ⟨name, p, [], hm, rfl, .here p⟩ hpart hrun) hfound
    unfold Gathered.verdict at hverdict
    split at hverdict
    · cases hverdict
    · cases hverdict
      exact hissues
  unfold validate at h
  split at h
  · exact hrecord [] h
  · exact hrecord _ h
  · cases h
    exact List.forall_mem_singleton.mpr fun hcode => by cases hcode

end Missing

/-- The values that fields declare for absent ones are made use of: they stand in the output, and
nothing says that they are missing. -/
structure FieldMap.MakesUpAbsent (fields : FieldMap) (validator : Validator) : Prop where
  /-- Where a record of accepted data has nothing but null, the output has the declared value. -/
  made : ∀ (data : Value) (entries output : List (String × Value)) (path : DataPath) (name : String)
    (e : Definition) (u : Value), data.entries? = some entries →
    validator.validate data = .ok (.accepted output) → fields.Governs (path ++ [.key name]) e →
    e.attributes.fallback = some u → (Value.record entries).Lacks path name →
    (Value.record output).at? (path ++ [.key name]) = some u
  /-- A value that has one declared for it is told to be missing only if the record that it belongs to
  asks for it. -/
  missed : ∀ (data : Value) (issues : List Issue) (issue : Issue) (e : Definition),
    validator.validate data = .ok (.rejected issues) → issue ∈ issues → issue.code = .required →
    fields.Governs issue.path e → e.attributes.fallback.isSome = true →
    ∃ before name, issue.path = before ++ [.key name] ∧ fields.AsksFor before name

theorem FieldMap.makesUpAbsent {fields : FieldMap} (hmade : ∀ field ∈ fields, field.2.IsMade)
    (hnames : fields.UniqueNames) {options : Options} {label : String} {validator : Validator}
    (hc : Validator.compile options label fields = .ok validator) : fields.MakesUpAbsent validator where
  made data entries output path name e u hdata haccepted hgoverns hu hlacks := by
    have hrecord : validator.validateRecord entries = .ok (.accepted output) := by
      cases data with
      | null | record => cases hdata; exact haccepted
      | _ => cases hdata
    exact Validator.at?_of_lacks hnames hc hrecord hgoverns hu hlacks
  missed data issues issue e hrejected hm hcode hgoverns hfallback := by
    obtain ⟨before, name, p, hpath, hp, hneeded⟩ := Validator.onlyNeeded hc hrejected issue hm hcode
    cases hgoverns.unique hnames hp
    refine ⟨before, name, hpath, hneeded.resolve_left ?_⟩
    obtain ⟨field, d, rest, hfield, -, hat⟩ := hgoverns
    have hrequired := (hmade (field, d) hfield).fallbackOptional e hat.within hfallback
    rw [Definition.isRequired, FieldAttributes.isRequired, hrequired]
    decide

/-- A definition that was made is optional wherever it declares a value for absent ones, and a draft
declares the value of the last step that does; the declared values of fields and of the properties of
records are made use of. -/
theorem fallback_makes_optional :
    (∀ d : Definition, d.IsMade → d.Throughout FieldAttributes.FallbackOptional) ∧
      (∀ (draft taken : Draft) (before after : List DraftStep) (u : Value) (d : Definition),
        (∀ value, .fallback value ∉ after) →
        draft.takeAll (before ++ .fallback u :: after) = .ok taken → taken.build = .read d →
        d.attributes.fallback = some u ∧ d.attributes.required = some false) ∧
      ∀ (fields : FieldMap) (options : Options) (label : String) (validator : Validator),
        (∀ field ∈ fields, field.2.IsMade) → fields.UniqueNames →
        Validator.compile options label fields = .ok validator → fields.MakesUpAbsent validator :=
  ⟨fun _ => Definition.IsMade.fallbackOptional, fun _ _ _ _ _ _ => Draft.declares_of_last,
    fun _ _ _ _ hmade hnames hc => FieldMap.makesUpAbsent hmade hnames hc⟩

/-- A definition of a kind with a value for absent ones. -/
def Definition.orElse (kind : FieldKind) (u : Value) : Definition :=
  ⟨{ FieldAttributes.ofKind kind with required := some false, fallback := some u }, .undeclared,
    .undeclared⟩

/-- A list whose items have a definition. -/
def Definition.listOf (item : Definition) : Definition := ⟨.ofKind .array, .of item, .undeclared⟩

theorem Definition.isMade_listOf {item : Definition}
    (h : item.Throughout FieldAttributes.FallbackOptional) : (listOf item).IsMade :=
  .read (read_plain (throughout_of (fun hsome => by cases hsome) (fun _ hi => by cases hi; exact h)
    nofun))

theorem Definition.throughout_orElse (kind : FieldKind) (u : Value) :
    (orElse kind u).Throughout FieldAttributes.FallbackOptional :=
  throughout_of (fun _ => rfl) nofun nofun

/-- A record with a tag, which is made up where it is absent. -/
def taggedEntry : Definition :=
  ⟨.ofKind .object, .undeclared, .of [("tag", .orElse .string (.text "x"))]⟩

/-- A list of such records. -/
def taggedEntries : FieldMap := [("rows", .listOf taggedEntry)]

theorem Definition.namesUnique_orElse {kind : FieldKind} {u : Value} {path : DataPath}
    {p : Definition} (h : (orElse kind u).At path p) : p.NamesUnique := by
  intro properties hk hp
  cases h with
  | here => cases hp
  | items _ hi => cases hi
  | property _ hp => cases hp

/-- Below a list nothing is declared twice if nothing is below its items. -/
theorem Definition.namesUnique_listOf {item : Definition}
    (h : ∀ path p, item.At path p → p.NamesUnique) {path : DataPath} {p : Definition}
    (hat : (listOf item).At path p) : p.NamesUnique := by
  intro properties hk hp
  cases hat with
  | here => cases hp
  | items _ hi i hat =>
    cases hi
    exact h _ p hat hk hp
  | property _ hp => cases hp

theorem uniqueNames_taggedEntries : taggedEntries.UniqueNames where
  top := List.nodup_singleton _
  nested path e h := by
    obtain ⟨name, d, rest, hm, rfl, hat⟩ := h
    cases List.mem_singleton.mp hm
    refine Definition.namesUnique_listOf (fun path p hp => ?_) hat
    intro properties hk hproperties
    cases hp with
    | here =>
      cases hproperties
      exact List.nodup_singleton _
    | items hk => cases hk
    | property _ hp hm hat =>
      cases hp
      cases List.mem_singleton.mp hm
      exact Definition.namesUnique_orElse hat hk hproperties

/-- A tag that is null is made up in each record of a list. -/
theorem makesUpAbsent_taggedEntries :
    ∃ validator, (∀ field ∈ taggedEntries, field.2.IsMade) ∧ taggedEntries.UniqueNames ∧
      Validator.compile .standard "Input" taggedEntries = .ok validator ∧
      validator.validate (.record [("rows", .list [.record [], .record [("tag", .null)]])]) =
        .ok (.accepted
          [("rows", .list [.record [("tag", .text "x")], .record [("tag", .text "x")]])]) ∧
      taggedEntries.MakesUpAbsent validator := by
  have hentry : taggedEntry.Throughout FieldAttributes.FallbackOptional :=
    Definition.throughout_of nofun nofun fun fields hp name p hm => by
      cases hp
      cases List.mem_singleton.mp hm
      exact Definition.throughout_orElse _ _
  have hmade (field : String × Definition) (hm : field ∈ taggedEntries) : field.2.IsMade := by
    cases List.mem_singleton.mp hm
    exact Definition.isMade_listOf hentry
  have hrow : taggedEntry.compile "rows[]" = .ok _ :=
    Definition.compile_of_declared rfl rfl rfl fun _ hm => by cases hm
  have hfields : compileFields id taggedEntries = .ok _ :=
    Definition.compileFields_cons_of_ok (Definition.compile_of_item rfl rfl hrow) rfl
  have hc : Validator.compile .standard "Input" taggedEntries = .ok ⟨"Input", .standard, _⟩ :=
    congrArg (Except.map _) hfields
  exact ⟨_, hmade, uniqueNames_taggedEntries, hc, rfl,
    fallback_makes_optional.2.2 _ _ _ _ hmade uniqueNames_taggedEntries hc⟩

/-- Null in a list stays null, although its definition declares a value for absent ones. -/
theorem not_made_up_in_list :
    ¬ ∀ (fields : FieldMap) (options : Options) (label : String) (validator : Validator)
      (entries output : List (String × Value)) (path : DataPath) (e : Definition) (u : Value),
      (∀ field ∈ fields, field.2.IsMade) → fields.UniqueNames →
      Validator.compile options label fields = .ok validator →
      validator.validate (.record entries) = .ok (.accepted output) → fields.Governs path e →
      e.attributes.fallback = some u → (Value.record entries).at? path = some .null →
      (Value.record output).at? path = some u := by
  intro h
  have hmade (field : String × Definition)
      (hm : field ∈ [("xs", Definition.listOf (.orElse .json (.int 5)))]) : field.2.IsMade := by
    cases List.mem_singleton.mp hm
    exact Definition.isMade_listOf (Definition.throughout_orElse _ _)
  have hnames : FieldMap.UniqueNames [("xs", .listOf (.orElse .json (.int 5)))] := by
    refine ⟨List.nodup_singleton _, fun path e hgoverns => ?_⟩
    obtain ⟨name, d, rest, hm, rfl, hat⟩ := hgoverns
    cases List.mem_singleton.mp hm
    exact Definition.namesUnique_listOf (fun _ _ => Definition.namesUnique_orElse) hat
  have hc : Validator.compile .standard "Input" [("xs", .listOf (.orElse .json (.int 5)))] =
      .ok ⟨"Input", .standard, _⟩ :=
    congrArg (Except.map _) (Definition.compileFields_cons_of_ok
      (Definition.compile_of_item rfl rfl rfl) rfl)
  have hgoverns : FieldMap.Governs [("xs", .listOf (.orElse .json (.int 5)))]
      [.key "xs", .index (0 : Nat)] (.orElse .json (.int 5)) :=
    ⟨"xs", _, [.index (0 : Nat)], List.mem_cons_self, rfl, .items rfl rfl 0 (.here _)⟩
  have hfive := h _ _ _ _ [("xs", .list [.null])] [("xs", .list [.null])] _ _ (.int 5) hmade hnames
    hc rfl hgoverns rfl rfl
  cases hfive

end Intake
