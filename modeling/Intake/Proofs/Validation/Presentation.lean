import Intake.Proofs.Validation.Conformance
import Intake.Proofs.Validation.Order
import Intake.Proofs.Validation.Parts

/-!
# Options of presentation

Transforms and messages only concern what is shown. Main statement: two validations whose options
differ in nothing else tell of the same issues, their words apart, or both accept, with outputs that
differ only in texts for whose fields a transform is declared; such a text is the one of the data in
both outputs, transformed where transforms are applied.
-/

namespace Intake

/-- An issue without its words. -/
def Issue.unworded (issue : Issue) : Issue := { issue with message := "" }

/-- The transform that counts for values of a definition: only texts and URLs are transformed. -/
def FieldAttributes.transformInForce (a : FieldAttributes) : Option Transform :=
  match a.kind with
  | .string => a.transform.value?
  | .url => a.transform.value?
  | _ => none

mutual

/-- Two outputs of a value, one where transforms are applied as the first switch says and one where
they are applied as the second one says. -/
inductive Presents (applied applied' : Bool) : Definition → Value → Value → Value → Prop
  /-- Without a transform there is one output. -/
  | plain {d : Definition} {v output : Value} (hw : d.IsWhole)
      (ht : d.attributes.transformInForce = none) : Presents applied applied' d v output output
  /-- With a transform the outputs are the text, transformed or as it is. -/
  | shaped {d : Definition} {t : Transform} (s : String) (hw : d.IsWhole)
      (ht : d.attributes.transformInForce = some t) :
      Presents applied applied' d (.text s) (.text (if applied then t.applyTo s else s))
        (.text (if applied' then t.applyTo s else s))
  /-- The outputs of a list are those of its items. -/
  | list {d item : Definition} {items outputs outputs' : List Value} (hk : d.kind = .array)
      (hi : d.items = .of item) (h : PresentsItems applied applied' item items outputs outputs') :
      Presents applied applied' d (.list items) (.list outputs) (.list outputs')
  /-- The outputs of a record are those of its properties, with the same other entries. -/
  | record {d : Definition} {fields : FieldMap} {data kept outputs outputs' : List (String × Value)}
      (hk : d.kind = .object) (hp : d.properties = .of fields)
      (h : PresentsFields applied applied' data fields outputs outputs') :
      Presents applied applied' d (.record data) (.record (outputs ++ kept))
        (.record (outputs' ++ kept))

/-- Two outputs of the items of a list. -/
inductive PresentsItems (applied applied' : Bool) :
    Definition → List Value → List Value → List Value → Prop
  /-- There are no items. -/
  | nil (item : Definition) : PresentsItems applied applied' item [] [] []
  /-- An item has its outputs, and so have those after it. -/
  | cons {item : Definition} {v output output' : Value} {items outputs outputs' : List Value}
      (h : Presents applied applied' item v output output')
      (hrest : PresentsItems applied applied' item items outputs outputs') :
      PresentsItems applied applied' item (v :: items) (output :: outputs) (output' :: outputs')

/-- Two outputs of a record of data by fields. -/
inductive PresentsFields (applied applied' : Bool) : List (String × Value) → FieldMap →
    List (String × Value) → List (String × Value) → Prop
  /-- There are no fields. -/
  | nil (data : List (String × Value)) : PresentsFields applied applied' data [] [] []
  /-- A field that is not there has the same value for absent ones in both, if any. -/
  | absent {data outputs outputs' : List (String × Value)} {name : String} {d : Definition}
      {fields : FieldMap} (habsent : present? name data = none)
      (hrest : PresentsFields applied applied' data fields outputs outputs') :
      PresentsFields applied applied' data ((name, d) :: fields)
        ((d.attributes.fallback.toList.map fun value => (name, value)) ++ outputs)
        ((d.attributes.fallback.toList.map fun value => (name, value)) ++ outputs')
  /-- A field that is there has its outputs. -/
  | present {data outputs outputs' : List (String × Value)} {name : String} {d : Definition}
      {fields : FieldMap} {v output output' : Value} (hpresent : present? name data = some v)
      (h : Presents applied applied' d v output output')
      (hrest : PresentsFields applied applied' data fields outputs outputs') :
      PresentsFields applied applied' data ((name, d) :: fields) ((name, output) :: outputs)
        ((name, output') :: outputs')

end

/-- Two runs judge in the same way: their issues are the same, words apart, and if there are none
their outputs are in a relation. -/
structure SameJudgement {α : Type} (r : α → α → Prop) (issues issues' : List Issue)
    (output output' : α) : Prop where
  /-- The issues are the same, words apart. -/
  unworded : issues.map Issue.unworded = issues'.map Issue.unworded
  /-- The outputs are in the relation. -/
  related : issues = [] → r output output'

/-- Two outcomes judge in the same way. -/
abbrev Outcome.SameAs (r : Value → Value → Prop) (o o' : Outcome) : Prop :=
  SameJudgement r o.issues o'.issues o.output o'.output

/-- What was made of parts in two runs judges in the same way. -/
abbrev Gathered.SameAs {α : Type} (r : α → α → Prop) (found found' : Gathered α) : Prop :=
  SameJudgement r found.issues found'.issues found.output found'.output

/-- Two groups of options differ in presentation only. -/
structure Options.SameCourse (o o' : Options) : Prop where
  /-- Both stop at the first issue, or neither does. -/
  abortEarly : o.abortEarly = o'.abortEarly
  /-- Both drop undeclared keys, or neither does. -/
  stripUnknown : o.stripUnknown = o'.stripUnknown

theorem isEmpty_eq_of_unworded {issues issues' : List Issue}
    (h : issues.map Issue.unworded = issues'.map Issue.unworded) :
    issues.isEmpty = issues'.isEmpty := by
  have hlength := congrArg List.length h
  simp only [List.length_map] at hlength
  cases issues <;> cases issues' <;> simp at hlength ⊢

theorem unworded_append {issues issues' others others' : List Issue}
    (h : issues.map Issue.unworded = issues'.map Issue.unworded)
    (ho : others.map Issue.unworded = others'.map Issue.unworded) :
    (issues ++ others).map Issue.unworded = (issues' ++ others').map Issue.unworded := by
  rw [List.map_append, List.map_append, h, ho]

/-- What is told of a finding is the same under all options, words apart. -/
theorem Told.unworded_eq {subject : Subject} {issues : Options → DataPath → List Issue}
    (h : Told subject issues) (o o' : Options) (path : DataPath) :
    (issues o path).map Issue.unworded = (issues o' path).map Issue.unworded := by
  obtain ⟨findings, hfindings⟩ := h
  rw [hfindings, hfindings, List.map_map, List.map_map]
  rfl

variable {r : Value → Value → Prop} {o o' : Options} {path : DataPath} {subject : Subject}
  {v : Value}

/-- A value that is refused is refused under all options. -/
theorem sameAs_reject {issue : Options → DataPath → Issue}
    (h : Told subject fun options path => [issue options path]) :
    (Outcome.reject v (issue o path)).SameAs r (.reject v (issue o' path)) :=
  ⟨h.unworded_eq o o' path, nofun⟩

/-- Enumerated members are looked at in the value, whatever its output is. -/
theorem sameAs_withMembers {first first' : Outcome} (h : first.SameAs r first') :
    (Site.withMembers ⟨subject, o, path⟩ v first).SameAs r
      (Site.withMembers ⟨subject, o', path⟩ v first') := by
  unfold Site.withMembers
  have haccepted : first'.isAccepted = first.isAccepted := (isEmpty_eq_of_unworded h.unworded).symm
  dsimp only
  cases subject.members with
  | none => exact h
  | some values =>
    dsimp only
    rw [haccepted]
    split
    · exact ⟨(Told.choiceIssue v values).unworded_eq o o' path, nofun⟩
    · exact h

section

variable {applied applied' : Bool} {item : Definition}
  {check other : DataPath → Value → Except Failure Outcome}

/-- The items of a list are judged in the same way if each of them is. -/
theorem agree_gatherItems
    (h : ∀ path v, Agree (Outcome.SameAs (Presents applied applied' item v)) (check path v)
      (other path v))
    (stop pending : Bool) (path : DataPath) (i : Nat) (items : List Value) :
    Agree (Gathered.SameAs fun outputs outputs' =>
        pending = false → PresentsItems applied applied' item items outputs outputs')
      (gatherItems stop pending check path i items)
      (gatherItems stop pending other path i items) := by
  induction items generalizing i with
  | nil => exact .ok ⟨rfl, fun _ _ => .nil item⟩
  | cons v rest ih =>
    rw [gatherItems_cons, gatherItems_cons]
    refine (h (path ++ [.index i]) v).bind fun first first' hfirst => ?_
    have haccepted : first'.isAccepted = first.isAccepted :=
      (isEmpty_eq_of_unworded hfirst.unworded).symm
    rw [haccepted]
    split
    · -- The list stops, so there are issues of this item, or others are pending.
      rename_i hstop
      refine .ok ⟨hfirst.unworded, fun hnil hpending => ?_⟩
      simp [Outcome.isAccepted, show first.issues = [] from hnil, hpending] at hstop
    · refine (ih (i + 1)).map fun others others' hothers => ⟨?_, fun hnil hpending => ?_⟩
      · exact unworded_append hfirst.unworded hothers.unworded
      · obtain ⟨hfirstNil, hothersNil⟩ := List.append_eq_nil_iff.mp hnil
        exact .cons (hfirst.related hfirstNil) (hothers.related hothersNil hpending)

/-- A list is judged in the same way if its items are: its size and its repeated items are those of
the data. -/
theorem sameAs_closeList {rule : ListRule} {items : List Value}
    {found found' : Gathered (List Value)}
    (h : found.SameAs (fun outputs outputs' =>
      (!(rule.sizeIssues ⟨subject, o, path⟩ items.length).isEmpty) = false →
        PresentsItems applied applied' item items outputs outputs') found')
    {d : Definition} (hk : d.kind = .array) (hi : d.items = .of item) :
    (rule.close ⟨subject, o, path⟩ items found).SameAs
      (Presents applied applied' d (.list items)) (rule.close ⟨subject, o', path⟩ items found') := by
  have hsizes := (rule.told_sizeIssues subject items.length).unworded_eq o o' path
  have hrepeated := (rule.told_repetitionIssues subject items).unworded_eq o o' path
  have hboth := unworded_append hsizes h.unworded
  unfold ListRule.close
  refine ⟨unworded_append hboth ?_, fun hnil => ?_⟩
  · rw [isEmpty_eq_of_unworded hboth]
    split
    · exact hrepeated
    · rfl
  · obtain ⟨hnil, -⟩ := List.append_eq_nil_iff.mp hnil
    obtain ⟨hsize, hitems⟩ := List.append_eq_nil_iff.mp hnil
    exact .list hk hi (h.related hitems (by rw [hsize]; rfl))

end

/-- The keys of a record that are not declared are judged in the same way. -/
theorem sameAs_closeRecord {s : List (String × Value) → List (String × Value) → Prop}
    (ho : o.SameCourse o') (unknown : UnknownKeys) (path : DataPath) (declared : List String)
    (data : List (String × Value)) {found found' : Gathered (List (String × Value))}
    (h : found.SameAs s found') :
    (closeRecord o unknown path declared data found).SameAs
      (fun outputs outputs' => ∃ own own' : List (String × Value), s own own' ∧
        outputs = own ++ (if unknown = .keep then undeclaredKeys declared data else []) ∧
        outputs' = own' ++ (if unknown = .keep then undeclaredKeys declared data else []))
      (closeRecord o' unknown path declared data found') := by
  have hrefused : (refusedKeys o unknown path declared data).map Issue.unworded =
      (refusedKeys o' unknown path declared data).map Issue.unworded := by
    unfold refusedKeys
    split <;> rfl
  have hall := unworded_append h.unworded hrefused
  rw [closeRecord_eq_limit, closeRecord_eq_limit]
  unfold limitIssues
  rw [← ho.abortEarly]
  refine ⟨?_, fun hnil => ⟨_, _, h.related ?_, rfl, rfl⟩⟩
  · dsimp only
    split
    · rw [List.map_take, List.map_take, hall]
    · exact hall
  · dsimp only at hnil
    split at hnil
    · have htake := List.take_eq_nil_iff.mp hnil
      exact (List.append_eq_nil_iff.mp (htake.resolve_left (by decide))).1
    · exact (List.append_eq_nil_iff.mp hnil).1

/-- A rule that is made of a field declares the transform that counts for it. -/
theorem declared_of_leafRule {label : String} {a : FieldAttributes} {rule : LeafRule}
    (h : Compile.leafRule label a = .ok rule) : rule.declared = a.transformInForce := by
  unfold Compile.leafRule at h
  unfold FieldAttributes.transformInForce
  cases hk : a.kind with
  | enumeration =>
    simp only [hk] at h
    split at h
    · cases h
      rfl
    · cases h
  | number | boolean | array | object | time | file =>
    simp only [hk] at h
    cases h
    rfl
  | string | url | apiKey | secret | date | dateTime | json =>
    simp only [hk] at h
    obtain ⟨part, -, h⟩ := exists_of_bind_eq_ok h
    cases h
    rfl

/-- A value without parts is judged in the same way. -/
theorem agree_run_whole {d : Definition} (hw : d.IsWhole) {label : String} {check : Check}
    (hc : d.compile label = .ok check) (path : DataPath) (v : Value) :
    Agree (Outcome.SameAs (Presents o.transform o'.transform d v)) (check.run o path v)
      (check.run o' path v) := by
  obtain ⟨rule, hrule, rfl⟩ := Definition.exists_of_compile_whole hw hc
  have hdeclared := declared_of_leafRule hrule
  obtain ⟨judged, hjudged⟩ :=
    rule.exists_judgement (Compile.subject label d.attributes) v
  rw [Check.run_leaf, Check.run_leaf, hjudged, hjudged]
  cases judged with
  | error failure => exact .error failure
  | ok judgement =>
    refine .ok (sameAs_withMembers ⟨?_, fun hnil => ?_⟩)
    · exact Told.unworded_eq ⟨judgement.findings, fun _ _ => rfl⟩ o o' path
    · have hfindings : judgement.findings = [] := List.map_eq_nil_iff.mp hnil
      change Presents o.transform o'.transform d v (judgement.output o.transform)
        (judgement.output o'.transform)
      rcases rule.declared.eq_none_or_eq_some with ht | ⟨t, ht⟩
      · have hplain := judgement.plain ht
        have hsame : judgement.output o'.transform = judgement.output o.transform := by
          cases o.transform <;> cases o'.transform <;> simp [hplain]
        rw [hsame]
        exact .plain hw (hdeclared.symm.trans ht)
      · obtain ⟨s, rfl, hshaped⟩ := judgement.shaped (by simp [ht]) hfindings
        rw [hshaped, hshaped, ht]
        exact .shaped s hw (hdeclared.symm.trans ht)

/-- A property is judged in the same way, whether it is there or not. -/
theorem agree_resolveProperty {applied applied' : Bool} {d : Definition} {label : String}
    {check : Check} (hc : d.compile label = .ok check)
    (hrun : ∀ path v, Agree (Outcome.SameAs (Presents applied applied' d v)) (check.run o path v)
      (check.run o' path v))
    (path : DataPath) (required : List String) (data : List (String × Value)) (name : String)
    (rest : FieldMap) :
    Agree (Gathered.SameAs fun first first' => ∀ outputs outputs',
        PresentsFields applied applied' data rest outputs outputs' →
          PresentsFields applied applied' data ((name, d) :: rest) (first ++ outputs)
            (first' ++ outputs'))
      (resolveProperty o path required data name check)
      (resolveProperty o' path required data name check) := by
  unfold resolveProperty
  cases hpresent : present? name data with
  | some v =>
    refine (hrun (path ++ [.key name]) v).map fun first first' hfirst => ?_
    refine ⟨hfirst.unworded, fun hnil outputs outputs' hrest => ?_⟩
    have haccepted : first'.isAccepted = first.isAccepted :=
      (isEmpty_eq_of_unworded hfirst.unworded).symm
    have hfirstAccepted : first.isAccepted = true := List.isEmpty_iff.mpr hnil
    rw [Outcome.asProperty, Outcome.asProperty, haccepted, hfirstAccepted]
    exact .present hpresent (hfirst.related hnil) hrest
  | none =>
    have hfallback : check.subject.fallback = d.attributes.fallback := by
      rw [subject_of_compile hc]
      rfl
    refine .ok ?_
    unfold Site.resolveAbsent
    cases check.subject.required || required.contains name with
    | true => exact ⟨Told.missingIssue.unworded_eq o o' _, nofun⟩
    | false =>
      have habsent {outputs outputs' : List (String × Value)}
          (hrest : PresentsFields applied applied' data rest outputs outputs') :
          PresentsFields applied applied' data ((name, d) :: rest)
            ((d.attributes.fallback.toList.map fun value => (name, value)) ++ outputs)
            ((d.attributes.fallback.toList.map fun value => (name, value)) ++ outputs') :=
        .absent hpresent hrest
      simp only [hfallback, Bool.false_eq_true, if_false]
      cases hvalue : d.attributes.fallback with
      | none =>
        rw [hvalue] at habsent
        exact ⟨rfl, fun _ _ _ hrest => habsent hrest⟩
      | some value =>
        rw [hvalue] at habsent
        exact ⟨rfl, fun _ _ _ hrest => habsent hrest⟩

/-- The properties of a record are judged in the same way if each of them is. -/
theorem agree_resolveProperties {applied applied' : Bool} (ho : o.SameCourse o')
    {fields : FieldMap}
    (hfields : ∀ name d, (name, d) ∈ fields → ∀ {label : String} {check : Check},
      d.compile label = .ok check → ∀ path v,
        Agree (Outcome.SameAs (Presents applied applied' d v)) (check.run o path v)
          (check.run o' path v))
    {labelOf : String → String} {checks : List (String × Check)}
    (hc : compileFields labelOf fields = .ok checks) (path : DataPath) (required : List String)
    (data : List (String × Value)) :
    Agree (Gathered.SameAs (PresentsFields applied applied' data fields))
      (resolveProperties o path required data checks)
      (resolveProperties o' path required data checks) := by
  induction fields generalizing checks with
  | nil =>
    cases hc
    exact .ok ⟨rfl, fun _ => .nil data⟩
  | cons field rest ih =>
    obtain ⟨name, d⟩ := field
    rw [compileFields] at hc
    split at hc
    · cases hc
    · rename_i check hcheck
      split at hc
      · cases hc
      · rename_i others hothers
        cases hc
        have hfirst := agree_resolveProperty hcheck
          (hfields name d List.mem_cons_self hcheck) path required data name rest
        have hrest := ih (fun other p hm => hfields other p (List.mem_cons_of_mem _ hm)) hothers
        rw [resolveProperties_cons, resolveProperties_cons, ← ho.abortEarly]
        refine hfirst.bind fun first first' hfirst => ?_
        rw [← isEmpty_eq_of_unworded hfirst.unworded]
        split
        · rename_i hstop
          refine .ok ⟨hfirst.unworded, fun hnil => ?_⟩
          simp [show first.issues = [] from hnil] at hstop
        · refine hrest.map fun more more' hmore => ⟨?_, fun hnil => ?_⟩
          · exact unworded_append hfirst.unworded hmore.unworded
          · obtain ⟨hfirstNil, hmoreNil⟩ := List.append_eq_nil_iff.mp hnil
            exact hfirst.related hfirstNil _ _ (hmore.related hmoreNil)

/-- A value is judged in the same way under options that differ in presentation only. -/
theorem agree_run (ho : o.SameCourse o') (d : Definition) {label : String} {check : Check}
    (hc : d.compile label = .ok check) (path : DataPath) (v : Value) :
    Agree (Outcome.SameAs (Presents o.transform o'.transform d v)) (check.run o path v)
      (check.run o' path v) := by
  induction d using Definition.nested_induction generalizing label check path v with
  | step d hitems hproperties =>
    rcases d.shape with ⟨hk, item, hi⟩ | ⟨hk, fields, hp⟩ | hw
    · obtain ⟨part, hpart, rfl⟩ := Definition.exists_of_compile_items hk hi hc
      by_cases hv : ∃ items, v = .list items
      · obtain ⟨items, rfl⟩ := hv
        have hpending := isEmpty_eq_of_unworded
          (((Compile.listRule d.attributes).told_sizeIssues (Compile.subject label d.attributes)
            items.length).unworded_eq o o' path)
        rw [Check.run_listOf_list, Check.run_listOf_list, ← ho.abortEarly, ← hpending]
        refine Agree.map (Agree.map (agree_gatherItems (hitems item hi hpart) _ _ path 0 items)
          fun found found' hfound => ?_) fun _ _ => sameAs_withMembers
        exact sameAs_closeList hfound hk hi
      · have hne : ∀ items, v ≠ .list items := fun items heq => hv ⟨items, heq⟩
        rw [Check.run_listOf_of_ne _ _ _ _ _ hne, Check.run_listOf_of_ne _ _ _ _ _ hne]
        exact .ok (sameAs_reject (Told.typeIssue v _))
    · obtain ⟨rule, checks, hchecks, rfl⟩ := Definition.exists_of_compile_properties hk hp hc
      by_cases hv : ∃ data, v = .record data
      · obtain ⟨data, rfl⟩ := hv
        rw [Check.run_recordOf_record, Check.run_recordOf_record]
        have hfound := agree_resolveProperties ho (hproperties fields hp) hchecks path rule.required
          data
        have hclosed := hfound.map fun found found' =>
          sameAs_closeRecord ho rule.unknown path (checks.map Prod.fst) data
        refine Agree.map (Agree.map hclosed fun closed closed' h => ?_) fun _ _ =>
          sameAs_withMembers
        refine ⟨h.unworded, fun hnil => ?_⟩
        obtain ⟨own, own', hown, heq, heq'⟩ := h.related hnil
        rw [Gathered.asRecord, Gathered.asRecord, heq, heq']
        exact .record hk hp hown
      · have hne : ∀ data, v ≠ .record data := fun data heq => hv ⟨data, heq⟩
        rw [Check.run_recordOf_of_ne _ _ _ _ _ hne, Check.run_recordOf_of_ne _ _ _ _ _ hne]
        exact .ok (sameAs_reject (Told.typeIssue v _))
    · exact agree_run_whole hw hc path v

/-- Options with other switches of presentation. -/
def Options.presenting (o : Options) (transform : Bool) (messages : List (String × String)) :
    Options := { o with transform := transform, messages := messages }

theorem Options.sameCourse_presenting (o : Options) (transform : Bool)
    (messages : List (String × String)) : o.SameCourse (o.presenting transform messages) := ⟨rfl, rfl⟩

/-- Two verdicts on data say the same: both accept it, with the outputs of its fields, or both refuse
it with the same issues, words apart. -/
inductive Verdict.SameOn (applied applied' : Bool) (fields : FieldMap) (data : Value) :
    Verdict → Verdict → Prop
  /-- Both accept the data. -/
  | accepted {entries outputs outputs' : List (String × Value)} (hd : data.entries? = some entries)
      (h : PresentsFields applied applied' entries fields outputs outputs') :
      SameOn applied applied' fields data (.accepted outputs) (.accepted outputs')
  /-- Both refuse the data. -/
  | rejected {issues issues' : List Issue}
      (h : issues.map Issue.unworded = issues'.map Issue.unworded) :
      SameOn applied applied' fields data (.rejected issues) (.rejected issues')

namespace Validator

/-- A record is judged in the same way under options that differ in presentation only. -/
theorem agree_validateRecord (ho : o.SameCourse o') (name : String) {fields : FieldMap}
    {checks : List (String × Check)} (hc : compileFields id fields = .ok checks) {data : Value}
    {entries : List (String × Value)} (hd : data.entries? = some entries) :
    Agree (Verdict.SameOn o.transform o'.transform fields data)
      (validateRecord ⟨name, o, checks⟩ entries) (validateRecord ⟨name, o', checks⟩ entries) := by
  have hunknown : o'.unknown = o.unknown := by rw [Options.unknown, Options.unknown, ho.stripUnknown]
  have hdropped : o.unknown ≠ .keep := by
    unfold Options.unknown
    split <;> decide
  rw [validateRecord_eq, validateRecord_eq]
  dsimp only
  rw [hunknown]
  have hfound := agree_resolveProperties ho (fun _ d _ => agree_run ho d) hc [] [] entries
  have hclosed := hfound.map fun found found' =>
    sameAs_closeRecord ho o.unknown [] (checks.map Prod.fst) entries
  refine hclosed.map fun closed closed' h => ?_
  unfold Gathered.verdict
  have hsame := isEmpty_eq_of_unworded h.unworded
  obtain ⟨outputs, _ | ⟨first, rest⟩⟩ := closed
  · obtain ⟨outputs', _ | ⟨first', rest'⟩⟩ := closed'
    · obtain ⟨own, own', hown, heq, heq'⟩ := h.related rfl
      rw [if_neg hdropped, List.append_nil] at heq heq'
      subst heq heq'
      exact .accepted hd hown
    · cases hsame
  · obtain ⟨outputs', _ | ⟨first', rest'⟩⟩ := closed'
    · cases hsame
    · exact .rejected h.unworded

/-- Transforms and messages never influence the verdict: fields are made ready in the same way, or
fail in the same way, and then data is judged in the same way, or its check fails in the same way. -/
theorem presenting_sameVerdict (o : Options) (transform : Bool) (messages : List (String × String))
    (name : String) (fields : FieldMap) :
    Agree (fun validator presenting => ∀ data,
        Agree (Verdict.SameOn o.transform transform fields data) (validator.validate data)
          (presenting.validate data))
      (compile o name fields) (compile (o.presenting transform messages) name fields) := by
  refine (agree_compile o (o.presenting transform messages) name fields).imp ?_
  rintro _ _ ⟨checks, hchecks, rfl, rfl⟩ data
  have hrecord {entries : List (String × Value)} (hd : data.entries? = some entries) :=
    agree_validateRecord (o.sameCourse_presenting transform messages) name hchecks hd
  cases data with
  | null => exact hrecord rfl
  | record entries => exact hrecord rfl
  | _ => exact .ok (.rejected rfl)

end Validator

end Intake
