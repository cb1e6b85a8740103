import Intake.Proofs.Field.Location
import Intake.Proofs.Validation.Order

/-!
# Who tells an issue

An issue carries the secrecy of one definition only. Main statement: this is the definition that
governs the very path of the issue, if the issue shows a value at all. Definitions further out, in
which that one is nested, have no say.
-/

namespace Intake

/-- An issue is told by the definition of its own path, below a path that a definition governs: it
shows nothing, or it is secret as that definition is. -/
def ToldBelow (d : Definition) (base : DataPath) (issue : Issue) : Prop :=
  ∃ rest e, d.At rest e ∧ issue.path = base ++ rest ∧
    (issue.value = .null ∨ issue.secret = e.isSecret ∧ ¬ e.ShowsNothing)

namespace ToldBelow

variable {d : Definition} {base : DataPath} {issue : Issue}

/-- An issue that shows nothing is told where it lies. -/
theorem of_null (hpath : issue.path = base) (hvalue : issue.value = .null) :
    ToldBelow d base issue :=
  ⟨[], d, .here d, hpath.trans (List.append_nil base).symm, .inl hvalue⟩

/-- What is told below an item is told below the list. -/
theorem items {item : Definition} (hk : d.kind = .array) (hi : d.items = .of item) {i : Nat}
    (h : ToldBelow item (base ++ [.index i]) issue) : ToldBelow d base issue := by
  obtain ⟨rest, e, hat, hpath, hshown⟩ := h
  exact ⟨.index i :: rest, e, .items hk hi i hat, hpath.trans (List.append_cons ..).symm, hshown⟩

/-- What is told below a property is told below the record. -/
theorem property {p : Definition} {fields : FieldMap} {name : String} (hk : d.kind = .object)
    (hp : d.properties = .of fields) (hm : (name, p) ∈ fields)
    (h : ToldBelow p (base ++ [.key name]) issue) : ToldBelow d base issue := by
  obtain ⟨rest, e, hat, hpath, hshown⟩ := h
  exact ⟨.key name :: rest, e, .property hk hp hm hat, hpath.trans (List.append_cons ..).symm, hshown⟩

/-- What tells of a finding at a field is told by its definition, if it shows anything. -/
theorem of_tell {label : String} {options : Options} (finding : Finding)
    (hshows : ¬ d.ShowsNothing) :
    ToldBelow d base (Site.tell ⟨Compile.subject label d.attributes, options, base⟩ finding) :=
  ⟨[], d, .here d, (List.append_nil base).symm, .inr ⟨rfl, hshows⟩⟩

end ToldBelow

variable {d : Definition} {label : String} {check : Check} {options : Options} {path : DataPath}
  {v : Value} {o : Outcome}

theorem not_showsNothing_of_kind (h : d.kind ≠ .file) : ¬ d.ShowsNothing := fun hd => h hd.kind

namespace Definition

/-- What a definition of files restricts. -/
def fileRule (d : Definition) : FileRule :=
  ⟨d.attributes.allowedMimeTypes.value?.filter (!·.isEmpty), d.attributes.maxFileSize.value?⟩

/-- The check of a definition of files is made of what it restricts. -/
theorem eq_of_compile_file (hk : d.kind = .file) (hc : d.compile label = .ok check) :
    check = .leaf (Compile.subject label d.attributes) (.file d.fileRule) := by
  have hw : d.IsWhole := ⟨fun h => by simp [hk] at h, fun h => by simp [hk] at h⟩
  obtain ⟨rule, hrule, rfl⟩ := exists_of_compile_whole hw hc
  have hkind : d.attributes.kind = .file := hk
  rw [Compile.leafRule, hkind] at hrule
  cases hrule
  rfl

end Definition

/-- A file that is not restricted is refused without a value. -/
theorem toldBelow_of_showsNothing (hd : d.ShowsNothing) (hc : d.compile label = .ok check)
    (h : check.run options path v = .ok o) : ∀ issue ∈ o.issues, ToldBelow d path issue := by
  obtain rfl := Definition.eq_of_compile_file hd.kind hc
  have hkind : d.attributes.kind = .file := hd.kind
  have hmembers : (Compile.subject label d.attributes).members = none := by
    simp [Compile.subject, hkind, hd.values]
  have hrule : d.fileRule = ⟨none, none⟩ := by
    unfold Definition.fileRule
    rw [hd.size, hd.types]
  rw [hrule] at h
  unfold Check.run at h
  simp only [LeafRule.run] at h
  split at h
  · cases h
    rw [Site.withMembers_of_none hmembers]
    intro issue hm
    cases hm
  · cases h
    rw [Site.withMembers_of_none hmembers]
    exact List.forall_mem_singleton.mpr (.of_null rfl rfl)

/-- Every issue of a value without parts is told by its definition. -/
theorem toldBelow_run_whole (hw : d.IsWhole) (hc : d.compile label = .ok check)
    (h : check.run options path v = .ok o) : ∀ issue ∈ o.issues, ToldBelow d path issue := by
  by_cases hd : d.ShowsNothing
  · exact toldBelow_of_showsNothing hd hc h
  · obtain ⟨rule, -, rfl⟩ := Definition.exists_of_compile_whole hw hc
    exact forall_run_leaf (fun finding => .of_tell finding hd) h

/-- Every issue of a list is told by the definition of the list or below that of its items. -/
theorem toldBelow_run_items {item : Definition} (hk : d.kind = .array) (hi : d.items = .of item)
    (hitem : ∀ {label : String} {check : Check} {path : DataPath} {v : Value} {o : Outcome},
      item.compile label = .ok check → check.run options path v = .ok o →
        ∀ issue ∈ o.issues, ToldBelow item path issue)
    (hc : d.compile label = .ok check) (h : check.run options path v = .ok o) :
    ∀ issue ∈ o.issues, ToldBelow d path issue := by
  obtain ⟨part, hpart, rfl⟩ := Definition.exists_of_compile_items hk hi hc
  exact forall_run_listOf
    (fun finding => .of_tell finding (not_showsNothing_of_kind (by simp [hk])))
    (fun i v o ho issue hm => .items hk hi (hitem hpart ho issue hm)) h

/-- Every issue of a record is told by the definition of the record or below those of its
properties. -/
theorem toldBelow_run_properties {fields : FieldMap} (hk : d.kind = .object)
    (hp : d.properties = .of fields)
    (hproperty : ∀ {name : String} {p : Definition}, (name, p) ∈ fields →
      ∀ {label : String} {check : Check} {path : DataPath} {v : Value} {o : Outcome},
        p.compile label = .ok check → check.run options path v = .ok o →
          ∀ issue ∈ o.issues, ToldBelow p path issue)
    (hc : d.compile label = .ok check) (h : check.run options path v = .ok o) :
    ∀ issue ∈ o.issues, ToldBelow d path issue := by
  obtain ⟨rule, checks, hchecks, rfl⟩ := Definition.exists_of_compile_properties hk hp hc
  refine forall_run_recordOf
    (fun finding => .of_tell finding (not_showsNothing_of_kind (by simp [hk])))
    (fun keys => .of_null rfl rfl) (fun name part hm v o ho issue hissue => ?_)
    (fun name part hm => ?_) h
  · obtain ⟨p, hmem, hpart⟩ := exists_of_mem_checks hchecks hm
    exact .property hk hp hmem (hproperty hmem hpart ho issue hissue)
  · obtain ⟨p, hmem, -⟩ := exists_of_mem_checks hchecks hm
    exact .property hk hp hmem (.of_null rfl rfl)

/-- Every issue of the check of a definition is told by the definition of its own path. -/
theorem toldBelow_run (d : Definition) {label : String} {check : Check} {path : DataPath}
    {v : Value} {o : Outcome} (hc : d.compile label = .ok check)
    (h : check.run options path v = .ok o) : ∀ issue ∈ o.issues, ToldBelow d path issue := by
  induction d using Definition.nested_induction generalizing label check path v o with
  | step d hitems hproperties =>
    rcases d.shape with ⟨hk, item, hi⟩ | ⟨hk, fields, hp⟩ | hw
    · exact toldBelow_run_items hk hi (hitems item hi) hc h
    · exact toldBelow_run_properties hk hp (fun hm => hproperties fields hp _ _ hm) hc h
    · exact toldBelow_run_whole hw hc h

/-- An issue on data is told by the definition of its own path among some fields: it lies above all
fields, it shows nothing, or it is secret as that definition is. -/
def ToldAmong (fields : FieldMap) (issue : Issue) : Prop :=
  issue.path = [] ∨ issue.value = .null ∨
    ∃ e, fields.Governs issue.path e ∧ issue.secret = e.isSecret ∧ ¬ e.ShowsNothing

/-- What is told below a field is told among the fields. -/
theorem ToldBelow.among {fields : FieldMap} {name : String} {issue : Issue}
    (hm : (name, d) ∈ fields) (h : ToldBelow d [.key name] issue) : ToldAmong fields issue := by
  obtain ⟨rest, e, hat, hpath, hnull | hsecret⟩ := h
  · exact .inr (.inl hnull)
  · exact .inr (.inr ⟨e, ⟨name, d, rest, hm, hpath, hat⟩, hsecret⟩)

/-- Every issue of a validator is told by the definition of its own path among the fields. -/
theorem toldAmong_validate {fields : FieldMap} {options : Options} {name : String}
    {validator : Validator} (hc : Validator.compile options name fields = .ok validator)
    {data : Value} {issues : List Issue} (h : validator.validate data = .ok (.rejected issues)) :
    ∀ issue ∈ issues, ToldAmong fields issue := by
  obtain ⟨checks, hchecks, rfl⟩ := Validator.exists_of_compile hc
  have hrecord (entries : List (String × Value)) (issues : List Issue)
      (h : Validator.validateRecord ⟨name, options, checks⟩ entries = .ok (.rejected issues)) :
      ∀ issue ∈ issues, ToldAmong fields issue := by
    unfold Validator.validateRecord at h
    dsimp only at h
    split at h
    · cases h
    · rename_i found hfound
      split at h
      · cases h
      · cases h
        refine forall_closeRecord ?_ fun keys => .inl rfl
        refine forall_resolveProperties checks (fun key part hm v o ho issue hissue => ?_)
          (fun key part hm => .inr (.inl rfl)) hfound
        obtain ⟨d, hmem, hpart⟩ := exists_of_mem_checks hchecks hm
        exact (toldBelow_run d hpart ho issue hissue).among hmem
  unfold Validator.validate at h
  split at h
  · exact hrecord _ _ h
  · exact hrecord _ _ h
  · cases h
    exact List.forall_mem_singleton.mpr (.inl rfl)

end Intake
