import Intake.Proofs.Results
import Intake.Proofs.Validation.Acceptance
import Intake.Proofs.Validation.Parts

/-!
# What is made of accepted data

The output of a check that finds nothing wrong, by the parts of the data: a list is made of the
outputs of its items, and a record of the outputs of its properties, of the values that stand for
absent ones and of the keys that are kept. Main statements: the equations of an accepted list, of an
accepted record and of accepted data.
-/

namespace Intake

variable {options : Options} {path : DataPath} {subject : Subject} {v w : Value}

section

variable {stop : Bool} {check : DataPath → Value → Except Failure Outcome} {rule : ListRule}
  {item : Check}

/-- A list is made without issues if its first item is accepted and the rest is made without
issues. -/
theorem gatherItems_cons_eq_iff {i : Nat} {v : Value} {rest outputs : List Value} :
    gatherItems stop false check path i (v :: rest) = .ok ⟨outputs, []⟩ ↔
      ∃ w others, check (path ++ [.index i]) v = .ok (.accept w) ∧
        gatherItems stop false check path (i + 1) rest = .ok ⟨others, []⟩ ∧ outputs = w :: others := by
  rw [gatherItems_cons]
  constructor
  · intro h
    obtain ⟨⟨w, issues⟩, hfirst, h⟩ := exists_of_bind_eq_ok h
    split at h
    · rename_i hstop
      cases h
      simp [Outcome.isAccepted] at hstop
    · obtain ⟨⟨others, more⟩, hothers, heq⟩ := exists_of_map_eq_ok h
      obtain ⟨rfl, hnil⟩ := Gathered.mk.inj heq
      obtain ⟨rfl, rfl⟩ := List.append_eq_nil_iff.mp hnil
      exact ⟨w, others, hfirst, hothers, rfl⟩
  · rintro ⟨w, others, hfirst, hothers, rfl⟩
    rw [hfirst]
    change (if stop && (false || false) then _ else _) = _
    rw [Bool.or_false, Bool.and_false, if_neg Bool.false_ne_true, hothers]
    rfl

/-- A list is accepted if its size is right, all its items are accepted, none of them repeats and it
is among the enumerated members. -/
theorem Check.run_listOf_eq_accept_iff :
    (listOf subject rule item).run options path v = .ok (.accept w) ↔
      ∃ items outputs, v = .list items ∧ w = .list outputs ∧
        rule.sizeIssues ⟨subject, options, path⟩ items.length = [] ∧
        gatherItems options.abortEarly false (fun path v => item.run options path v) path 0 items =
          .ok ⟨outputs, []⟩ ∧
        rule.repetitionIssues ⟨subject, options, path⟩ items = [] ∧
        ∀ o, Site.withMembers ⟨subject, options, path⟩ v o = o := by
  constructor
  · intro h
    rcases v.list_or_ne with ⟨items, rfl⟩ | hne
    · rw [run_listOf_list] at h
      obtain ⟨closed, hclosed, hmembers⟩ := exists_of_map_eq_ok h
      obtain ⟨⟨outputs, issues⟩, hfound, rfl⟩ := exists_of_map_eq_ok hclosed
      obtain ⟨hclose, hsame⟩ := Site.withMembers_eq_accept_iff.mp hmembers
      obtain ⟨rfl, hnil⟩ := Outcome.mk.inj hclose
      obtain ⟨hbefore, hrepeated⟩ := List.append_eq_nil_iff.mp hnil
      obtain ⟨hsizes, rfl⟩ := List.append_eq_nil_iff.mp hbefore
      rw [hsizes] at hfound hrepeated
      exact ⟨items, outputs, rfl, rfl, hsizes, hfound, hrepeated, hsame⟩
    · rw [run_listOf_of_ne _ _ _ _ _ hne] at h
      cases h
  · rintro ⟨items, outputs, rfl, rfl, hsizes, hfound, hrepeated, hsame⟩
    rw [run_listOf_list, hsizes, List.isEmpty_nil, Bool.not_true, hfound]
    simp only [Except.map, hsame, ListRule.close, hsizes, List.append_nil, List.isEmpty_nil, if_true,
      hrepeated]
    rfl

end

section

variable {required : List String} {data own : List (String × Value)} {name : String} {check : Check}
  {properties : List (String × Check)}

/-- What is made of an absent property without issues is the value that stands for it. -/
theorem Site.resolveAbsent_eq_iff {site : Site} {needed : Bool} :
    site.resolveAbsent name needed = ⟨own, []⟩ ↔
      needed = false ∧ own = site.subject.fallback.toList.map fun u => (name, u) := by
  unfold resolveAbsent
  cases needed with
  | true => simp
  | false => cases site.subject.fallback <;> simp [eq_comm]

/-- What is made of a property without issues: its output, if it is there, or the value that stands
for it, if it may be absent. -/
theorem resolveProperty_eq_iff :
    resolveProperty options path required data name check = .ok ⟨own, []⟩ ↔
      (∃ v w, present? name data = some v ∧
        check.run options (path ++ [.key name]) v = .ok (.accept w) ∧ own = [(name, w)]) ∨
      present? name data = none ∧ (check.subject.required || required.contains name) = false ∧
        own = check.subject.fallback.toList.map fun u => (name, u) := by
  cases hpresent : present? name data with
  | none =>
    rw [resolveProperty_of_absent hpresent, Except.ok.injEq, Site.resolveAbsent_eq_iff]
    simp
  | some v =>
    rw [resolveProperty_of_present hpresent]
    constructor
    · intro h
      obtain ⟨⟨w, issues⟩, hrun, heq⟩ := exists_of_map_eq_ok h
      obtain ⟨hown, rfl⟩ := Gathered.mk.inj heq
      exact .inl ⟨v, w, rfl, hrun, hown.symm⟩
    · rintro (⟨_, w, hv, hrun, rfl⟩ | ⟨habsent, -⟩)
      · cases hv
        rw [hrun]
        rfl
      · cases habsent

/-- What is made of a property without issues stands under the name of the property. -/
theorem key_eq_of_resolveProperty
    (h : resolveProperty options path required data name check = .ok ⟨own, []⟩) :
    ∀ entry ∈ own, entry.1 = name := by
  obtain ⟨v, w, -, -, rfl⟩ | ⟨-, -, rfl⟩ := resolveProperty_eq_iff.mp h
  · simp
  · simp

/-- What is made of properties without issues is made of the first one and of the rest. -/
theorem resolveProperties_cons_eq_iff {rest : List (String × Check)} :
    resolveProperties options path required data ((name, check) :: rest) = .ok ⟨own, []⟩ ↔
      ∃ first others, resolveProperty options path required data name check = .ok ⟨first, []⟩ ∧
        resolveProperties options path required data rest = .ok ⟨others, []⟩ ∧
        own = first ++ others := by
  rw [resolveProperties_cons]
  constructor
  · intro h
    obtain ⟨⟨first, issues⟩, hfirst, h⟩ := exists_of_bind_eq_ok h
    split at h
    · rename_i hstop
      cases h
      simp at hstop
    · obtain ⟨⟨others, more⟩, hothers, heq⟩ := exists_of_map_eq_ok h
      obtain ⟨rfl, hnil⟩ := Gathered.mk.inj heq
      obtain ⟨rfl, rfl⟩ := List.append_eq_nil_iff.mp hnil
      exact ⟨first, others, hfirst, hothers, rfl⟩
  · rintro ⟨first, others, hfirst, hothers, rfl⟩
    rw [hfirst]
    change (if options.abortEarly && false then _ else _) = _
    rw [Bool.and_false, if_neg Bool.false_ne_true, hothers]
    rfl

/-- What is made of properties without issues stands under their names. -/
theorem key_mem_of_resolveProperties
    (h : resolveProperties options path required data properties = .ok ⟨own, []⟩) :
    ∀ entry ∈ own, entry.1 ∈ properties.map (·.1) := by
  induction properties generalizing own with
  | nil =>
    cases h
    simp
  | cons property rest ih =>
    obtain ⟨first, others, hfirst, hothers, rfl⟩ := resolveProperties_cons_eq_iff.mp h
    intro entry hm
    rcases List.mem_append.mp hm with hm | hm
    · rw [key_eq_of_resolveProperty hfirst entry hm]
      exact List.mem_cons_self
    · exact List.mem_cons_of_mem _ (ih hothers entry hm)

/-- A record is closed without issues if there were none and if no key is refused; its undeclared keys
follow if they are kept. -/
theorem closeRecord_eq_iff {unknown : UnknownKeys} {declared : List String}
    {found : Gathered (List (String × Value))} {out : List (String × Value)} :
    closeRecord options unknown path declared data found = ⟨out, []⟩ ↔
      found.issues = [] ∧ (unknown = .refuse → ∀ entry ∈ data, entry.1 ∈ declared) ∧
        out = found.output ++ if unknown = .keep then undeclaredKeys declared data else [] := by
  rw [← and_assoc, ← issues_closeRecord_eq_nil_iff options unknown path declared data found]
  constructor
  · intro h
    exact ⟨by rw [h], ((Gathered.mk.inj h).1).symm⟩
  · rintro ⟨hissues, rfl⟩
    rw [← hissues]
    rfl

/-- What is made of the declared properties of a record and of its other keys. -/
def resolveRecord (options : Options) (unknown : UnknownKeys) (path : DataPath)
    (required : List String) (data : List (String × Value)) (properties : List (String × Check)) :
    Except Failure (Gathered (List (String × Value))) :=
  (resolveProperties options path required data properties).map
    (closeRecord options unknown path (properties.map (·.1)) data)

variable {rule : RecordRule}

/-- A record is accepted if it is made without issues and is among the enumerated members. -/
theorem Check.run_recordOf_eq_accept_iff :
    (recordOf subject rule properties).run options path v = .ok (.accept w) ↔
      ∃ data out, v = .record data ∧ w = .record out ∧
        resolveRecord options rule.unknown path rule.required data properties = .ok ⟨out, []⟩ ∧
        ∀ o, Site.withMembers ⟨subject, options, path⟩ v o = o := by
  constructor
  · intro h
    rcases v.record_or_ne with ⟨data, rfl⟩ | hne
    · rw [run_recordOf_record] at h
      obtain ⟨o, ho, hmembers⟩ := exists_of_map_eq_ok h
      obtain ⟨⟨out, issues⟩, hclosed, rfl⟩ := exists_of_map_eq_ok ho
      obtain ⟨hrecord, hsame⟩ := Site.withMembers_eq_accept_iff.mp hmembers
      obtain ⟨rfl, rfl⟩ := Outcome.mk.inj hrecord
      exact ⟨data, out, rfl, rfl, hclosed, hsame⟩
    · rw [run_recordOf_of_ne _ _ _ _ _ hne] at h
      cases h
  · rintro ⟨data, out, rfl, rfl, hclosed, hsame⟩
    unfold resolveRecord at hclosed
    rw [run_recordOf_record, hclosed]
    exact congrArg Except.ok (hsame _)

end

/-- A record of data is accepted if it is made without issues. -/
theorem Validator.validateRecord_eq_accepted_iff {validator : Validator}
    {data output : List (String × Value)} :
    validator.validateRecord data = .ok (.accepted output) ↔
      resolveRecord validator.options validator.options.unknown [] [] data validator.checks =
        .ok ⟨output, []⟩ := by
  rw [validateRecord_eq]
  constructor
  · intro h
    obtain ⟨⟨out, issues⟩, hclosed, hverdict⟩ := exists_of_map_eq_ok h
    cases issues with
    | nil =>
      cases hverdict
      exact hclosed
    | cons first rest => cases hverdict
  · intro h
    unfold resolveRecord at h
    rw [h]
    rfl

end Intake
