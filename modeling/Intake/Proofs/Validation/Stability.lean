import Intake.Proofs.Field.Location
import Intake.Proofs.Validation.Output
import Intake.Proofs.Validation.Presentation

/-!
# Validating an output again

An output is made of what was accepted: of values that are kept, of the values that stand for absent
ones, and of keys that no property declares. Main statement: a validator accepts its own outputs and
leaves them as they are, if no text is transformed and no field holds dates or times, if nothing that
holds records of declared properties is compared as a whole, and if a value that stands for an absent
one is null or one that its field keeps.
-/

namespace Intake

namespace Check

/-- What a check makes of a value that it accepts is the value. -/
def Keeps (options : Options) (check : Check) : Prop :=
  ∀ path v w, check.run options path v = .ok (.accept w) → w = v

/-- What a check makes of a value that it accepts, it accepts and leaves as it is. It makes null of
null only. -/
structure Settles (options : Options) (check : Check) : Prop where
  /-- An output is accepted and left as it is. -/
  again : ∀ path v w, check.run options path v = .ok (.accept w) →
    check.run options path w = .ok (.accept w)
  /-- Nothing but null becomes null. -/
  isNull_eq : ∀ path v w, check.run options path v = .ok (.accept w) → v.isNull = false →
    w.isNull = false

/-- A value that stands for an absent one is null, or the check leaves it as it is. -/
def FallbackStands (options : Options) (check : Check) : Prop :=
  ∀ u, check.subject.fallback = some u →
    u = .null ∨ ∀ path, check.run options path u = .ok (.accept u)

end Check

namespace LeafRule

variable {site : Site} {v w : Value}

end LeafRule

section

variable {stop : Bool} {check : DataPath → Value → Except Failure Outcome} {path : DataPath}

/-- Items that are kept one by one are kept together. -/
theorem gatherItems_kept (h : ∀ path v w, check path v = .ok (.accept w) → w = v)
    {items outputs : List Value} {i : Nat}
    (hf : gatherItems stop false check path i items = .ok ⟨outputs, []⟩) : outputs = items := by
  induction items generalizing i outputs with
  | nil =>
    cases hf
    rfl
  | cons v rest ih =>
    obtain ⟨w, others, hfirst, hothers, rfl⟩ := gatherItems_cons_eq_iff.mp hf
    rw [h _ v w hfirst, ih hothers]

/-- Outputs of items that are left as they are one by one are left as they are together. -/
theorem gatherItems_again
    (h : ∀ path v w, check path v = .ok (.accept w) → check path w = .ok (.accept w))
    {items outputs : List Value} {i : Nat}
    (hf : gatherItems stop false check path i items = .ok ⟨outputs, []⟩) :
    gatherItems stop false check path i outputs = .ok ⟨outputs, []⟩ ∧
      outputs.length = items.length := by
  induction items generalizing i outputs with
  | nil =>
    cases hf
    exact ⟨rfl, rfl⟩
  | cons v rest ih =>
    obtain ⟨w, others, hfirst, hothers, rfl⟩ := gatherItems_cons_eq_iff.mp hf
    obtain ⟨hagain, hlength⟩ := ih hothers
    exact ⟨gatherItems_cons_eq_iff.mpr ⟨w, others, h _ v w hfirst, hagain, rfl⟩,
      congrArg Nat.succ hlength⟩

variable {options : Options} {subject : Subject} {rule : ListRule} {item : Check} {v w : Value}

/-- A list whose items are kept is kept. -/
theorem Check.Keeps.listOf (h : item.Keeps options) :
    (Check.listOf subject rule item).Keeps options := by
  intro path v w hrun
  obtain ⟨items, outputs, rfl, rfl, -, hfound, -⟩ := run_listOf_eq_accept_iff.mp hrun
  rw [gatherItems_kept h hfound]

/-- A list is left as it is if its items are, and if it is not compared as a whole. -/
theorem Check.Settles.listOf (h : item.Settles options) (hmembers : subject.members = none)
    (hunique : rule.unique = false) : (Check.listOf subject rule item).Settles options where
  again path v w hrun := by
    obtain ⟨items, outputs, rfl, rfl, hsizes, hfound, -⟩ := run_listOf_eq_accept_iff.mp hrun
    obtain ⟨hagain, hlength⟩ := gatherItems_again h.again hfound
    refine run_listOf_eq_accept_iff.mpr ⟨outputs, outputs, rfl, rfl, hlength ▸ hsizes, hagain, ?_,
      Site.withMembers_of_none hmembers _⟩
    rw [ListRule.repetitionIssues, hunique, if_neg Bool.false_ne_true]
  isNull_eq path v w hrun _ := by
    obtain ⟨items, outputs, -, rfl, -⟩ := run_listOf_eq_accept_iff.mp hrun
    rfl

end

section

variable {options : Options} {path : DataPath} {required : List String}
  {data data' own : List (String × Value)} {name : String} {check : Check}

/-- What was made of a property is made of it again. -/
theorem resolveProperty_again (hcheck : check.Settles options)
    (hfallback : check.FallbackStands options)
    (h : resolveProperty options path required data name check = .ok ⟨own, []⟩)
    (hlookup : data'.lookup name = own.lookup name) :
    resolveProperty options path required data' name check = .ok ⟨own, []⟩ := by
  rw [resolveProperty_eq_iff]
  obtain ⟨v, w, hpresent, hrun, rfl⟩ | ⟨-, hoptional, rfl⟩ := resolveProperty_eq_iff.mp h
  · rw [List.lookup_cons_self] at hlookup
    have hw : w.isNull = false := hcheck.isNull_eq _ v w hrun (present?_eq_some_iff.mp hpresent).2
    exact .inl ⟨w, w, present?_eq_some_iff.mpr ⟨hlookup, hw⟩, hcheck.again _ v w hrun, rfl⟩
  · cases hu : check.subject.fallback with
    | none =>
      have hnothing : data'.lookup name = none := by
        rw [hlookup, hu]
        rfl
      exact .inr ⟨present?_eq_none_iff.mpr (.inl hnothing), hoptional, rfl⟩
    | some u =>
      have hstands : data'.lookup name = some u := by
        rw [hlookup, hu]
        exact List.lookup_cons_self
      by_cases hnull : u = .null
      · exact .inr ⟨present?_eq_none_iff.mpr (.inr (hnull ▸ hstands)), hoptional, rfl⟩
      · have hkept := (hfallback u hu).resolve_left hnull (path ++ [.key name])
        have hu : u.isNull = false := by
          cases u with
          | null => exact absurd rfl hnull
          | _ => rfl
        exact .inl ⟨u, u, present?_eq_some_iff.mpr ⟨hstands, hu⟩, hkept, rfl⟩

variable {properties : List (String × Check)}

/-- Under a name that no entry bears there is nothing. -/
theorem lookup_eq_none_of_keys (data : List (String × Value)) (h : ∀ entry ∈ data, entry.1 ≠ name) :
    data.lookup name = none :=
  List.lookup_eq_none_iff.mpr fun entry hm => by simpa using (h entry hm).symm

/-- What was made of properties is made of them again, from data that agrees with it under their
names. -/
theorem resolveProperties_again
    (hchecks : ∀ name check, (name, check) ∈ properties →
      check.Settles options ∧ check.FallbackStands options)
    (hnames : (properties.map (·.1)).Nodup)
    (h : resolveProperties options path required data properties = .ok ⟨own, []⟩)
    (hlookup : ∀ name ∈ properties.map (·.1), data'.lookup name = own.lookup name) :
    resolveProperties options path required data' properties = .ok ⟨own, []⟩ := by
  induction properties generalizing own with
  | nil =>
    cases h
    rfl
  | cons property rest ih =>
    obtain ⟨name, check⟩ := property
    obtain ⟨hfresh, hrest⟩ := List.nodup_cons.mp hnames
    obtain ⟨hcheck, hfallback⟩ := hchecks name check List.mem_cons_self
    obtain ⟨first, others, hfirst, hothers, rfl⟩ := resolveProperties_cons_eq_iff.mp h
    -- No two properties bear one name, so each finds its own output.
    have hown : (first ++ others).lookup name = first.lookup name := by
      rw [List.lookup_append, lookup_eq_none_of_keys others, Option.or_none]
      exact fun entry hm heq => hfresh (heq ▸ key_mem_of_resolveProperties hothers entry hm)
    have hothersOwn (other : String) (hm : other ∈ rest.map (·.1)) :
        (first ++ others).lookup other = others.lookup other := by
      rw [List.lookup_append, lookup_eq_none_of_keys first, Option.none_or]
      rintro entry hentry rfl
      exact hfresh (key_eq_of_resolveProperty hfirst entry hentry ▸ hm)
    refine resolveProperties_cons_eq_iff.mpr ⟨first, others, ?_, ?_, rfl⟩
    · exact resolveProperty_again hcheck hfallback hfirst
        ((hlookup name List.mem_cons_self).trans hown)
    · exact ih (fun other part hm => hchecks other part (List.mem_cons_of_mem _ hm)) hrest hothers
        fun other hm => (hlookup other (List.mem_cons_of_mem _ hm)).trans (hothersOwn other hm)

/-- What was made of a record is made of it again. -/
theorem resolveRecord_again {unknown : UnknownKeys}
    (hchecks : ∀ name check, (name, check) ∈ properties →
      check.Settles options ∧ check.FallbackStands options)
    (hnames : (properties.map (·.1)).Nodup) {out : List (String × Value)}
    (h : resolveRecord options unknown path required data properties = .ok ⟨out, []⟩) :
    resolveRecord options unknown path required out properties = .ok ⟨out, []⟩ := by
  obtain ⟨⟨own, issues⟩, hown, hclosed⟩ := exists_of_map_eq_ok h
  obtain ⟨hissues, hrefused, rfl⟩ := closeRecord_eq_iff.mp hclosed
  cases hissues
  have hkeys := key_mem_of_resolveProperties hown
  -- The keys that follow those of properties are kept ones, and none of them is declared.
  dsimp only
  generalize hothers : (if unknown = .keep then undeclaredKeys (properties.map (·.1)) data else []) =
    others
  have hundeclared : ∀ entry ∈ others, entry.1 ∉ properties.map (·.1) := by
    intro entry hm
    rw [← hothers] at hm
    split at hm
    · simpa [undeclaredKeys] using (List.mem_filter.mp hm).2
    · cases hm
  have hagain : resolveProperties options path required (own ++ others) properties =
      .ok ⟨own, []⟩ := by
    refine resolveProperties_again hchecks hnames hown fun name hm => ?_
    rw [List.lookup_append, lookup_eq_none_of_keys others, Option.or_none]
    exact fun entry hentry heq => hundeclared entry hentry (heq ▸ hm)
  have hleft : undeclaredKeys (properties.map (·.1)) (own ++ others) = others := by
    unfold undeclaredKeys
    rw [List.filter_append, List.filter_eq_nil_iff.mpr, List.filter_eq_self.mpr, List.nil_append]
    · exact fun entry hm => by simpa using hundeclared entry hm
    · exact fun entry hm => by simpa using hkeys entry hm
  rw [resolveRecord, hagain]
  refine congrArg Except.ok (closeRecord_eq_iff.mpr ⟨rfl, fun hunknown => ?_, ?_⟩)
  · rw [if_neg (by simp [hunknown])] at hothers
    rwa [← hothers, List.append_nil]
  · rw [hleft, ← hothers]
    split <;> rfl

variable {subject : Subject} {rule : RecordRule} {v w : Value}

/-- A record is left as it is if its properties are, and if it is not compared as a whole. -/
theorem Check.Settles.recordOf
    (hchecks : ∀ name check, (name, check) ∈ properties →
      check.Settles options ∧ check.FallbackStands options)
    (hnames : (properties.map (·.1)).Nodup) (hmembers : subject.members = none) :
    (Check.recordOf subject rule properties).Settles options where
  again path v w hrun := by
    obtain ⟨data, out, rfl, rfl, hout, -⟩ := run_recordOf_eq_accept_iff.mp hrun
    exact run_recordOf_eq_accept_iff.mpr ⟨out, out, rfl, rfl,
      resolveRecord_again hchecks hnames hout, Site.withMembers_of_none hmembers _⟩
  isNull_eq path v w hrun _ := by
    obtain ⟨data, out, -, rfl, -⟩ := run_recordOf_eq_accept_iff.mp hrun
    rfl

end

namespace Definition

variable {options : Options} {d : Definition} {label : String} {check : Check}

end Definition

end Intake
