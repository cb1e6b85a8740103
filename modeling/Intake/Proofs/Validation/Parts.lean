import Intake.Validation.Run

/-!
# Lists and records by their parts

What the check of a list or a record does, put together from what is done with its parts: an item
after the other, a property after the other, and at the end what concerns the whole. Main statements:
the equations of the checks over these steps, along which two runs can be compared, and that fields
are made ready in the same way under all options.
-/

namespace Intake

/-- A value is a list, or no list is it. -/
theorem Value.list_or_ne (v : Value) : (∃ items, v = .list items) ∨ ∀ items, v ≠ .list items := by
  cases v <;> simp

/-- A value is a record, or no record is it. -/
theorem Value.record_or_ne (v : Value) :
    (∃ entries, v = .record entries) ∨ ∀ entries, v ≠ .record entries := by
  cases v <;> simp

/-- A property is there exactly if there is a value under its name that is not null. -/
theorem present?_eq_some_iff {name : String} {data : List (String × Value)} {v : Value} :
    present? name data = some v ↔ data.lookup name = some v ∧ v.isNull = false := by
  simp [present?]

/-- A property is not there exactly if there is nothing or null under its name. -/
theorem present?_eq_none_iff {name : String} {data : List (String × Value)} :
    present? name data = none ↔ data.lookup name = none ∨ data.lookup name = some .null := by
  unfold present?
  cases data.lookup name with
  | none => simp
  | some v => cases v <;> simp [Value.isNull]

/-- The outcome of the check of a property, as what was made of it. -/
def Outcome.asProperty (name : String) (o : Outcome) : Gathered (List (String × Value)) :=
  ⟨if o.isAccepted then [(name, o.output)] else [], o.issues⟩

/-- What is made of one property of a record. -/
def resolveProperty (options : Options) (path : DataPath) (required : List String)
    (data : List (String × Value)) (name : String) (check : Check) :
    Except Failure (Gathered (List (String × Value))) :=
  match present? name data with
  | none =>
    .ok (Site.resolveAbsent ⟨check.subject, options, path ++ [.key name]⟩ name
      (check.subject.required || required.contains name))
  | some v =>
    (check.run options (path ++ [.key name]) v).map (Outcome.asProperty name)

theorem resolveProperty_of_present {options : Options} {path : DataPath} {required : List String}
    {data : List (String × Value)} {name : String} {v : Value} (h : present? name data = some v)
    (check : Check) :
    resolveProperty options path required data name check =
      (check.run options (path ++ [.key name]) v).map (Outcome.asProperty name) := by
  rw [resolveProperty, h]

theorem resolveProperty_of_absent {options : Options} {path : DataPath} {required : List String}
    {data : List (String × Value)} {name : String} (h : present? name data = none) (check : Check) :
    resolveProperty options path required data name check =
      .ok (Site.resolveAbsent ⟨check.subject, options, path ++ [.key name]⟩ name
        (check.subject.required || required.contains name)) := by
  rw [resolveProperty, h]

/-- What was made of a property and of those after it. -/
def Gathered.append {α : Type} (first others : Gathered (List α)) : Gathered (List α) :=
  ⟨first.output ++ others.output, first.issues ++ others.issues⟩

/-- What was made of an item and of those after it. -/
def Outcome.followedBy (first : Outcome) (others : Gathered (List Value)) : Gathered (List Value) :=
  ⟨first.output :: others.output, first.issues ++ others.issues⟩

/-- What the items of a list make of the list: its size goes before them, and items are compared with
one another where nothing else is wrong. -/
def ListRule.close (rule : ListRule) (site : Site) (items : List Value)
    (found : Gathered (List Value)) : Outcome :=
  let issues := rule.sizeIssues site items.length ++ found.issues
  ⟨.list found.output,
    issues ++ if issues.isEmpty then rule.repetitionIssues site items else []⟩

/-- The issue of the keys of a record that are not declared, if they are refused. -/
def refusedKeys (options : Options) (unknown : UnknownKeys) (path : DataPath)
    (declared : List String) (data : List (String × Value)) : List Issue :=
  if unknown = .refuse && !(undeclaredKeys declared data).isEmpty then
    [keysIssue options path ((undeclaredKeys declared data).map (·.1))]
  else []

/-- What happens to the keys of a record that its rule does not declare. -/
def RecordRule.unknown (rule : RecordRule) : UnknownKeys := if rule.additional then .keep else .refuse

/-- What happens to the keys of data that no field declares. -/
def Options.unknown (options : Options) : UnknownKeys := if options.stripUnknown then .drop else .refuse

/-- What was made of the keys of a record, as the outcome of the record. -/
def Gathered.asRecord (found : Gathered (List (String × Value))) : Outcome :=
  ⟨.record found.output, found.issues⟩

/-- The verdict on what was made of data. -/
def Gathered.verdict (found : Gathered (List (String × Value))) : Verdict :=
  match found.issues with
  | [] => .accepted found.output
  | issues => .rejected issues

theorem closeRecord_eq_limit (options : Options) (unknown : UnknownKeys) (path : DataPath)
    (declared : List String) (data : List (String × Value))
    (found : Gathered (List (String × Value))) :
    closeRecord options unknown path declared data found =
      ⟨found.output ++ (if unknown = .keep then undeclaredKeys declared data else []),
        limitIssues options.abortEarly
          (found.issues ++ refusedKeys options unknown path declared data)⟩ := rfl

theorem gatherItems_cons (stop pending : Bool)
    (check : DataPath → Value → Except Failure Outcome) (path : DataPath) (i : Nat) (v : Value)
    (rest : List Value) :
    gatherItems stop pending check path i (v :: rest) =
      (check (path ++ [.index i]) v).bind fun first =>
        if stop && (pending || !first.isAccepted) then .ok ⟨[first.output], first.issues⟩
        else (gatherItems stop pending check path (i + 1) rest).map first.followedBy := by
  rw [gatherItems]
  cases check (path ++ [.index i]) v with
  | error failure => rfl
  | ok first => cases gatherItems stop pending check path (i + 1) rest <;> rfl

theorem resolveProperties_cons (options : Options) (path : DataPath) (required : List String)
    (data : List (String × Value)) (name : String) (check : Check) (rest : List (String × Check)) :
    resolveProperties options path required data ((name, check) :: rest) =
      (resolveProperty options path required data name check).bind fun first =>
        if options.abortEarly && !first.issues.isEmpty then .ok first
        else (resolveProperties options path required data rest).map first.append := by
  rw [resolveProperties, resolveProperty]
  cases present? name data with
  | none => cases resolveProperties options path required data rest <;> rfl
  | some v =>
    dsimp only
    cases check.run options (path ++ [.key name]) v with
    | error failure => rfl
    | ok o => cases resolveProperties options path required data rest <;> rfl

namespace Check

variable (options : Options) (path : DataPath) (subject : Subject)

theorem run_leaf (rule : LeafRule) (v : Value) :
    (leaf subject rule).run options path v =
      (rule.run ⟨subject, options, path⟩ v).map (Site.withMembers ⟨subject, options, path⟩ v) := by
  rw [run]

theorem run_listOf_list (rule : ListRule) (item : Check) (items : List Value) :
    (listOf subject rule item).run options path (.list items) =
      ((gatherItems options.abortEarly
          (!(rule.sizeIssues ⟨subject, options, path⟩ items.length).isEmpty)
          (fun path v => item.run options path v) path 0 items).map
            (rule.close ⟨subject, options, path⟩ items)).map
              (Site.withMembers ⟨subject, options, path⟩ (.list items)) := by
  rw [run]
  dsimp only
  cases gatherItems options.abortEarly
    (!(rule.sizeIssues ⟨subject, options, path⟩ items.length).isEmpty)
    (fun path v => item.run options path v) path 0 items <;> rfl

theorem run_listOf_of_ne (rule : ListRule) (item : Check) {v : Value} (h : ∀ items, v ≠ .list items) :
    (listOf subject rule item).run options path v =
      .ok (.reject v (Site.typeIssue ⟨subject, options, path⟩ v "array")) := by
  cases v with
  | list items => exact absurd rfl (h items)
  | _ => simp only [run]

theorem run_recordOf_record (rule : RecordRule) (properties : List (String × Check))
    (data : List (String × Value)) :
    (recordOf subject rule properties).run options path (.record data) =
      (((resolveProperties options path rule.required data properties).map
          (closeRecord options rule.unknown path (properties.map (·.1)) data)).map
            Gathered.asRecord).map
              (Site.withMembers ⟨subject, options, path⟩ (.record data)) := by
  rw [run]
  dsimp only
  cases resolveProperties options path rule.required data properties <;> rfl

theorem run_recordOf_of_ne (rule : RecordRule) (properties : List (String × Check)) {v : Value}
    (h : ∀ data, v ≠ .record data) :
    (recordOf subject rule properties).run options path v =
      .ok (.reject v (Site.typeIssue ⟨subject, options, path⟩ v "object")) := by
  cases v with
  | record data => exact absurd rfl (h data)
  | _ => simp only [run]

end Check

theorem Validator.validateRecord_eq (validator : Validator) (data : List (String × Value)) :
    validator.validateRecord data =
      ((resolveProperties validator.options [] [] data validator.checks).map
        (closeRecord validator.options validator.options.unknown []
          (validator.checks.map (·.1)) data)).map Gathered.verdict := by
  rw [validateRecord]
  cases resolveProperties validator.options [] [] data validator.checks with
  | error failure => rfl
  | ok found =>
    dsimp only [Except.map, Gathered.verdict, Options.unknown]
    generalize closeRecord validator.options
      (if validator.options.stripUnknown then UnknownKeys.drop else .refuse) []
      (validator.checks.map (·.1)) data found = closed
    cases closed.issues <;> rfl

/-- Two results agree: there is the same error, or there are values in a relation. -/
inductive Agree {ε α β : Type} (r : α → β → Prop) : Except ε α → Except ε β → Prop
  /-- There are values in the relation. -/
  | ok {a : α} {b : β} (h : r a b) : Agree r (.ok a) (.ok b)
  /-- There is the same error. -/
  | error (e : ε) : Agree r (.error e) (.error e)

theorem Agree.imp {ε α β : Type} {r s : α → β → Prop} {a : Except ε α} {b : Except ε β}
    (h : Agree r a b) (himp : ∀ x y, r x y → s x y) : Agree s a b := by
  cases h with
  | ok h => exact .ok (himp _ _ h)
  | error e => exact .error e

theorem Agree.bind {ε α β γ δ : Type} {r : α → β → Prop} {s : γ → δ → Prop} {a : Except ε α}
    {b : Except ε β} {f : α → Except ε γ} {g : β → Except ε δ} (h : Agree r a b)
    (hstep : ∀ x y, r x y → Agree s (f x) (g y)) : Agree s (a.bind f) (b.bind g) := by
  cases h with
  | ok h => exact hstep _ _ h
  | error e => exact .error e

theorem Agree.map {ε α β γ δ : Type} {r : α → β → Prop} {s : γ → δ → Prop} {a : Except ε α}
    {b : Except ε β} {f : α → γ} {g : β → δ} (h : Agree r a b)
    (hstep : ∀ x y, r x y → s (f x) (g y)) : Agree s (a.map f) (b.map g) := by
  cases h with
  | ok h => exact .ok (hstep _ _ h)
  | error e => exact .error e

/-- Under all options fields are made ready in the same way. -/
theorem Validator.agree_compile (o o' : Options) (name : String) (fields : FieldMap) :
    Agree (fun validator other => ∃ checks, compileFields id fields = .ok checks ∧
        validator = ⟨name, o, checks⟩ ∧ other = ⟨name, o', checks⟩)
      (Validator.compile o name fields) (Validator.compile o' name fields) := by
  unfold compile
  cases compileFields id fields with
  | error e => exact .error e
  | ok checks => exact .ok ⟨checks, rfl, rfl, rfl⟩

end Intake
