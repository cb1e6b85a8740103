import Intake.Proofs.Validation.Finding
import Intake.Proofs.Validation.Parts

/-!
# Stopping at the first issue

Two validations that differ only in whether they stop at the first issue are compared. Main
statement: the one that stops tells of the first issue only, where the other tells of all, and both
accept the same with the same output. Lists, records and the fields of the data stop on their own,
some rules still find several things, and items are compared with one another only where nothing else
is wrong; what is kept through all of this is the first issue. A failure behind the first issue is not
met by the validation that stops.
-/

namespace Intake

/-- Options that stop at the first issue or do not. -/
def Options.stopping (o : Options) (stop : Bool) : Options := { o with abortEarly := stop }

/-- What goes on to the end and what stops at the first issue: they find nothing and end in the
same, they find the same first, or both fail, unless a failure lies behind the first issue. -/
inductive CutShort {α : Type} (issues : α → List Issue) :
    Except Failure α → Except Failure α → Prop
  /-- Nothing is found. -/
  | clean {whole : α} (h : issues whole = []) : CutShort issues (.ok whole) (.ok whole)
  /-- The same is found first. -/
  | found {whole part : α} {first : Issue} (h : (issues whole).head? = some first)
      (hpart : (issues part).head? = some first) : CutShort issues (.ok whole) (.ok part)
  /-- Both fail. -/
  | failed (failure : Failure) : CutShort issues (.error failure) (.error failure)
  /-- What goes on fails after something was found. -/
  | spared {part : α} {first : Issue} (failure : Failure)
      (hpart : (issues part).head? = some first) : CutShort issues (.error failure) (.ok part)

namespace CutShort

variable {α β : Type} {issues : α → List Issue} {whole part : Except Failure α}

/-- What does not read whether to stop. -/
theorem refl (issues : α → List Issue) (whole : Except Failure α) : CutShort issues whole whole := by
  cases whole with
  | error failure => exact .failed failure
  | ok a =>
    cases h : issues a with
    | nil => exact .clean h
    | cons first rest =>
      have hfirst : (issues a).head? = some first := by
        rw [h]
        rfl
      exact .found hfirst hfirst

/-- A step that keeps the first issue, and does the same where there is none. -/
theorem map (h : CutShort issues whole part) (told : β → List Issue) (f g : α → β)
    (hclean : ∀ a, issues a = [] → f a = g a)
    (hwhole : ∀ a first, (issues a).head? = some first → (told (f a)).head? = some first)
    (hpart : ∀ a first, (issues a).head? = some first → (told (g a)).head? = some first) :
    CutShort told (whole.map f) (part.map g) := by
  cases h with
  | @clean a ha =>
    change CutShort told (.ok (f a)) (.ok (g a))
    rw [hclean a ha]
    exact refl told _
  | found ha hb => exact .found (hwhole _ _ ha) (hpart _ _ hb)
  | failed failure => exact .failed failure
  | spared failure hb => exact .spared failure (hpart _ _ hb)

/-- What stops fails only where what goes on fails in the same way. -/
theorem eq_error {failure : Failure} (h : CutShort issues whole (.error failure)) :
    whole = .error failure := by
  cases h
  rfl

end CutShort

/-- A first issue stays first. -/
theorem head?_append_of_head? {issues : List Issue} {first : Issue}
    (h : issues.head? = some first) (others : List Issue) :
    (issues ++ others).head? = some first := by
  rw [List.head?_append, h]
  rfl

theorem isEmpty_of_head? {issues : List Issue} {first : Issue} (h : issues.head? = some first) :
    issues.isEmpty = false := by
  cases issues with
  | nil => cases h
  | cons issue rest => rfl

/-- A part and those after it: what stops leaves out the others once a part has issues. -/
theorem CutShort.step {α β γ : Type} {issues : α → List Issue} {others : β → List Issue}
    {whole part : Except Failure α} {rest left : Except Failure β} (h : CutShort issues whole part)
    (hrest : CutShort others rest left) (told : γ → List Issue) (combine : α → β → γ) (last : α → γ)
    (hcombine : ∀ a b, told (combine a b) = issues a ++ others b)
    (hlast : ∀ a, told (last a) = issues a) :
    CutShort told (whole.bind fun a => rest.map (combine a))
      (part.bind fun a => if !(issues a).isEmpty then .ok (last a) else left.map (combine a)) := by
  cases h with
  | failed failure => exact .failed failure
  | spared failure hb =>
    simp only [Except.bind, isEmpty_of_head? hb, Bool.not_false, if_true]
    exact .spared failure ((hlast _).symm ▸ hb)
  | @found a b first ha hb =>
    simp only [Except.bind, isEmpty_of_head? hb, Bool.not_false, if_true]
    have hpart : (told (last b)).head? = some first := (hlast b).symm ▸ hb
    cases rest with
    | error failure => exact .spared failure hpart
    | ok more => exact .found ((hcombine a more).symm ▸ head?_append_of_head? ha _) hpart
  | @clean a ha =>
    simp only [Except.bind, ha, List.isEmpty_nil, Bool.not_true, Bool.false_eq_true, if_false]
    have hsame (b : β) : told (combine a b) = others b := by rw [hcombine, ha, List.nil_append]
    exact hrest.map told (combine a) (combine a) (fun _ _ => rfl)
      (fun b _ hb => (hsame b).symm ▸ hb) fun b _ hb => (hsame b).symm ▸ hb

/-- Enumerated members are looked at only where there is no issue. -/
theorem Site.head?_withMembers (site : Site) (v : Value) {o : Outcome} {first : Issue}
    (h : o.issues.head? = some first) : (site.withMembers v o).issues.head? = some first := by
  have hsome : o.isAccepted = false := isEmpty_of_head? h
  unfold withMembers
  split
  · rw [hsome]
    exact h
  · exact h

/-- Enumerated members are looked at without regard to stopping. -/
theorem CutShort.withMembers {whole part : Except Failure Outcome}
    (h : CutShort Outcome.issues whole part) (site : Site) (v : Value) :
    CutShort Outcome.issues (whole.map (site.withMembers v)) (part.map (site.withMembers v)) :=
  h.map _ _ _ (fun _ _ => rfl) (fun _ _ => site.head?_withMembers v)
    fun _ _ => site.head?_withMembers v

/-- Undeclared keys are told of last, and by what stops only where nothing was found before. -/
theorem cutShort_closeRecord {whole part : Except Failure (Gathered (List (String × Value)))}
    (h : CutShort Gathered.issues whole part) (o : Options) (unknown : UnknownKeys)
    (path : DataPath) (declared : List String) (data : List (String × Value)) :
    CutShort Gathered.issues
      (whole.map (closeRecord (o.stopping false) unknown path declared data))
      (part.map (closeRecord (o.stopping true) unknown path declared data)) := by
  refine h.map _ _ _ (fun found hnil => ?_) (fun found first hfirst => ?_) fun found first hfirst => ?_
  · have hone : (refusedKeys (o.stopping true) unknown path declared data).take 1 =
        refusedKeys (o.stopping false) unknown path declared data := by
      unfold refusedKeys
      split <;> rfl
    simp only [closeRecord_eq_limit, hnil, List.nil_append, limitIssues, Options.stopping,
      if_true, Bool.false_eq_true, if_false] at hone ⊢
    rw [hone]
  · exact head?_append_of_head? hfirst _
  · change (List.take 1 (found.issues ++ _)).head? = some first
    rw [List.head?_take]
    exact head?_append_of_head? hfirst _

section

variable {check other : DataPath → Value → Except Failure Outcome}

/-- Where nothing stops, pending issues do not matter. -/
theorem gatherItems_goesOn (pending : Bool) (check : DataPath → Value → Except Failure Outcome)
    (path : DataPath) (i : Nat) (items : List Value) :
    gatherItems false pending check path i items = gatherItems false false check path i items := by
  induction items generalizing i with
  | nil => rfl
  | cons v rest ih => simp only [gatherItems, ih, Bool.false_and]

/-- A list stops at the first item that has issues. -/
theorem cutShort_gatherItems (h : ∀ path v, CutShort Outcome.issues (check path v) (other path v))
    (path : DataPath) (i : Nat) (items : List Value) :
    CutShort Gathered.issues (gatherItems false false check path i items)
      (gatherItems true false other path i items) := by
  induction items generalizing i with
  | nil => exact .refl _ _
  | cons v rest ih =>
    rw [gatherItems_cons, gatherItems_cons]
    exact (h (path ++ [.index i]) v).step (ih (i + 1)) Gathered.issues Outcome.followedBy
      (fun first => ⟨[first.output], first.issues⟩) (fun _ _ => rfl) fun _ => rfl

/-- A list that has issues of its own stops at the first item at the latest, and fails only where it
would fail otherwise. -/
theorem eq_error_of_pending (h : ∀ path v, CutShort Outcome.issues (check path v) (other path v))
    {path : DataPath} {i : Nat} {items : List Value} {failure : Failure}
    (hfails : gatherItems true true other path i items = .error failure) :
    gatherItems false false check path i items = .error failure := by
  cases items with
  | nil => cases hfails
  | cons v rest =>
    rw [gatherItems_cons] at hfails ⊢
    have hv := h (path ++ [.index i]) v
    cases hother : other (path ++ [.index i]) v with
    | ok first =>
      rw [hother] at hfails
      cases hfails
    | error problem =>
      rw [hother] at hfails hv
      cases hfails
      rw [hv.eq_error]
      rfl

/-- A list is judged by its own issues first. -/
theorem cutShort_list (h : ∀ path v, CutShort Outcome.issues (check path v) (other path v))
    (rule : ListRule) (site : Site) (path : DataPath) (items : List Value) :
    let pending := !(rule.sizeIssues site items.length).isEmpty
    CutShort Outcome.issues
      ((gatherItems false pending check path 0 items).map (rule.close site items))
      ((gatherItems true pending other path 0 items).map (rule.close site items)) := by
  intro pending
  rw [gatherItems_goesOn]
  cases hsizes : rule.sizeIssues site items.length with
  | nil =>
    have hpending : pending = false := by simp [pending, hsizes]
    rw [hpending]
    have hhead (found : Gathered (List Value)) (first : Issue)
        (hfirst : found.issues.head? = some first) :
        (rule.close site items found).issues.head? = some first := by
      unfold ListRule.close
      rw [hsizes]
      exact head?_append_of_head? hfirst _
    exact (cutShort_gatherItems h path 0 items).map _ _ _ (fun _ _ => rfl) hhead hhead
  | cons first rest =>
    have hpending : pending = true := by simp [pending, hsizes]
    rw [hpending]
    have hhead (found : Gathered (List Value)) :
        (rule.close site items found).issues.head? = some first := by
      unfold ListRule.close
      rw [hsizes]
      rfl
    cases hpart : gatherItems true true other path 0 items with
    | error failure =>
      rw [eq_error_of_pending h hpart]
      exact .failed failure
    | ok part =>
      cases gatherItems false false check path 0 items with
      | error failure => exact .spared failure (hhead part)
      | ok whole => exact .found (hhead whole) (hhead part)

end

mutual

/-- A check that stops at the first issue tells of the first one that it finds otherwise. -/
theorem cutShort_run (o : Options) (path : DataPath) (v : Value) (check : Check) :
    CutShort Outcome.issues (check.run (o.stopping false) path v)
      (check.run (o.stopping true) path v) := by
  match check with
  | .leaf subject rule =>
    -- A rule reads its options for words and transforms only.
    obtain ⟨judged, hjudged⟩ := rule.exists_judgement subject v
    rw [Check.run_leaf, Check.run_leaf, hjudged, hjudged]
    exact .refl _ _
  | .listOf subject rule item =>
    by_cases h : ∃ items, v = .list items
    · obtain ⟨items, rfl⟩ := h
      rw [Check.run_listOf_list, Check.run_listOf_list]
      exact (cutShort_list (fun path v => cutShort_run o path v item) rule
        ⟨subject, o, path⟩ path items).withMembers ⟨subject, o, path⟩ (.list items)
    · have hne : ∀ items, v ≠ .list items := fun items heq => h ⟨items, heq⟩
      rw [Check.run_listOf_of_ne _ _ _ _ _ hne, Check.run_listOf_of_ne _ _ _ _ _ hne]
      exact .refl _ _
  | .recordOf subject rule properties =>
    by_cases h : ∃ data, v = .record data
    · obtain ⟨data, rfl⟩ := h
      rw [Check.run_recordOf_record, Check.run_recordOf_record]
      have hclosed := cutShort_closeRecord
        (cutShort_resolveProperties o path rule.required data properties) o rule.unknown path
        (properties.map Prod.fst) data
      exact (hclosed.map Outcome.issues Gathered.asRecord Gathered.asRecord (fun _ _ => rfl)
        (fun _ _ => id) fun _ _ => id).withMembers ⟨subject, o, path⟩ (.record data)
    · have hne : ∀ data, v ≠ .record data := fun data heq => h ⟨data, heq⟩
      rw [Check.run_recordOf_of_ne _ _ _ _ _ hne, Check.run_recordOf_of_ne _ _ _ _ _ hne]
      exact .refl _ _

/-- The properties of a record are resolved up to the first that has issues. -/
theorem cutShort_resolveProperties (o : Options) (path : DataPath) (required : List String)
    (data : List (String × Value)) (properties : List (String × Check)) :
    CutShort Gathered.issues
      (resolveProperties (o.stopping false) path required data properties)
      (resolveProperties (o.stopping true) path required data properties) := by
  match properties with
  | [] => exact .refl _ _
  | (name, check) :: rest =>
    have hfirst : CutShort Gathered.issues
        (resolveProperty (o.stopping false) path required data name check)
        (resolveProperty (o.stopping true) path required data name check) := by
      unfold resolveProperty
      cases present? name data with
      | none => exact .refl _ _
      | some v =>
        exact (cutShort_run o (path ++ [.key name]) v check).map Gathered.issues
          (Outcome.asProperty name) (Outcome.asProperty name) (fun _ _ => rfl) (fun _ _ => id)
          fun _ _ => id
    rw [resolveProperties_cons, resolveProperties_cons]
    exact hfirst.step (cutShort_resolveProperties o path required data rest) _ Gathered.append id
      (fun _ _ => rfl) fun _ => rfl

end

/-- What a validation says that stops at the first issue, where another goes on to the end. -/
inductive Verdict.StopsShort : Except Failure Verdict → Except Failure Verdict → Prop
  /-- Both accept the data with the same output. -/
  | accepted (output : List (String × Value)) :
    StopsShort (.ok (.accepted output)) (.ok (.accepted output))
  /-- Both refuse the data, one of them with the first issue of the other. -/
  | rejected (first : Issue) (rest : List Issue) :
    StopsShort (.ok (.rejected (first :: rest))) (.ok (.rejected [first]))
  /-- Both fail. -/
  | failed (failure : Failure) : StopsShort (.error failure) (.error failure)
  /-- What goes on fails, behind an issue that is enough for the other. -/
  | spared (failure : Failure) (first : Issue) :
    StopsShort (.error failure) (.ok (.rejected [first]))

namespace Validator

/-- A verdict on a record that stops at the first issue tells of one issue at most. -/
theorem stopsShort_verdict {whole part : Except Failure (Gathered (List (String × Value)))}
    (h : CutShort Gathered.issues whole part)
    (hone : ∀ found, part = .ok found → found.issues.length ≤ 1) :
    Verdict.StopsShort (whole.map Gathered.verdict) (part.map Gathered.verdict) := by
  have hpart (found : Gathered (List (String × Value))) (first : Issue)
      (hfound : found.issues.length ≤ 1) (hfirst : found.issues.head? = some first) :
      found.verdict = .rejected [first] := by
    obtain ⟨output, _ | ⟨issue, _ | ⟨another, more⟩⟩⟩ := found
    · cases hfirst
    · cases hfirst
      rfl
    · simp at hfound
  cases h with
  | failed failure => exact .failed failure
  | @clean found hnil =>
    have hverdict : found.verdict = .accepted found.output := by rw [Gathered.verdict, hnil]
    change Verdict.StopsShort (.ok found.verdict) (.ok found.verdict)
    rw [hverdict]
    exact .accepted found.output
  | spared failure hfirst =>
    change Verdict.StopsShort _ (.ok (Gathered.verdict _))
    rw [hpart _ _ (hone _ rfl) hfirst]
    exact .spared failure _
  | @found whole part first hwhole hfirst =>
    change Verdict.StopsShort (.ok (Gathered.verdict _)) (.ok (Gathered.verdict _))
    rw [hpart _ _ (hone _ rfl) hfirst]
    obtain ⟨output, _ | ⟨issue, more⟩⟩ := whole
    · cases hwhole
    · cases hwhole
      exact .rejected first more

/-- Validation of a record that stops at the first issue is cut short there. -/
theorem stopsShort_validateRecord (o : Options) (name : String) (checks : List (String × Check))
    (data : List (String × Value)) :
    Verdict.StopsShort (validateRecord ⟨name, o.stopping false, checks⟩ data)
      (validateRecord ⟨name, o.stopping true, checks⟩ data) := by
  rw [validateRecord_eq, validateRecord_eq]
  refine stopsShort_verdict (cutShort_closeRecord (cutShort_resolveProperties o [] [] data checks) o
    o.unknown [] (checks.map Prod.fst) data) fun found hfound => ?_
  cases hproperties : resolveProperties (o.stopping true) [] [] data checks with
  | error failure =>
    rw [hproperties] at hfound
    cases hfound
  | ok resolved =>
    rw [hproperties] at hfound
    cases hfound
    exact List.length_take_le 1 _

/-- Stopping at the first issue only cuts a validation short: fields are made ready in the same way,
or fail in the same way, and data is accepted alike, or the validation that stops tells of exactly
the first issue that the other one tells of. -/
theorem abortEarly_stopsShort (o : Options) (name : String) (fields : FieldMap) :
    Agree (fun validator stopping => ∀ data,
        Verdict.StopsShort (validator.validate data) (stopping.validate data))
      (compile (o.stopping false) name fields) (compile (o.stopping true) name fields) := by
  refine (agree_compile (o.stopping false) (o.stopping true) name fields).imp ?_
  rintro _ _ ⟨checks, -, rfl, rfl⟩ data
  cases data with
  | null => exact stopsShort_validateRecord o name checks []
  | record entries => exact stopsShort_validateRecord o name checks entries
  | _ => exact .rejected _ []

end Validator

end Intake
