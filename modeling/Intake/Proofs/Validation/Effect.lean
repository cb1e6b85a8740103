import Intake.Proofs.Field.Written
import Intake.Proofs.Validation.Finding

/-!
# Options with the same effect

A validation reads its options by looking up messages and by three switches. Main statements: checks
run alike under options that agree in these, and options with the same text do agree. The order in
which options list their messages has no effect.
-/

namespace Intake

open Json

/-- Two groups of options agree in all that a validation reads of them. -/
structure Options.SameEffect (o o' : Options) : Prop where
  /-- Both stop at the first issue, or neither does. -/
  abortEarly : o.abortEarly = o'.abortEarly
  /-- Both apply transforms, or neither does. -/
  transform : o.transform = o'.transform
  /-- Both drop undeclared keys, or neither does. -/
  stripUnknown : o.stripUnknown = o'.stripUnknown
  /-- Both hold the same message under each key. -/
  messages : ∀ key, o.messages.lookup key = o'.messages.lookup key

namespace Json

theorem textsUnder_map_text (key : String) (messages : List (String × String)) :
    textsUnder key (messages.map fun (name, text) => (name, .text text)) =
      ((messages.filter fun entry => decide (entry.1 = key)).map (·.2)).map stringText := by
  induction messages with
  | nil => rfl
  | cons entry rest ih =>
    obtain ⟨name, text⟩ := entry
    unfold textsUnder at ih ⊢
    rw [List.map_cons, canonicalEntries]
    by_cases hk : name = key
    · rw [List.filter_cons_of_pos (by simpa using hk), List.filter_cons_of_pos (by simpa using hk),
        List.map_cons, ih, List.map_cons, List.map_cons, canonical]
    · rw [List.filter_cons_of_neg (by simpa using hk), List.filter_cons_of_neg (by simpa using hk),
        ih]

theorem lookup_eq_head? (key : String) (messages : List (String × String)) :
    messages.lookup key =
      ((messages.filter fun entry => decide (entry.1 = key)).map (·.2)).head? := by
  induction messages with
  | nil => rfl
  | cons entry rest ih =>
    obtain ⟨name, text⟩ := entry
    by_cases hk : name = key
    · subst hk
      simp
    · rw [List.lookup_cons, show (key == name) = false by simpa using fun h : key = name => hk h.symm,
        List.filter_cons_of_neg (by simpa using hk)]
      exact ih

end Json

/-- Options with the same text have the same effect. -/
theorem Options.sameEffect_of_canonical {o o' : Options}
    (h : canonical o.written = canonical o'.written) : o.SameEffect o' := by
  have hunder := textsUnder_eq h
  have hstop := hunder "abort_early"
  have htransform := hunder "transform"
  have hstrip := hunder "strip_unknown"
  have hmessages := hunder "custom_messages"
  simp only [textsUnder, canonicalEntries, List.filter_cons, List.filter_nil, String.reduceEq,
    decide_true, decide_false, if_true, Bool.false_eq_true, if_false, List.map_cons, List.map_nil]
    at hstop htransform hstrip hmessages
  refine ⟨bool_injective (List.cons.inj hstop).1, bool_injective (List.cons.inj htransform).1,
    bool_injective (List.cons.inj hstrip).1, fun key => ?_⟩
  have hkey := textsUnder_eq (List.cons.inj hmessages).1 key
  rw [textsUnder_map_text, textsUnder_map_text] at hkey
  rw [lookup_eq_head?, lookup_eq_head?, stringText_injective.list_map hkey]

namespace Options.SameEffect

variable {o o' : Options}

/-- The message for a constraint is the same. -/
theorem message_eq (h : o.SameEffect o') (subject : Subject) (path : DataPath) :
    (⟨subject, o, path⟩ : Site).message = (⟨subject, o', path⟩ : Site).message := by
  funext constraint standard
  unfold Site.message Site.givenMessage
  dsimp only
  rw [h.messages]
  rfl

/-- Issues are told in the same way. -/
theorem issue_eq (h : o.SameEffect o') (subject : Subject) (path : DataPath) :
    (⟨subject, o, path⟩ : Site).issue = (⟨subject, o', path⟩ : Site).issue := by
  funext code constraint standard value expected
  unfold Site.issue
  rw [h.message_eq]

/-- A finding is told in the same way. -/
theorem tell_eq (h : o.SameEffect o') (subject : Subject) (path : DataPath) :
    Site.tell ⟨subject, o, path⟩ = Site.tell ⟨subject, o', path⟩ := by
  funext finding
  rw [Site.tell, Site.tell, h.issue_eq]

/-- Issues that tell of findings are the same. -/
theorem told_eq (h : o.SameEffect o') {subject : Subject}
    {issues : Options → DataPath → List Issue} (htold : Told subject issues) (path : DataPath) :
    issues o path = issues o' path := by
  obtain ⟨findings, hfindings⟩ := htold
  rw [hfindings, hfindings, h.tell_eq]

/-- A wrong type is told in the same way. -/
theorem typeIssue_eq (h : o.SameEffect o') (subject : Subject) (path : DataPath) :
    (⟨subject, o, path⟩ : Site).typeIssue = (⟨subject, o', path⟩ : Site).typeIssue := by
  funext value expected
  exact List.head_eq_of_cons_eq (h.told_eq (.typeIssue value expected) path)

/-- The number of items is judged alike. -/
theorem sizeIssues_eq (h : o.SameEffect o') (subject : Subject) (path : DataPath)
    (rule : ListRule) (size : Nat) :
    rule.sizeIssues ⟨subject, o, path⟩ size = rule.sizeIssues ⟨subject, o', path⟩ size :=
  h.told_eq (rule.told_sizeIssues subject size) path

/-- Repeated items are judged alike. -/
theorem repetitionIssues_eq (h : o.SameEffect o') (subject : Subject) (path : DataPath)
    (rule : ListRule) (items : List Value) :
    rule.repetitionIssues ⟨subject, o, path⟩ items =
      rule.repetitionIssues ⟨subject, o', path⟩ items :=
  h.told_eq (rule.told_repetitionIssues subject items) path

/-- The rule of a value runs alike: there is one judgement, and both options tell it in one way. -/
theorem run_rule_eq (h : o.SameEffect o') (subject : Subject) (path : DataPath) (v : Value)
    (rule : LeafRule) :
    rule.run ⟨subject, o, path⟩ v = rule.run ⟨subject, o', path⟩ v := by
  obtain ⟨judged, hjudged⟩ := rule.exists_judgement subject v
  have hconclude (judgement : Judgement rule.declared v) :
      Site.conclude ⟨subject, o, path⟩ judgement = Site.conclude ⟨subject, o', path⟩ judgement := by
    rw [Site.conclude, Site.conclude, h.tell_eq, h.transform]
  rw [hjudged, hjudged, funext hconclude]

/-- Enumerated members are looked at alike. -/
theorem withMembers_eq (h : o.SameEffect o') (subject : Subject) (path : DataPath) :
    (⟨subject, o, path⟩ : Site).withMembers = (⟨subject, o', path⟩ : Site).withMembers := by
  funext v outcome
  simp only [Site.withMembers, Site.choiceIssue, Site.issueWith, Site.label,
    h.issue_eq subject path]

/-- A property that is absent is resolved alike. -/
theorem resolveAbsent_eq (h : o.SameEffect o') (subject : Subject) (path : DataPath) :
    (⟨subject, o, path⟩ : Site).resolveAbsent = (⟨subject, o', path⟩ : Site).resolveAbsent := by
  funext name required
  simp only [Site.resolveAbsent, Site.missingIssue, Site.label, h.issue_eq subject path]

/-- A record is closed alike. -/
theorem closeRecord_eq (h : o.SameEffect o') : closeRecord o = closeRecord o' := by
  funext unknown path declared data found
  simp only [closeRecord, keysIssue, h.messages, h.abortEarly]

mutual

/-- A check runs alike under options with the same effect. -/
theorem run_eq (h : o.SameEffect o') (path : DataPath) (v : Value) (check : Check) :
    check.run o path v = check.run o' path v := by
  match check with
  | .leaf subject rule =>
    simp only [Check.run, h.run_rule_eq, h.withMembers_eq]
  | .listOf subject rule item =>
    have hitem : (fun path v => item.run o path v) = fun path v => item.run o' path v := by
      funext path v
      exact run_eq h path v item
    simp only [Check.run, hitem, h.abortEarly, h.withMembers_eq, h.sizeIssues_eq,
      h.repetitionIssues_eq, h.typeIssue_eq]
  | .recordOf subject rule properties =>
    simp only [Check.run, resolveProperties_eq h path rule.required _ properties,
      h.closeRecord_eq, h.withMembers_eq, h.typeIssue_eq]

/-- The properties of a record are resolved alike under options with the same effect. -/
theorem resolveProperties_eq (h : o.SameEffect o') (path : DataPath) (required : List String)
    (data : List (String × Value)) (properties : List (String × Check)) :
    resolveProperties o path required data properties =
      resolveProperties o' path required data properties := by
  match properties with
  | [] => rfl
  | (name, check) :: rest =>
    have hcheck (v : Value) : check.run o (path ++ [.key name]) v =
        check.run o' (path ++ [.key name]) v := run_eq h (path ++ [.key name]) v check
    simp only [resolveProperties, hcheck, h.resolveAbsent_eq, h.abortEarly,
      resolveProperties_eq h path required data rest]

end

/-- A validator judges alike under options with the same effect. -/
theorem validate_eq (h : o.SameEffect o') (name : String) (checks : List (String × Check))
    (data : Value) :
    (⟨name, o, checks⟩ : Validator).validate data = (⟨name, o', checks⟩ : Validator).validate data := by
  have hrecord (entries : List (String × Value)) :
      (⟨name, o, checks⟩ : Validator).validateRecord entries =
        (⟨name, o', checks⟩ : Validator).validateRecord entries := by
    simp only [Validator.validateRecord, h.resolveProperties_eq, h.closeRecord_eq, h.stripUnknown]
  cases data with
  | null => exact hrecord []
  | record entries => exact hrecord entries
  | _ => rfl

end Options.SameEffect

end Intake
