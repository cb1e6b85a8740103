import Intake.Proofs.Validation.Codes
import Intake.Proofs.Validation.Order

/-!
# What is told of secret values by the codes alone

The detail of a secret issue masks the value, and what is told beside it is put together from the
declaration of the field. Main statement: rules for values without parts, apart from those for URLs
and for JSON, tell of two secret values of one type in the same words where they refuse them under
the same codes.
-/

namespace Intake

/-- Values of a type. -/
abbrev ValueOf (type : String) := { v : Value // v.typeName = type }

/-- Values of a type are null together. -/
theorem ValueOf.isNull_eq {type : String} (v w : ValueOf type) : v.1.isNull = w.1.isNull := by
  have hnull (v : Value) : v.isNull = decide (v.typeName = "null") := by
    cases v <;> simp [Value.isNull, Value.typeName]
  rw [hnull, hnull, v.2, w.2]

/-- The issues of a run, none if it does not come to an end. -/
def foundBy (result : Except Failure Outcome) : List Issue :=
  match result with
  | .ok o => o.issues
  | .error _ => []

/-- What is found in several cases is told by the code alone: issues with the same code have the same
detail, in whatever cases they are found. -/
structure ToldByCode {α : Type} (codes : List ErrorCode) (found : α → List Issue) : Prop where
  /-- All issues bear one of several codes. -/
  bear : ∀ a, BearCodes codes (found a)
  /-- Issues with the same code have the same detail. -/
  alike : ∀ a b, ∀ i ∈ found a, ∀ j ∈ found b, i.code = j.code → i.detail = j.detail

/-- Issues whose details are told by their codes have the same details if they have the same codes. -/
theorem map_detail_eq {issues others : List Issue}
    (h : ∀ i ∈ issues, ∀ j ∈ others, i.code = j.code → i.detail = j.detail)
    (hcodes : issues.map (·.code) = others.map (·.code)) :
    issues.map Issue.detail = others.map Issue.detail := by
  induction issues generalizing others with
  | nil =>
    cases others with
    | nil => rfl
    | cons j rest => cases hcodes
  | cons i rest ih =>
    cases others with
    | nil => cases hcodes
    | cons j rest' =>
      obtain ⟨hcode, hcodes⟩ := List.cons.inj hcodes
      rw [List.map_cons, List.map_cons, h i List.mem_cons_self j List.mem_cons_self hcode,
        ih (fun i hi j hj => h i (List.mem_cons_of_mem _ hi) j (List.mem_cons_of_mem _ hj)) hcodes]

namespace ToldByCode

variable {α β : Type} {codes others : List ErrorCode} {found more : α → List Issue}

theorem nil : ToldByCode codes fun _ : α => [] := ⟨fun _ => .nil, fun _ _ _ hi => by cases hi⟩

theorem of_subset (h : ToldByCode codes found) (hsub : ∀ a, more a ⊆ found a) :
    ToldByCode codes more where
  bear a i hi := h.bear a i (hsub a hi)
  alike a b i hi j hj := h.alike a b i (hsub a hi) j (hsub b hj)

/-- Groups of issues that bear different codes. -/
theorem append (h : ToldByCode codes found) (ho : ToldByCode others more)
    (hdisjoint : ∀ code ∈ codes, code ∉ others) :
    ToldByCode (codes ++ others) fun a => found a ++ more a where
  bear a := .append ((h.bear a).mono (List.subset_append_left _ _))
    ((ho.bear a).mono (List.subset_append_right _ _))
  alike a b i hi j hj hcode := by
    rcases List.mem_append.mp hi with hi | hi <;> rcases List.mem_append.mp hj with hj | hj
    · exact h.alike a b i hi j hj hcode
    · exact absurd (hcode ▸ ho.bear b j hj) (hdisjoint _ (h.bear a i hi))
    · exact absurd (hcode ▸ ho.bear a i hi) (hdisjoint _ (h.bear b j hj))
    · exact ho.alike a b i hi j hj hcode

/-- One issue, if a condition holds. -/
theorem issueIf {issue : α → Issue} (h : ToldByCode codes fun a => [issue a]) (condition : α → Bool) :
    ToldByCode codes fun a => Intake.issueIf (condition a) (issue a) :=
  h.of_subset fun a => by cases condition a <;> simp [Intake.issueIf]

/-- What is found in the cases that something is seen in. -/
theorem optional {found : β → List Issue} (h : ToldByCode codes found) (see? : α → Option β) :
    ToldByCode codes fun a => (see? a).elim [] found where
  bear a := by
    cases see? a with
    | none => exact .nil
    | some b => exact h.bear b
  alike a b i hi j hj hcode := by
    cases ha : see? a with
    | none => rw [ha] at hi; cases hi
    | some x =>
      cases hb : see? b with
      | none => rw [hb] at hj; cases hj
      | some y =>
        rw [ha] at hi
        rw [hb] at hj
        exact h.alike x y i hi j hj hcode

section

variable {site : Site} (hsecret : site.subject.secret = true) (code : ErrorCode)
  (constraint : Constraint) (standard expected : String) {value : α → Value}
  (hnull : ∀ a b, (value a).isNull = (value b).isNull)

include hsecret hnull

/-- A secret issue in words that do not depend on the case. -/
theorem issue :
    ToldByCode [code] fun a => [site.issue code constraint standard (value a) expected] where
  bear a := .single List.mem_cons_self
  alike a b i hi j hj _ := by
    obtain rfl := List.mem_singleton.mp hi
    obtain rfl := List.mem_singleton.mp hj
    have hnull := hnull a b
    simp only [Issue.detail, Site.issue, hsecret, hnull]
    cases hb : (value b).isNull with
    | false => rfl
    | true =>
      rw [hb] at hnull
      have hnone {v : Value} (h : v.isNull = true) : v = .null := by cases v <;> trivial
      simp [hnone hnull, hnone hb]

/-- A secret issue with more about it that does not depend on the case. -/
theorem issueWith (context : List (String × Value)) :
    ToldByCode [code] fun a =>
      [site.issueWith code constraint standard (value a) expected context] where
  bear a := .single List.mem_cons_self
  alike a b i hi j hj _ := by
    obtain rfl := List.mem_singleton.mp hi
    obtain rfl := List.mem_singleton.mp hj
    have hplain := (issue hsecret code constraint standard expected hnull).alike a b _
      List.mem_cons_self _ List.mem_cons_self rfl
    exact congrArg (fun detail => { detail with context := some context }) hplain

end

end ToldByCode

section

variable {site : Site} (hsecret : site.subject.secret = true) {type : String}

include hsecret

theorem NumberRule.toldByCode (rule : NumberRule) :
    ToldByCode [.tooSmall, .tooBig, .notInteger, .tooPrecise] (rule.issues site) := by
  have hnull : ∀ n m : Number, (Value.number n).isNull = (Value.number m).isNull := fun _ _ => rfl
  change ToldByCode ((([ErrorCode.tooSmall] ++ [ErrorCode.tooBig]) ++ [ErrorCode.notInteger]) ++
    [ErrorCode.tooPrecise]) _
  refine .append (.append (.append ?_ ?_ (by decide))
    (.issueIf (.issue hsecret _ _ _ _ hnull) _) (by decide)) ?_ (by decide)
  · cases rule.minimum with
    | none => exact .nil
    | some least => exact .issueIf (.issue hsecret _ _ _ _ hnull) _
  · cases rule.maximum with
    | none => exact .nil
    | some greatest => exact .issueIf (.issue hsecret _ _ _ _ hnull) _
  · cases rule.precision with
    | none => exact .nil
    | some places => exact .issueIf (.issue hsecret _ _ _ _ hnull) _

theorem DateRange.toldByCode {δ : Type} (range : DateRange δ) (isBefore : δ → δ → Bool) :
    ToldByCode [.tooSmall, .tooBig] fun seen : ValueOf type × δ =>
      range.issues isBefore site seen.1.1 seen.2 := by
  have hnull : ∀ seen other : ValueOf type × δ, seen.1.1.isNull = other.1.1.isNull :=
    fun seen other => seen.1.isNull_eq other.1
  change ToldByCode ([ErrorCode.tooSmall] ++ [ErrorCode.tooBig]) _
  refine .append ?_ ?_ (by decide)
  · cases range.earliest with
    | none => exact .nil
    | some bound => exact .issueIf (.issue hsecret _ _ _ _ hnull) _
  · cases range.latest with
    | none => exact .nil
    | some bound => exact .issueIf (.issue hsecret _ _ _ _ hnull) _

theorem FileRule.toldByCode (rule : FileRule) :
    ToldByCode [.fileTooLarge, .mimeTypeNotAllowed] fun part : Number × String =>
      rule.issues site part.1 part.2 := by
  change ToldByCode ([ErrorCode.fileTooLarge] ++ [ErrorCode.mimeTypeNotAllowed]) _
  refine .append ?_ ?_ (by decide)
  · cases rule.maxSize with
    | none => exact .nil
    | some greatest => exact .issueIf (.issue hsecret _ _ _ _ fun _ _ => rfl) _
  · cases rule.types with
    | none => exact .nil
    | some types => exact .issueIf (.issue hsecret _ _ _ _ fun _ _ => rfl) _

/-- A text is told of by the code alone, where the search for its pattern comes to an end. -/
theorem TextRule.toldByCode (rule : TextRule) :
    ToldByCode [.tooSmall, .tooBig, .patternMismatch, .invalidFormat] fun s : String =>
      (rule.issues site s).toOption.getD [] := by
  have hnull : ∀ s t : String, (Value.text s).isNull = (Value.text t).isNull := fun _ _ => rfl
  have hpattern : ToldByCode [.patternMismatch] fun s =>
      (rule.patternIssues site s).toOption.getD [] := by
    unfold patternIssues
    cases rule.pattern with
    | none => exact .nil
    | some found =>
      obtain ⟨text, pattern⟩ := found
      have hissue : ToldByCode [.patternMismatch] fun s => [patternIssue site text s] :=
        .issue hsecret _ _ _ _ hnull
      refine hissue.of_subset fun s => ?_
      cases hsearch : pattern.searchIn s <;> simp [hsearch, Except.toOption]
  have hshort : ToldByCode [.tooSmall] fun s => rule.minLength.elim [] fun least =>
      issueIf (s.length < least) (shortIssue site least rule.confidential s) := by
    cases rule.minLength with
    | none => exact .nil
    | some least => exact .issueIf (.issue hsecret _ _ _ _ hnull) _
  have hlong : ToldByCode [.tooBig] fun s => rule.maxLength.elim [] fun greatest =>
      issueIf (greatest < s.length) (longIssue site greatest s) := by
    cases rule.maxLength with
    | none => exact .nil
    | some greatest => exact .issueIf (.issue hsecret _ _ _ _ hnull) _
  have hformat : ToldByCode [.invalidFormat] fun s => rule.format.elim [] fun format =>
      issueIf (!format.accepts s) (formatIssue site format s) := by
    cases rule.format with
    | none => exact .nil
    | some format => exact .issueIf (.issue hsecret _ _ _ _ hnull) _
  -- The four groups bear different codes, so issues with the same code are of one group.
  refine (((hshort.append hlong (by decide)).append hpattern (by decide)).append hformat
    (by decide)).of_subset fun s => ?_
  unfold issues
  cases rule.patternIssues site s with
  | error failure => exact List.nil_subset _
  | ok byPattern =>
    cases rule.minLength <;> cases rule.maxLength <;> cases rule.format <;> exact List.Subset.refl _

/-- A wrong type is told by its code, since values of one type are compared. -/
theorem toldByCode_typeIssue (expected : String) :
    ToldByCode [.invalidType] fun v : ValueOf type => [site.typeIssue v.1 expected] := by
  have hshown : (fun v : ValueOf type => [site.typeIssue v.1 expected]) = fun v =>
      [site.issue .invalidType .type
        (site.label ++ " must be of type " ++ expected ++ ", got " ++ type) v.1 expected] := by
    funext v
    rw [Site.typeIssue, v.2]
  rw [hshown]
  exact .issue hsecret _ _ _ _ ValueOf.isNull_eq

theorem toldByCode_choiceIssue (values : List Value) :
    ToldByCode [.enumMismatch] fun v : ValueOf type => [site.choiceIssue v.1 values] :=
  .issueWith hsecret _ _ _ _ ValueOf.isNull_eq _

theorem toldByCode_dateIssue (expected : String) :
    ToldByCode [.invalidDate] fun v : ValueOf type => [LeafRule.dateIssue site expected v.1] :=
  .issue hsecret _ _ _ _ ValueOf.isNull_eq

/-- What a point in time was asked to be depends on the rule alone. -/
theorem toldByCode_timezoneIssue (timezone : Option TimezoneRule)
    (see? : ValueOf type → Option DateTime) :
    ToldByCode [.invalidTimezone] fun v =>
      ((see? v).bind fun t => timezone.bind (·.broken? t)).elim [] fun wanted =>
        [site.issue .invalidTimezone .timezone (site.label ++ " must be " ++ wanted) v.1 wanted] := by
  have hwanted : ∃ asked, ∀ t wanted, timezone.bind (·.broken? t) = some wanted → wanted = asked := by
    rcases timezone with - | (_ | _ | _)
    · exact ⟨"", fun t wanted h => by cases h⟩
    · refine ⟨"timezone-aware", fun t wanted h => ?_⟩
      simp only [Option.bind_some, TimezoneRule.broken?] at h
      split at h <;> simp_all
    · exact ⟨"", fun t wanted h => by cases h⟩
    · refine ⟨"in UTC", fun t wanted h => ?_⟩
      simp only [Option.bind_some, TimezoneRule.broken?] at h
      split at h <;> simp_all
  obtain ⟨asked, hasked⟩ := hwanted
  refine ToldByCode.of_subset (.issue hsecret .invalidTimezone .timezone
    (site.label ++ " must be " ++ asked) asked ValueOf.isNull_eq) fun v => ?_
  cases hseen : (see? v).bind fun t => timezone.bind (·.broken? t) with
  | none => exact List.nil_subset _
  | some wanted =>
    obtain ⟨t, -, ht⟩ := Option.bind_eq_some_iff.mp hseen
    obtain rfl := hasked t wanted ht
    exact List.Subset.refl _

namespace LeafRule

theorem toldByCode_text (rule : TextRule) (transform : Option Transform) :
    ToldByCode [.invalidType, .tooSmall, .tooBig, .patternMismatch, .invalidFormat]
      fun v : ValueOf type => foundBy ((LeafRule.text rule transform).run site v.1) := by
  refine ((toldByCode_typeIssue hsecret "string").append
    ((rule.toldByCode hsecret).optional fun v : ValueOf type => v.1.text?) (by decide)).of_subset
    fun ⟨v, _⟩ => ?_
  cases v with
  | text s =>
    change foundBy ((rule.issues site s).map _) ⊆ _ ++ (rule.issues site s).toOption.getD []
    cases rule.issues site s with
    | error failure => exact List.nil_subset _
    | ok issues => exact List.subset_append_right _ _
  | _ => exact List.subset_append_left _ _

theorem toldByCode_number (rule : NumberRule) :
    ToldByCode [.invalidType, .tooSmall, .tooBig, .notInteger, .tooPrecise]
      fun v : ValueOf type => foundBy ((LeafRule.number rule).run site v.1) := by
  refine ((toldByCode_typeIssue hsecret "number").append
    ((rule.toldByCode hsecret).optional fun v : ValueOf type => v.1.finite?) (by decide)).of_subset
    fun ⟨v, _⟩ => ?_
  simp only [run]
  cases v.finite? with
  | none => exact List.subset_append_left _ _
  | some n => exact List.subset_append_right _ _

theorem toldByCode_boolean :
    ToldByCode [.invalidType] fun v : ValueOf type => foundBy (LeafRule.boolean.run site v.1) :=
  (toldByCode_typeIssue hsecret "boolean").of_subset fun ⟨v, _⟩ => by
    simp only [run]
    cases v.isBool with
    | true => exact List.nil_subset _
    | false => exact List.Subset.refl _

theorem toldByCode_choice (values : List Value) :
    ToldByCode [.enumMismatch]
      fun v : ValueOf type => foundBy ((LeafRule.choice values).run site v.1) :=
  (toldByCode_choiceIssue hsecret values).of_subset fun ⟨v, _⟩ => by
    simp only [run]
    cases isMember v values with
    | true => exact List.nil_subset _
    | false => exact List.Subset.refl _

theorem toldByCode_date (range : DateRange Date) :
    ToldByCode [.invalidDate, .tooSmall, .tooBig]
      fun v : ValueOf type => foundBy ((LeafRule.date range).run site v.1) := by
  refine ((toldByCode_dateIssue hsecret "date").append
    ((range.toldByCode hsecret Date.isBefore).optional fun v : ValueOf type =>
      v.1.date?.map (v, ·)) (by decide)).of_subset fun ⟨v, _⟩ => ?_
  simp only [run]
  cases v.date? with
  | none => exact List.subset_append_left _ _
  | some d => exact List.subset_append_right _ _

theorem toldByCode_dateTime (range : DateRange DateTime) (timezone : Option TimezoneRule) :
    ToldByCode [.invalidDate, .invalidTimezone, .tooSmall, .tooBig]
      fun v : ValueOf type => foundBy ((LeafRule.dateTime range timezone).run site v.1) := by
  refine (((toldByCode_dateIssue hsecret "datetime").append
    (toldByCode_timezoneIssue hsecret timezone fun v => v.1.dateTime?) (by decide)).append
    ((range.toldByCode hsecret DateTime.isBefore).optional fun v : ValueOf type =>
      v.1.dateTime?.map (v, ·)) (by decide)).of_subset fun ⟨v, _⟩ => ?_
  simp only [run]
  cases v.dateTime? with
  | none => exact List.subset_append_of_subset_left _ (List.subset_append_left _ _)
  | some t =>
    simp only [Option.bind_some]
    cases timezone.bind (·.broken? t) with
    | none => exact List.subset_append_right _ _
    | some wanted => exact List.subset_append_of_subset_left _ (List.subset_append_right _ _)

theorem toldByCode_time :
    ToldByCode [.invalidTime] fun v : ValueOf type => foundBy (LeafRule.time.run site v.1) := by
  refine ToldByCode.of_subset (.issue hsecret .invalidTime .time
    (site.label ++ " must be in HH:MM or HH:MM:SS format") "HH:MM[:SS]" ValueOf.isNull_eq)
    fun ⟨v, _⟩ => ?_
  cases v with
  | time t => exact List.nil_subset _
  | text s =>
    simp only [run]
    split
    · exact List.nil_subset _
    · exact List.Subset.refl _
  | _ => exact List.Subset.refl _

theorem toldByCode_file (rule : FileRule) :
    ToldByCode [.invalidType, .fileTooLarge, .mimeTypeNotAllowed]
      fun v : ValueOf type => foundBy ((LeafRule.file rule).run site v.1) := by
  have hshape : ToldByCode [.invalidType] fun _ : ValueOf type =>
      [site.issue .invalidType .type (site.label ++ " must be a file with name, size and type") .null
        "file"] := .issue hsecret _ _ _ _ fun _ _ => rfl
  refine (hshape.append ((rule.toldByCode hsecret).optional fun v => FileRule.parts? v.1)
    (by decide)).of_subset fun ⟨v, _⟩ => ?_
  simp only [run]
  rcases FileRule.parts? v with - | ⟨size, fileType⟩
  · exact List.subset_append_left _ _
  · exact List.subset_append_right _ _

end LeafRule

end

end Intake
