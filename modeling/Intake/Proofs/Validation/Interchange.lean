import Intake.Proofs.Calendar.IsoText
import Intake.Proofs.Validation.Temporal

/-!
# Dates and their texts

A field for dates or points in time takes a text for the date that it is the ISO form of. Main
statement: what becomes of a date or a point in time is what becomes of its text, unless the field is
for points in time and the offset is one of less than a second, which a text does not keep.
-/

namespace Intake

/-- A date or a point in time. -/
inductive DateValue where
  /-- A date. -/
  | date (d : Date)
  /-- A point in time. -/
  | dateTime (t : DateTime)

namespace DateValue

/-- A date or a point in time as a value. -/
def value : DateValue → Value
  | .date d => .date d
  | .dateTime t => .dateTime t

/-- The ISO form. -/
def isoText : DateValue → List Char
  | .date d => d.isoText
  | .dateTime t => t.isoText

/-- The ISO form as a value. -/
def text (m : DateValue) : Value := .text (String.ofList m.isoText)

/-- An offset from universal time, if there is one, is one of a second at least. -/
def KeepsOffset : DateValue → Prop
  | .date _ => True
  | .dateTime t => ∀ offset ∈ t.time.offset, offset = 0 ∨ 1000000 ≤ offset.natAbs

/-- What holds of digits and of the signs between numbers holds of all characters of a text. -/
theorem forall_mem_isoText {P : Char → Prop} (h : ∀ d < 10, P (digitCharacter d))
    (hsigns : P '-' ∧ P '+' ∧ P ':' ∧ P '.' ∧ P 'T') (m : DateValue) : ∀ c ∈ m.isoText, P c := by
  cases m with
  | date d => exact d.forall_mem_isoText h hsigns.1
  | dateTime t => exact t.forall_mem_isoText h hsigns

end DateValue

section Texts

variable {cs : List Char}

/-- A text without blanks has none to trim. -/
theorem trimBlanks_of_forall (h : ∀ c ∈ cs, isBlank c = false) : trimBlanks cs = cs := by
  have htrim (cs : List Char) (h : ∀ c ∈ cs, isBlank c = false) : trimStart cs = cs := by
    cases cs with
    | nil => rfl
    | cons c rest => exact List.dropWhile_cons_of_neg (by simp [h c List.mem_cons_self])
  rw [trimBlanks, htrim cs h, htrim cs.reverse fun c hc => h c (List.mem_reverse.mp hc),
    List.reverse_reverse]

/-- A text without a letter for universal time has none to replace. -/
theorem expandZulu_of_forall (h : ∀ c ∈ cs, c ≠ 'Z' ∧ c ≠ 'z') : expandZulu cs = cs := by
  unfold expandZulu
  split
  · rename_i before heq
    have hm : 'Z' ∈ cs := List.mem_reverse.mp (heq ▸ List.mem_cons_self)
    exact absurd rfl (h 'Z' hm).1
  · rename_i before heq
    have hm : 'z' ∈ cs := List.mem_reverse.mp (heq ▸ List.mem_cons_self)
    exact absurd rfl (h 'z' hm).2
  · rfl

end Texts

namespace DateValue

theorem trimBlanks_isoText (m : DateValue) : trimBlanks m.isoText = m.isoText :=
  trimBlanks_of_forall (m.forall_mem_isoText (by decide) (by decide))

/-- Reading a point in time from a text starts with the text itself. -/
theorem dateTimeOfText?_isoText (m : DateValue) :
    dateTimeOfText? (String.ofList m.isoText) = readIsoDateTime? (String.ofList m.isoText) := by
  have hexpand := expandZulu_of_forall (m.forall_mem_isoText (P := fun c => c ≠ 'Z' ∧ c ≠ 'z')
    (by decide) (by decide))
  rw [dateTimeOfText?, String.toList_ofList, m.trimBlanks_isoText, hexpand]

/-- A text that keeps the offset stands for the same point in time. -/
theorem dateTime?_text {m : DateValue} (h : m.KeepsOffset) : m.text.dateTime? = m.value.dateTime? := by
  rw [text, Value.dateTime?, m.dateTimeOfText?_isoText]
  cases m with
  | date d => exact readIsoDateTime?_isoText_date d
  | dateTime t =>
    rw [isoText, readIsoDateTime?_isoText, DateTime.readBack_eq_self h]
    rfl

/-- A text stands for the same date. -/
theorem date?_text (m : DateValue) : m.text.date? = m.value.date? := by
  have htrim : trimText (String.ofList m.isoText) = String.ofList m.isoText := by
    rw [trimText, String.toList_ofList, m.trimBlanks_isoText]
  simp only [text, Value.date?, htrim, m.dateTimeOfText?_isoText]
  cases m with
  | date d =>
    rw [isoText, readIsoDate?_isoText]
    rfl
  | dateTime t =>
    rw [isoText, readIsoDate?_isoText_dateTime, readIsoDateTime?_isoText]
    rfl

end DateValue

/-- Two outcomes report the same codes in the same order, and have the same output if there is nothing
to report. -/
structure Outcome.AgreesWith (o o' : Outcome) : Prop where
  /-- The codes. -/
  codes : o.issues.map (·.code) = o'.issues.map (·.code)
  /-- The output. -/
  output : o.isAccepted = true → o.output = o'.output

/-- The codes of a range tell of a date, and not of the value that stands for it. -/
theorem DateRange.codes_issues {α : Type} (range : DateRange α) (isBefore : α → α → Bool)
    (site : Site) (v v' : Value) (date : α) :
    (range.issues isBefore site v date).map (·.code) =
      (range.issues isBefore site v' date).map (·.code) := by
  have hone (condition : Bool) {issue issue' : Issue} (h : issue.code = issue'.code) :
      (issueIf condition issue).map (·.code) = (issueIf condition issue').map (·.code) := by
    cases condition with
    | true => exact congrArg (fun code => [code]) h
    | false => rfl
  unfold issues
  rw [List.map_append, List.map_append]
  congr 1
  · cases range.earliest with
    | none => rfl
    | some bound => exact hone _ rfl
  · cases range.latest with
    | none => rfl
    | some bound => exact hone _ rfl

namespace LeafRule

variable {v v' : Value}

/-- A rule for a date finds the same wrong with values that stand for the same. -/
theorem run_date_agrees (h : v.date? = v'.date?) (range : DateRange Date) (site : Site) :
    ∃ o o', (date range).run site v = .ok o ∧ (date range).run site v' = .ok o' ∧
      o.AgreesWith o' := by
  simp only [run, h]
  cases v'.date? with
  | none => exact ⟨_, _, rfl, rfl, rfl, fun h => by cases h⟩
  | some d => exact ⟨_, _, rfl, rfl, range.codes_issues Date.isBefore site v v' d, fun _ => rfl⟩

/-- A rule for a point in time finds the same wrong with values that stand for the same. -/
theorem run_dateTime_agrees (h : v.dateTime? = v'.dateTime?) (range : DateRange DateTime)
    (timezone : Option TimezoneRule) (site : Site) :
    ∃ o o', (dateTime range timezone).run site v = .ok o ∧
      (dateTime range timezone).run site v' = .ok o' ∧ o.AgreesWith o' := by
  simp only [run, h]
  cases v'.dateTime? with
  | none => exact ⟨_, _, rfl, rfl, rfl, fun h => by cases h⟩
  | some t =>
    cases hzone : timezone.bind (·.broken? t) with
    | none =>
      simp only [hzone]
      exact ⟨_, _, rfl, rfl, range.codes_issues DateTime.isBefore site v v' t, fun _ => rfl⟩
    | some wanted =>
      simp only [hzone]
      exact ⟨_, _, rfl, rfl, rfl, fun h => by cases h⟩

end LeafRule

/-- A field for dates or points in time without enumerated values makes of a date or a point in time
what it makes of its ISO text, unless the field is for points in time and the offset from universal
time is one of less than a second. -/
theorem Definition.agrees_on_isoText {d : Definition} {label : String} {check : Check}
    (hk : d.kind ∈ [.date, .dateTime]) (hvalues : d.attributes.ownValues = none)
    (hc : d.compile label = .ok check) {m : DateValue} (hoffset : d.kind = .dateTime → m.KeepsOffset)
    (options : Options) (path : DataPath) :
    ∃ o o', check.run options path m.value = .ok o ∧ check.run options path m.text = .ok o' ∧
      o.AgreesWith o' := by
  have hw : d.IsWhole := ⟨fun h => by simp [h] at hk, fun h => by simp [h] at hk⟩
  obtain ⟨rule, hrule, rfl⟩ := exists_of_compile_whole hw hc
  simp only [Check.run_leaf_of_none (Compile.members_eq_none label hvalues)]
  change d.attributes.kind ∈ _ at hk
  change d.attributes.kind = _ → _ at hoffset
  unfold Compile.leafRule at hrule
  rcases List.mem_pair.mp hk with hk | hk
  · rw [hk] at hrule
    obtain ⟨range, -, h⟩ := exists_of_bind_eq_ok hrule
    cases h
    exact LeafRule.run_date_agrees m.date?_text.symm range _
  · rw [hk] at hrule
    obtain ⟨range, -, h⟩ := exists_of_bind_eq_ok hrule
    cases h
    exact LeafRule.run_dateTime_agrees (DateValue.dateTime?_text (hoffset hk)).symm range _ _

/-- The check of a field for points in time. -/
def instantCheck : Check :=
  .leaf (Compile.subject "d" (Definition.ofKind .dateTime).attributes) (.dateTime ⟨none, none⟩ none)

/-- Noon of a day in summer, by a clock that is an offset ahead of universal time. -/
def summerNoon (offset : Int) (h : offset.natAbs < microsecondsPerDay) : DateTime :=
  ⟨⟨2024, 6, 1, by decide⟩, ⟨12, 0, 0, 0, some offset, by
    refine ⟨by decide, by decide, by decide, by decide, fun o ho => ?_⟩
    cases ho
    exact h⟩⟩

/-- An offset of an hour and half a second is kept by the text. -/
theorem Definition.agrees_on_isoText_hour :
    (Definition.ofKind .dateTime).compile "d" = .ok instantCheck ∧
      ∃ o o', instantCheck.run .standard [.key "d"]
          (DateValue.dateTime (summerNoon 3600500000 (by decide))).value = .ok o ∧
        instantCheck.run .standard [.key "d"]
          (DateValue.dateTime (summerNoon 3600500000 (by decide))).text = .ok o' ∧
        o.AgreesWith o' := by
  have hkeeps : (DateValue.dateTime (summerNoon 3600500000 (by decide))).KeepsOffset := by
    intro offset ho
    cases ho
    decide
  exact ⟨rfl, agrees_on_isoText (d := .ofKind .dateTime) (by decide) rfl rfl (fun _ => hkeeps)
    .standard [.key "d"]⟩

/-- An offset of half a second is kept by a value and not by its text. -/
theorem not_agrees_on_isoText_halfSecond :
    (Definition.ofKind .dateTime).compile "d" = .ok instantCheck ∧
      ∃ o o', instantCheck.run .standard [.key "d"]
          (DateValue.dateTime (summerNoon 500000 (by decide))).value = .ok o ∧
        instantCheck.run .standard [.key "d"]
          (DateValue.dateTime (summerNoon 500000 (by decide))).text = .ok o' ∧ ¬ o.AgreesWith o' := by
  have hread : (DateValue.dateTime (summerNoon 500000 (by decide))).text.dateTime? =
      some (summerNoon 0 (by decide)) := by
    rw [DateValue.text, Value.dateTime?, DateValue.dateTimeOfText?_isoText, DateValue.isoText,
      readIsoDateTime?_isoText]
    rfl
  refine ⟨rfl, .accept (.dateTime (summerNoon 500000 (by decide))),
    .accept (.dateTime (summerNoon 0 (by decide))), ?_, ?_, fun hagrees => ?_⟩
  · rw [instantCheck, Check.run_leaf_of_none rfl]
    rfl
  · rw [instantCheck, Check.run_leaf_of_none rfl, LeafRule.run, hread]
    rfl
  · have hsame := Value.dateTime.inj (hagrees.output rfl)
    exact absurd hsame (by decide)

end Intake
