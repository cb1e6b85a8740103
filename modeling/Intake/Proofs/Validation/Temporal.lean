import Intake.Proofs.Number.Text
import Intake.Proofs.Validation.Order

/-!
# What becomes of dates and times

A date or a point in time that was made of a value stands for itself. A time of day becomes its text
in full, with its fraction of a second and its offset, and a field for times of day takes neither in
a text. Main statement: what a field for dates or times makes of a value it accepts and leaves as it
is, unless the value is a time of day with a fraction of a second or an offset.
-/

namespace Intake

/-- Two digits of a number below twenty-four are an hour. -/
theorem isHour_paddedText : ∀ n < 24, Format.isHour (paddedText 2 n) = true := by decide +kernel

/-- Two digits of a number below sixty are a minute or a second. -/
theorem isSixtieth_paddedText : ∀ n < 60, Format.isSixtieth (paddedText 2 n) = true := by
  decide +kernel

theorem colon_notMem_paddedText : ∀ n < 60, ':' ∉ paddedText 2 n := by decide +kernel

theorem length_of_isSixtieth {cs : List Char} (h : Format.isSixtieth cs = true) : cs.length = 2 := by
  unfold Format.isSixtieth at h
  split at h
  · rfl
  · cases h

theorem isDigit_of_mem_paddedText {width n : Nat} {c : Char} (h : c ∈ paddedText width n) :
    c.isDigit = true := by
  rcases List.mem_append.mp h with h | h
  · rw [List.eq_of_mem_replicate h]
    rfl
  · exact isDigit_of_mem_naturalText n c h

theorem newline_notMem_paddedText (width n : Nat) : '\n' ∉ paddedText width n :=
  fun h => absurd (isDigit_of_mem_paddedText h) (by decide)

theorem newline_notMem_fractionText (microsecond : Nat) : '\n' ∉ fractionText microsecond := by
  unfold fractionText
  split
  · exact List.not_mem_nil
  · simp [newline_notMem_paddedText]

theorem newline_notMem_offsetText (offset : Int) : '\n' ∉ offsetText offset := by
  have hfraction := newline_notMem_fractionText (offset.natAbs % 1000000)
  unfold offsetText
  dsimp only
  split <;> split <;> simp [newline_notMem_paddedText, hfraction]

namespace ClockTime

theorem newline_notMem_isoText (t : ClockTime) : '\n' ∉ t.isoText := by
  have hoffset : '\n' ∉ (t.offset.map offsetText).getD [] := by
    cases t.offset with
    | none => exact List.not_mem_nil
    | some offset => exact newline_notMem_offsetText offset
  simp [isoText, newline_notMem_paddedText, newline_notMem_fractionText, hoffset]

/-- What follows hours and minutes in a time of day are two digits of seconds. -/
theorem isClockTime_append_iff {hour minute : List Char} (hhour : Format.isHour hour = true)
    (hminute : Format.isSixtieth minute = true) (hh : ':' ∉ hour) (hm : ':' ∉ minute)
    (rest : List Char) :
    Format.isClockTime (hour ++ ':' :: (minute ++ ':' :: rest)) = true ↔
      ':' ∉ rest ∧ Format.isSixtieth rest = true := by
  unfold Format.isClockTime
  rw [splitParts_append_cons hh, splitParts_append_cons hm]
  by_cases hcolon : ':' ∈ rest
  · obtain ⟨before, after, rfl, hbefore⟩ := List.eq_append_cons_of_mem hcolon
    rw [splitParts_append_cons hbefore]
    cases hparts : splitParts ':' after with
    | nil => exact absurd hparts (splitParts_ne_nil ':' after)
    | cons part parts => simp
  · rw [splitParts_of_notMem hcolon]
    simp [hhour, hminute, hcolon]

/-- The text of a time of day has the form of hours, minutes and seconds exactly if there is neither
a fraction of a second nor an offset. -/
theorem isClockTimeText_isoText_iff (t : ClockTime) :
    isClockTimeText (String.ofList t.isoText) = true ↔ t.microsecond = 0 ∧ t.offset = none := by
  obtain ⟨hhour, hminute, hsecond, -⟩ := t.valid
  have hiff := isClockTime_append_iff (isHour_paddedText _ hhour) (isSixtieth_paddedText _ hminute)
    (colon_notMem_paddedText _ (hhour.trans (by decide))) (colon_notMem_paddedText _ hminute)
    (paddedText 2 t.second ++ fractionText t.microsecond ++ (t.offset.map offsetText).getD [])
  have htext : t.isoText = paddedText 2 t.hour ++ ':' :: (paddedText 2 t.minute ++ ':' ::
      (paddedText 2 t.second ++ fractionText t.microsecond ++
        (t.offset.map offsetText).getD [])) := by
    simp [isoText]
  rw [isClockTimeText, String.toList_ofList, dropFinalNewline_of_notMem t.newline_notMem_isoText,
    htext, hiff]
  have hsixtieth := isSixtieth_paddedText _ hsecond
  constructor
  · rintro ⟨-, h⟩
    -- Two digits leave no room for more.
    have hlength := length_of_isSixtieth h
    rw [List.append_assoc, List.length_append, length_of_isSixtieth hsixtieth] at hlength
    obtain ⟨hfraction, hoffset⟩ := List.append_eq_nil_iff.mp
      (List.length_eq_zero_iff.mp (Nat.add_eq_left.mp hlength))
    constructor
    · unfold fractionText at hfraction
      split at hfraction
      · assumption
      · cases hfraction
    · cases ho : t.offset with
      | none => rfl
      | some offset => simp [ho, offsetText] at hoffset
  · rintro ⟨hmicrosecond, hoffset⟩
    simp [hmicrosecond, hoffset, fractionText, hsixtieth, colon_notMem_paddedText _ hsecond]

end ClockTime

/-- What a check makes of a value that it accepts, it accepts and leaves as it is. -/
def Check.StableOn (check : Check) (v : Value) : Prop :=
  ∀ options path w, check.run options path v = .ok (.accept w) →
    check.run options path w = .ok (.accept w)

/-- Without enumerated members, a check does what its rule does. -/
theorem Check.run_leaf_of_none {subject : Subject} (h : subject.members = none) (rule : LeafRule)
    (options : Options) (path : DataPath) (v : Value) :
    (leaf subject rule).run options path v = rule.run ⟨subject, options, path⟩ v := by
  have hsame : Site.withMembers ⟨subject, options, path⟩ v = id :=
    funext fun o => Site.withMembers_of_none h v o
  rw [run_leaf, hsame, Except.map_id]
  rfl

namespace LeafRule

/-- Whether a date lies in its range does not depend on the value that stands for it. -/
theorem issues_range_eq_nil {α : Type} {range : DateRange α} {isBefore : α → α → Bool} {site : Site}
    {v : Value} {date : α} (h : range.issues isBefore site v date = []) (w : Value) :
    range.issues isBefore site w date = [] := by
  rwa [DateRange.issues_eq_nil_iff] at h ⊢

/-- The date that a value stands for is accepted as it is. -/
theorem run_date_of_accept {range : DateRange Date} {site : Site} {v w : Value}
    (h : (date range).run site v = .ok (.accept w)) : (date range).run site w = .ok (.accept w) := by
  simp only [run] at h
  split at h
  · rename_i d hd
    obtain ⟨rfl, hissues⟩ := Outcome.mk.inj (Except.ok.inj h)
    simp only [run, Value.date?_date, issues_range_eq_nil hissues]
    rfl
  · cases h

/-- The point in time that a value stands for is accepted as it is. -/
theorem run_dateTime_of_accept {range : DateRange DateTime} {timezone : Option TimezoneRule}
    {site : Site} {v w : Value} (h : (dateTime range timezone).run site v = .ok (.accept w)) :
    (dateTime range timezone).run site w = .ok (.accept w) := by
  simp only [run] at h
  split at h
  · rename_i t ht
    split at h
    · cases h
    · rename_i hzone
      obtain ⟨rfl, hissues⟩ := Outcome.mk.inj (Except.ok.inj h)
      simp only [run, Value.dateTime?_dateTime, hzone, issues_range_eq_nil hissues]
      rfl
  · cases h

/-- A text that is a time of day is accepted as it is, and no other text is. -/
theorem run_time_text_iff (site : Site) (s : String) :
    time.run site (.text s) = .ok (.accept (.text s)) ↔ isClockTimeText s = true := by
  cases h : isClockTimeText s <;> simp [run, Value.text?, h, Outcome.accept, Outcome.reject]

/-- A value that is accepted as a time of day is one, or a text that is left as it is. -/
theorem run_time_of_accept {site : Site} {v w : Value} (h : time.run site v = .ok (.accept w)) :
    (∃ t, v = .time t ∧ w = .text (String.ofList t.isoText)) ∨ v = w := by
  simp only [run] at h
  split at h
  · rename_i t
    cases h
    exact .inl ⟨t, rfl, rfl⟩
  · split at h
    · cases h
      exact .inr rfl
    · cases h

end LeafRule

/-- A field for dates or times without enumerated values accepts what it made of a value and leaves
it as it is, unless the value is a time of day with a fraction of a second or an offset. -/
theorem Definition.stableOn_iff {d : Definition} {label : String} {check : Check}
    (hk : d.kind ∈ [.date, .dateTime, .time]) (hvalues : d.attributes.ownValues = none)
    (hc : d.compile label = .ok check) (v : Value) :
    check.StableOn v ↔
      (d.kind = .time → ∀ t, v = .time t → t.microsecond = 0 ∧ t.offset = none) := by
  have hw : d.IsWhole := ⟨fun h => by simp [h] at hk, fun h => by simp [h] at hk⟩
  obtain ⟨rule, hrule, rfl⟩ := exists_of_compile_whole hw hc
  simp only [Check.StableOn, Check.run_leaf_of_none (Compile.members_eq_none label hvalues)]
  change d.attributes.kind ∈ _ at hk
  change _ ↔ (d.attributes.kind = .time → _)
  unfold Compile.leafRule at hrule
  simp only [List.mem_cons, List.not_mem_nil, or_false] at hk
  rcases hk with hk | hk | hk
  · rw [hk] at hrule
    obtain ⟨range, -, h⟩ := exists_of_bind_eq_ok hrule
    cases h
    exact iff_of_true (fun _ _ _ => LeafRule.run_date_of_accept) (by simp [hk])
  · rw [hk] at hrule
    obtain ⟨range, -, h⟩ := exists_of_bind_eq_ok hrule
    cases h
    exact iff_of_true (fun _ _ _ => LeafRule.run_dateTime_of_accept) (by simp [hk])
  · rw [hk] at hrule
    cases hrule
    constructor
    · rintro hstable - t rfl
      rw [← ClockTime.isClockTimeText_isoText_iff,
        ← LeafRule.run_time_text_iff ⟨Compile.subject label d.attributes, .standard, []⟩]
      exact hstable .standard [] _ rfl
    · intro h options path w haccept
      rcases LeafRule.run_time_of_accept haccept with ⟨t, rfl, rfl⟩ | rfl
      · rw [LeafRule.run_time_text_iff, ClockTime.isClockTimeText_isoText_iff]
        exact h hk t rfl
      · exact haccept

/-- The check of a field for times of day. -/
def clockCheck : Check :=
  .leaf (Compile.subject "t" (Definition.ofKind .time).attributes) .time

/-- Ten o'clock. -/
def fullHour : ClockTime := ⟨10, 0, 0, 0, none, by decide⟩

/-- Half a second past ten. -/
def halfSecond : ClockTime := ⟨10, 0, 0, 500000, none, by decide⟩

/-- Ten o'clock is accepted as the text that it becomes. -/
theorem Definition.stableOn_fullHour :
    (Definition.ofKind .time).compile "t" = .ok clockCheck ∧ clockCheck.StableOn (.time fullHour) :=
  ⟨rfl, (stableOn_iff (d := .ofKind .time) (by decide) rfl rfl (.time fullHour)).mpr
    fun _ t ht => by cases ht; exact ⟨rfl, rfl⟩⟩

/-- Half a second past ten becomes a text that its own field refuses. -/
theorem not_stableOn_halfSecond :
    (Definition.ofKind .time).compile "t" = .ok clockCheck ∧
      clockCheck.run .standard [.key "t"] (.time halfSecond) =
        .ok (.accept (.text "10:00:00.500000")) ∧
      clockCheck.run .standard [.key "t"] (.text "10:00:00.500000") ≠
        .ok (.accept (.text "10:00:00.500000")) ∧
      ¬ clockCheck.StableOn (.time halfSecond) := by
  have htext : String.ofList halfSecond.isoText = "10:00:00.500000" := by decide +kernel
  have hrun : clockCheck.run .standard [.key "t"] (.time halfSecond) =
      .ok (.accept (.text "10:00:00.500000")) := by
    rw [← htext, clockCheck, Check.run_leaf_of_none rfl]
    rfl
  have hrefused : clockCheck.run .standard [.key "t"] (.text "10:00:00.500000") ≠
      .ok (.accept (.text "10:00:00.500000")) := by
    rw [clockCheck, Check.run_leaf_of_none rfl, ne_eq, LeafRule.run_time_text_iff]
    decide +kernel
  exact ⟨rfl, hrun, hrefused, fun hstable => hrefused (hstable _ _ _ hrun)⟩

end Intake
