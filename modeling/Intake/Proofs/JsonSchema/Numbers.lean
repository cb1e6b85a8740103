import Intake.JsonSchema.Check
import Intake.Proofs.Results
import Mathlib.Data.List.InsertIdx

/-!
# Values in which all numbers are numbers

Items are compared, sorted and told apart by an equality of numbers, and equalities that agree on
numbers may differ on what is none. Main statement: whether items in which all numbers are numbers are
distinct does not depend on whether all that is no number is one thing.
-/

namespace Intake

mutual

/-- Something in a value is no number. -/
def Value.hasNaN (v : Value) : Bool :=
  match v with
  | .number n => n.isNaN
  | .list items => itemsHaveNaN items
  | .record entries => entriesHaveNaN entries
  | _ => false

/-- Something in an item is no number. -/
def itemsHaveNaN (items : List Value) : Bool :=
  match items with
  | [] => false
  | item :: rest => item.hasNaN || itemsHaveNaN rest

/-- Something in the value of an entry is no number. -/
def entriesHaveNaN (entries : List (String × Value)) : Bool :=
  match entries with
  | [] => false
  | (_, value) :: rest => value.hasNaN || entriesHaveNaN rest

end

theorem hasNaN_of_mem {items : List Value} (h : itemsHaveNaN items = false) {v : Value}
    (hm : v ∈ items) : v.hasNaN = false := by
  induction items with
  | nil => cases hm
  | cons item rest ih =>
    obtain ⟨hitem, hrest⟩ := Bool.or_eq_false_iff.mp h
    rcases List.mem_cons.mp hm with rfl | hm
    · exact hitem
    · exact ih hrest hm

theorem hasNaN_of_mem_entries {entries : List (String × Value)} (h : entriesHaveNaN entries = false)
    {entry : String × Value} (hm : entry ∈ entries) : entry.2.hasNaN = false := by
  induction entries with
  | nil => cases hm
  | cons first rest ih =>
    obtain ⟨hfirst, hrest⟩ := Bool.or_eq_false_iff.mp h
    rcases List.mem_cons.mp hm with rfl | hm
    · exact hfirst
    · exact ih hrest hm

namespace Value

variable {same same' : Number → Number → Bool}

/-- Two equalities of numbers agree where the first one is a number. -/
def AgreeOnNumbers (same same' : Number → Number → Bool) : Prop :=
  ∀ m n : Number, m.isNaN = false → same m n = same' m n

mutual

theorem countsAsBy_congr (hsame : AgreeOnNumbers same same') (a b : Value) (ha : a.hasNaN = false) :
    countsAsBy same a b = countsAsBy same' a b := by
  match a with
  | .null | .text _ | .date _ | .dateTime _ | .time _ => rfl
  | .bool x =>
    unfold countsAsBy
    cases b.counted? with
    | none => rfl
    | some n => exact hsame _ n rfl
  | .number m =>
    unfold countsAsBy
    cases b.counted? with
    | none => rfl
    | some n => exact hsame m n ha
  | .list items =>
    cases b with
    | list others => exact itemsCountAsBy_congr hsame items others ha
    | _ => rfl
  | .record entries =>
    cases b with
    | record others =>
      rw [countsAsBy, countsAsBy, entriesCountInBy_congr hsame entries others ha]
    | _ => rfl

theorem itemsCountAsBy_congr (hsame : AgreeOnNumbers same same') (items others : List Value)
    (h : itemsHaveNaN items = false) :
    itemsCountAsBy same items others = itemsCountAsBy same' items others := by
  match items, others with
  | [], _ => rfl
  | _ :: _, [] => rfl
  | item :: rest, other :: more =>
    obtain ⟨hitem, hrest⟩ := Bool.or_eq_false_iff.mp h
    rw [itemsCountAsBy, itemsCountAsBy, countsAsBy_congr hsame item other hitem,
      itemsCountAsBy_congr hsame rest more hrest]

theorem entriesCountInBy_congr (hsame : AgreeOnNumbers same same')
    (entries others : List (String × Value)) (h : entriesHaveNaN entries = false) :
    entriesCountInBy same entries others = entriesCountInBy same' entries others := by
  match entries with
  | [] => rfl
  | (key, value) :: rest =>
    obtain ⟨hvalue, hrest⟩ := Bool.or_eq_false_iff.mp h
    rw [entriesCountInBy, entriesCountInBy, entriesCountInBy_congr hsame rest others hrest]
    cases others.lookup key with
    | none => rfl
    | some other => simp only [countsAsBy_congr hsame value other hvalue]

end

mutual

theorem matchesJsonBy_congr (hsame : AgreeOnNumbers same same') (a b : Value)
    (ha : a.hasNaN = false) : matchesJsonBy same a b = matchesJsonBy same' a b := by
  match a with
  | .null | .text _ | .date _ | .dateTime _ | .time _ | .bool _ | .number _ =>
    rw [matchesJsonBy, matchesJsonBy, sameAsBy, sameAsBy, countsAsBy_congr hsame _ b ha] <;>
      exact fun _ heq => by cases heq
  | .list items =>
    cases b with
    | list others => exact itemsMatchJsonBy_congr hsame items others ha
    | _ => rfl
  | .record entries =>
    cases b with
    | record others =>
      rw [matchesJsonBy, matchesJsonBy, entriesMatchJsonBy_congr hsame entries others ha]
    | _ => rfl

theorem itemsMatchJsonBy_congr (hsame : AgreeOnNumbers same same') (items others : List Value)
    (h : itemsHaveNaN items = false) :
    itemsMatchJsonBy same items others = itemsMatchJsonBy same' items others := by
  match items, others with
  | [], _ => rfl
  | _ :: _, [] => rfl
  | item :: rest, other :: more =>
    obtain ⟨hitem, hrest⟩ := Bool.or_eq_false_iff.mp h
    rw [itemsMatchJsonBy, itemsMatchJsonBy, matchesJsonBy_congr hsame item other hitem,
      itemsMatchJsonBy_congr hsame rest more hrest]

theorem entriesMatchJsonBy_congr (hsame : AgreeOnNumbers same same')
    (entries others : List (String × Value)) (h : entriesHaveNaN entries = false) :
    entriesMatchJsonBy same entries others = entriesMatchJsonBy same' entries others := by
  match entries with
  | [] => rfl
  | (key, value) :: rest =>
    obtain ⟨hvalue, hrest⟩ := Bool.or_eq_false_iff.mp h
    rw [entriesMatchJsonBy, entriesMatchJsonBy, entriesMatchJsonBy_congr hsame rest others hrest]
    cases others.lookup key with
    | none => rfl
    | some other => simp only [matchesJsonBy_congr hsame value other hvalue]

end

mutual

theorem isLess?_congr (hsame : AgreeOnNumbers same same') (a b : Value) (ha : a.hasNaN = false) :
    isLess? same a b = isLess? same' a b := by
  match a with
  | .list items =>
    cases b with
    | list others => exact isLessList?_congr hsame items others ha
    | _ => rfl
  | .null | .text _ | .date _ | .dateTime _ | .time _ | .bool _ | .number _ | .record _ => rfl

theorem isLessList?_congr (hsame : AgreeOnNumbers same same') (items others : List Value)
    (h : itemsHaveNaN items = false) :
    isLessList? same items others = isLessList? same' items others := by
  match items, others with
  | [], _ => rfl
  | _ :: _, [] => rfl
  | item :: rest, other :: more =>
    obtain ⟨hitem, hrest⟩ := Bool.or_eq_false_iff.mp h
    rw [isLessList?, isLessList?, countsAsBy_congr hsame item other hitem,
      isLessList?_congr hsame rest more hrest, isLess?_congr hsame item other hitem]

end

section Sorting

variable {less less' : PartialOrder}

/-- Two orders agree on what is less than one of some items, or not. -/
def AgreeOnItems (less less' : PartialOrder) (items : List Value) : Prop :=
  ∀ item ∈ items, less item = less' item

theorem placeBetween_congr {item : Value} (h : less item = less' item) (sorted : Array Value)
    (low high : Nat) :
    placeBetween less item sorted low high = placeBetween less' item sorted low high := by
  fun_induction placeBetween less item sorted low high with
  | case1 low high hlt middle hless =>
    rw [placeBetween, if_pos hlt, ← h]
    simp only [middle, hless]
  | case2 low high hlt middle hless ih =>
    rw [ih, placeBetween.eq_def less' item sorted low high, if_pos hlt, ← h]
    simp only [middle, hless]
  | case3 low high hlt middle hless ih =>
    rw [ih, placeBetween.eq_def less' item sorted low high, if_pos hlt, ← h]
    simp only [middle, hless]
  | case4 low high hlt => rw [placeBetween, if_neg hlt]

theorem sortInto_congr {items : List Value} (h : AgreeOnItems less less' items)
    (sorted : Array Value) : sortInto less sorted items = sortInto less' sorted items := by
  induction items generalizing sorted with
  | nil => rfl
  | cons item rest ih =>
    obtain ⟨hitem, hrest⟩ := List.forall_mem_cons.mp h
    simp only [sortInto, placeBetween_congr hitem, ih hrest]

theorem spanRun_congr {items : List Value} (h : AgreeOnItems less less' items) (falling : Bool)
    (last : Value) : spanRun less falling last items = spanRun less' falling last items := by
  induction items generalizing last with
  | nil => rfl
  | cons item rest ih =>
    obtain ⟨hitem, hrest⟩ := List.forall_mem_cons.mp h
    simp only [spanRun, hitem, ih hrest]

theorem sorted?_congr {items : List Value} (h : AgreeOnItems less less' items) :
    sorted? less items = sorted? less' items := by
  match items with
  | [] => rfl
  | [_] => rfl
  | first :: second :: rest =>
    have hrest : AgreeOnItems less less' rest := fun item hm =>
      h item (List.mem_cons_of_mem _ (List.mem_cons_of_mem _ hm))
    rw [sorted?, sorted?, h second (by simp)]
    cases less' second first with
    | none => rfl
    | some falling =>
      simp only [Option.bind_eq_bind, Option.bind_some, spanRun_congr hrest]
      cases hspan : spanRun less' falling second rest with
      | none => rfl
      | some pair =>
        obtain ⟨run, after⟩ := pair
        have hafter : AgreeOnItems less less' after := fun item hm =>
          hrest item (spanRun_append hspan ▸ List.mem_append_right run hm)
        simp only [Option.bind_some, sortInto_congr hafter]

theorem mem_of_sortInto {items : List Value} {sorted result : Array Value}
    (h : sortInto less sorted items = some result) {v : Value} (hm : v ∈ result.toList) :
    v ∈ sorted.toList ∨ v ∈ items := by
  induction items generalizing sorted with
  | nil =>
    cases h
    exact .inl hm
  | cons item rest ih =>
    obtain ⟨place, -, h⟩ := Option.bind_eq_some_iff.mp h
    rcases ih h with hm | hm
    · rw [← sorted.toArray_toList, List.insertIdxIfInBounds_toArray, List.toList_toArray] at hm
      rcases List.eq_or_mem_of_mem_insertIdx hm with rfl | hm
      · exact .inr List.mem_cons_self
      · exact .inl hm
    · exact .inr (List.mem_cons_of_mem _ hm)

/-- What is sorted are the items. -/
theorem mem_of_sorted? {items sorted : List Value} (h : sorted? less items = some sorted) {v : Value}
    (hm : v ∈ sorted) : v ∈ items := by
  match items with
  | [] | [_] =>
    cases h
    exact hm
  | first :: second :: rest =>
    obtain ⟨falling, -, h⟩ := Option.bind_eq_some_iff.mp h
    obtain ⟨⟨run, after⟩, hspan, h⟩ := Option.bind_eq_some_iff.mp h
    obtain ⟨result, hresult, h⟩ := Option.bind_eq_some_iff.mp h
    cases h
    rw [← spanRun_append hspan]
    rcases mem_of_sortInto hresult hm with hm | hm
    · have hstart : v ∈ first :: second :: run := by
        cases falling with
        | true => exact List.mem_reverse.mp hm
        | false => exact hm
      exact (List.cons_subset_cons first (List.cons_subset_cons second
        (List.subset_append_left run after))) hstart
    · exact List.mem_cons_of_mem _ (List.mem_cons_of_mem _ (List.mem_append_right run hm))

end Sorting

theorem neighboursDiffer_congr (hsame : AgreeOnNumbers same same') {items : List Value}
    (h : ∀ item ∈ items, item.hasNaN = false) :
    neighboursDiffer same items = neighboursDiffer same' items := by
  match items with
  | [] | [_] => rfl
  | a :: b :: rest =>
    rw [neighboursDiffer, neighboursDiffer, matchesJsonBy_congr hsame a b (h a List.mem_cons_self),
      neighboursDiffer_congr hsame fun item hm => h item (List.mem_cons_of_mem a hm)]

theorem allDiffer_congr (hsame : AgreeOnNumbers same same') {items : List Value}
    (h : ∀ item ∈ items, item.hasNaN = false) : allDiffer same items = allDiffer same' items := by
  induction items with
  | nil => rfl
  | cons item rest ih =>
    obtain ⟨hitem, hrest⟩ := List.forall_mem_cons.mp h
    have hmatches : matchesJsonBy same item = matchesJsonBy same' item :=
      funext fun other => matchesJsonBy_congr hsame item other hitem
    rw [allDiffer, allDiffer, hmatches, ih hrest]

/-- Whether items are distinct does not depend on what is no number if there is nothing of the kind. -/
theorem areDistinct_eq {items : List Value} (h : itemsHaveNaN items = false) (shares shares' : Bool) :
    areDistinct shares items = areDistinct shares' items := by
  have hsame : AgreeOnNumbers (Number.sameAsSharing shares) (Number.sameAsSharing shares') := by
    intro m n hm
    simp [Number.sameAsSharing, hm]
  have hless : AgreeOnItems (sortsBefore? (Number.sameAsSharing shares))
      (sortsBefore? (Number.sameAsSharing shares')) items := by
    intro item hm
    funext other
    rw [sortsBefore?, sortsBefore?, isLess?_congr hsame item other (hasNaN_of_mem h hm)]
  unfold areDistinct
  dsimp only
  rw [sorted?_congr hless]
  split
  · next sorted hsorted =>
    exact neighboursDiffer_congr hsame fun item hm => hasNaN_of_mem h (mem_of_sorted? hsorted hm)
  · exact allDiffer_congr hsame fun item hm => hasNaN_of_mem h hm

end Value

end Intake
