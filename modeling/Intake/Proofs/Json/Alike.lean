import Intake.Proofs.Json.Canonical

/-!
# What canonical texts hide

A canonical text hides the order of the entries of its records, and a date or a time has the text of
another value. Values are alike if they agree in these. Main statement: alike values with the same
text are the same.
-/

namespace Intake

/-- What is found under a key is what stands there, if no key stands twice. -/
theorem lookup_of_mem {α : Type} {entries : List (String × α)} {key : String} {a : α}
    (hkeys : (entries.map (·.1)).Nodup) (hm : (key, a) ∈ entries) :
    entries.lookup key = some a := by
  induction entries with
  | nil => cases hm
  | cons entry rest ih =>
    obtain ⟨name, b⟩ := entry
    obtain ⟨hname, hrest⟩ := List.nodup_cons.mp hkeys
    rcases List.mem_cons.mp hm with heq | hmem
    · cases heq
      rw [List.lookup_cons, BEq.rfl]
    · have hne : key ≠ name := fun heq => hname (heq ▸ List.mem_map_of_mem (f := (·.1)) hmem)
      rw [List.lookup_cons, beq_eq_false_iff_ne.mpr hne]
      exact ih hrest hmem

/-- What is found under a key stands there. -/
theorem mem_of_lookup {α : Type} {entries : List (String × α)} {key : String} {a : α}
    (h : entries.lookup key = some a) : (key, a) ∈ entries := by
  obtain ⟨before, after, rfl, -⟩ := List.lookup_eq_some_iff.mp h
  exact List.mem_append_right _ List.mem_cons_self

/-- A date, a point in time or a time of day. -/
def Value.IsTemporal : Value → Prop
  | .date _ | .dateTime _ | .time _ => True
  | _ => False

mutual

/-- Two values agree in what their texts hide: in the order of the entries of records that stand at
the same place, and in dates and times. -/
def Value.Alike (v w : Value) : Prop :=
  match v, w with
  | .list items, .list items' => itemsAlike items items'
  | .record entries, .record entries' => entriesAlike entries entries'
  | v, w => v.IsTemporal ∨ w.IsTemporal → v = w

/-- Items at the same place are alike. -/
def itemsAlike (items items' : List Value) : Prop :=
  match items, items' with
  | item :: rest, item' :: rest' => item.Alike item' ∧ itemsAlike rest rest'
  | _, _ => True

/-- Entries at the same place have the same key, and alike values. -/
def entriesAlike (entries entries' : List (String × Value)) : Prop :=
  match entries, entries' with
  | (key, v) :: rest, (key', v') :: rest' => key = key' ∧ v.Alike v' ∧ entriesAlike rest rest'
  | _, _ => True

end

mutual

/-- A value is like itself. -/
theorem Value.alike_refl (v : Value) : v.Alike v := by
  match v with
  | .list items => exact itemsAlike_refl items
  | .record entries => exact entriesAlike_refl entries
  | .null | .bool _ | .number _ | .text _ | .date _ | .dateTime _ | .time _ => exact fun _ => rfl

theorem itemsAlike_refl (items : List Value) : itemsAlike items items := by
  match items with
  | [] => trivial
  | item :: rest => exact ⟨item.alike_refl, itemsAlike_refl rest⟩

theorem entriesAlike_refl (entries : List (String × Value)) : entriesAlike entries entries := by
  match entries with
  | [] => trivial
  | (key, v) :: rest => exact ⟨rfl, v.alike_refl, entriesAlike_refl rest⟩

end

namespace Json

/-- The type of a value whose text starts with a character. -/
def typeOfStart (c : Char) : String :=
  if c = 'n' then "null"
  else if c = 't' ∨ c = 'f' then "boolean"
  else if c = '"' then "string"
  else if c = '[' then "array"
  else if c = '\x7b' then "object"
  else "number"

/-- The start of the text of a value tells its type, dates and times apart. -/
theorem exists_canonical_eq_cons {v : Value} (hv : ¬ v.IsTemporal) :
    ∃ c rest, canonical v = c :: rest ∧ typeOfStart c = v.typeName := by
  cases v with
  | null => exact ⟨'n', _, rfl, rfl⟩
  | bool b =>
    cases b with
    | true => exact ⟨'t', _, rfl, rfl⟩
    | false => exact ⟨'f', _, rfl, rfl⟩
  | number n =>
    obtain ⟨c, rest, hc, hstart⟩ := exists_text_eq_cons n
    refine ⟨c, rest, hc, ?_⟩
    have hne {x : Char} (hx : ¬ (x = '-' ∨ x.isDigit = true ∨ x = 'N' ∨ x = 'I')) : c ≠ x := by
      rintro rfl
      exact hx hstart
    unfold typeOfStart
    rw [if_neg (hne (by decide)), if_neg (not_or.mpr ⟨hne (by decide), hne (by decide)⟩),
      if_neg (hne (by decide)), if_neg (hne (by decide)), if_neg (hne (by decide))]
    rfl
  | text s => exact ⟨'"', _, rfl, rfl⟩
  | list items => exact ⟨'[', _, rfl, rfl⟩
  | record entries => exact ⟨'\x7b', _, rfl, rfl⟩
  | date d => exact absurd trivial hv
  | dateTime t => exact absurd trivial hv
  | time t => exact absurd trivial hv

/-- Values with the same text have the same type, dates and times apart. -/
theorem typeName_eq {v w : Value} (hv : ¬ v.IsTemporal) (hw : ¬ w.IsTemporal)
    (h : canonical v = canonical w) : v.typeName = w.typeName := by
  obtain ⟨c, rest, hc, hv⟩ := exists_canonical_eq_cons hv
  obtain ⟨c', rest', hc', hw⟩ := exists_canonical_eq_cons hw
  rw [hc, hc'] at h
  rw [← hv, ← hw, (List.cons.inj h).1]

theorem keyAtMost_antisymm {a b : String × List Char} (hab : keyAtMost a b = true)
    (hba : keyAtMost b a = true) : a.1 = b.1 := by
  simp only [keyAtMost, Bool.not_eq_true', decide_eq_false_iff_not] at hab hba
  exact String.le_antisymm hab hba

theorem canonical_record_congr {entries entries' : List (String × Value)}
    (h : canonicalEntries entries = canonicalEntries entries') :
    canonical (.record entries) = canonical (.record entries') := by
  rw [canonical, canonical, h]

/-- The text of a record hides the order of its entries, if no key stands twice. -/
theorem canonical_record_of_perm {entries entries' : List (String × Value)}
    (hperm : (canonicalEntries entries).Perm (canonicalEntries entries'))
    (hkeys : ((canonicalEntries entries).map Prod.fst).Nodup) :
    canonical (.record entries) = canonical (.record entries') := by
  have hsorted (parts : List (String × List Char)) :
      (parts.mergeSort keyAtMost).Pairwise fun a b => keyAtMost a b = true :=
    List.pairwise_mergeSort keyAtMost_trans keyAtMost_total parts
  have heq : (canonicalEntries entries).mergeSort keyAtMost =
      (canonicalEntries entries').mergeSort keyAtMost := by
    refine List.Perm.eq_of_pairwise (fun a b ha hb hab hba => ?_) (hsorted _) (hsorted _)
      ((List.mergeSort_perm _ _).trans (hperm.trans (List.mergeSort_perm _ _).symm))
    exact List.inj_on_of_nodup_map hkeys (List.mem_mergeSort.mp ha)
      (hperm.mem_iff.mpr (List.mem_mergeSort.mp hb)) (keyAtMost_antisymm hab hba)
  rw [canonical, canonical, heq]

/-- What stands under the keys of two sequences is the same if they have the same keys in the same
order and the same under each key. -/
theorem eq_of_filter_eq {α : Type} {parts parts' : List (String × α)}
    (hkeys : parts.map Prod.fst = parts'.map Prod.fst)
    (h : ∀ key, parts.filter (fun part => decide (part.1 = key)) =
      parts'.filter fun part => decide (part.1 = key)) : parts = parts' := by
  induction parts generalizing parts' with
  | nil =>
    cases parts' with
    | nil => rfl
    | cons part' rest' => cases hkeys
  | cons part rest ih =>
    cases parts' with
    | nil => cases hkeys
    | cons part' rest' =>
      obtain ⟨hkey, hrest⟩ := List.cons.inj hkeys
      have hhead := h part.1
      rw [List.filter_cons_of_pos (by simp), List.filter_cons_of_pos (by simp [hkey])] at hhead
      obtain ⟨rfl, -⟩ := List.cons.inj hhead
      rw [ih hrest fun key => ?_]
      by_cases hk : part.1 = key
      · have htail := h key
        rw [List.filter_cons_of_pos (by simpa using hk),
          List.filter_cons_of_pos (by simpa using hk)] at htail
        exact (List.cons.inj htail).2
      · have htail := h key
        rwa [List.filter_cons_of_neg (by simpa using hk),
          List.filter_cons_of_neg (by simpa using hk)] at htail

/-- Alike values are the same if one of them is a date or a time. -/
theorem eq_of_temporal {v w : Value} (ha : v.Alike w) (ht : v.IsTemporal ∨ w.IsTemporal) :
    v = w := by
  cases v with
  | list items =>
    cases w with
    | list items' => simp [Value.IsTemporal] at ht
    | _ => exact ha ht
  | record entries =>
    cases w with
    | record entries' => simp [Value.IsTemporal] at ht
    | _ => exact ha ht
  | _ => exact ha ht

/-- Alike entries have the same keys, if there are as many. -/
theorem keys_eq_of_entriesAlike {entries entries' : List (String × Value)}
    (ha : entriesAlike entries entries')
    (hlength : (canonicalEntries entries).length = (canonicalEntries entries').length) :
    (canonicalEntries entries).map Prod.fst = (canonicalEntries entries').map Prod.fst := by
  match entries, entries' with
  | [], [] => rfl
  | [], _ :: _ => simp [canonicalEntries] at hlength
  | _ :: _, [] => simp [canonicalEntries] at hlength
  | (key, v) :: rest, (key', v') :: rest' =>
    obtain ⟨rfl, -, hrest⟩ := ha
    exact congrArg (key :: ·) (keys_eq_of_entriesAlike hrest (Nat.succ.inj hlength))

/-- Alike records with the same text have the same texts in the same order. -/
theorem canonicalEntries_eq_of_alike {entries entries' : List (String × Value)}
    (ha : entriesAlike entries entries')
    (h : canonical (.record entries) = canonical (.record entries')) :
    canonicalEntries entries = canonicalEntries entries' := by
  have hsorted := sortedEntries_eq h
  refine eq_of_filter_eq (keys_eq_of_entriesAlike ha ?_) fun key => ?_
  · simpa using congrArg List.length hsorted
  · rw [← filter_mergeSort, hsorted, filter_mergeSort]

theorem bool_injective {b b' : Bool} (h : canonical (.bool b) = canonical (.bool b')) : b = b' := by
  cases b <;> cases b' <;> first | rfl | exact absurd h (by decide)

mutual

/-- Alike values with the same text are the same. -/
theorem eq_of_alike (v w : Value) (ha : v.Alike w) (h : canonical v = canonical w) : v = w := by
  by_cases ht : v.IsTemporal ∨ w.IsTemporal
  · exact eq_of_temporal ha ht
  obtain ⟨hv, hw⟩ := not_or.mp ht
  have htype := typeName_eq hv hw h
  match v with
  | .null =>
    cases w with
    | null => rfl
    | _ => exact absurd htype (by simp [Value.typeName])
  | .bool b =>
    cases w with
    | bool b' => rw [bool_injective h]
    | _ => exact absurd htype (by simp [Value.typeName])
  | .number n =>
    cases w with
    | number n' => exact congrArg Value.number (text_number_injective h)
    | _ => exact absurd htype (by simp [Value.typeName])
  | .text s =>
    cases w with
    | text s' => exact congrArg Value.text (stringText_append_injective (congrArg (· ++ []) h)).1
    | _ => exact absurd htype (by simp [Value.typeName])
  | .list items =>
    cases w with
    | list items' =>
      exact congrArg Value.list (eq_of_itemsAlike items items' ha (canonicalItems_eq h))
    | _ => exact absurd htype (by simp [Value.typeName])
  | .record entries =>
    cases w with
    | record entries' =>
      exact congrArg Value.record
        (eq_of_entriesAlike entries entries' ha (canonicalEntries_eq_of_alike ha h))
    | _ => exact absurd htype (by simp [Value.typeName])
  | .date _ | .dateTime _ | .time _ => exact absurd trivial hv

theorem eq_of_itemsAlike (items items' : List Value) (ha : itemsAlike items items')
    (h : canonicalItems items = canonicalItems items') : items = items' := by
  match items, items' with
  | [], [] => rfl
  | [], _ :: _ => cases h
  | _ :: _, [] => cases h
  | item :: rest, item' :: rest' =>
    obtain ⟨hitem, hrest⟩ := List.cons.inj h
    rw [eq_of_alike item item' ha.1 hitem, eq_of_itemsAlike rest rest' ha.2 hrest]

theorem eq_of_entriesAlike (entries entries' : List (String × Value))
    (ha : entriesAlike entries entries')
    (h : canonicalEntries entries = canonicalEntries entries') : entries = entries' := by
  match entries, entries' with
  | [], [] => rfl
  | [], _ :: _ => cases h
  | _ :: _, [] => cases h
  | (key, v) :: rest, (key', v') :: rest' =>
    obtain ⟨hentry, hrest⟩ := List.cons.inj h
    obtain ⟨rfl, hv⟩ := Prod.mk.inj hentry
    rw [eq_of_alike v v' ha.2.1 hv, eq_of_entriesAlike rest rest' ha.2.2 hrest]

end

end Json

end Intake
