import Intake.Proofs.Report.Redaction

/-!
# What redaction changes

Redaction replaces the values that it masks and keeps everything else: the keys in their order, in the
record and in every record that it goes into, and every other value as it is. Main statements: at every
place that redaction goes to it shows the entries there, masked ones replaced; two records have one
redaction exactly if they are the same apart from what is masked; and a redaction is its own redaction.
Whether all secrets are masked is not covered here.
-/

namespace Intake

/-- Redaction masks a value under a key: the key is to be hidden, and the value is neither null nor an
empty text. -/
def Masks (named : List String) (fields : FieldMap) (key : String) (v : Value) : Prop :=
  isHidden named (fields.lookup key) key = true ∧ v.isFilled = true

/-- The entries of the record that numbers of entries lead to, from record to record. -/
def entriesAt? (entries : List (String × Value)) : List Nat → Option (List (String × Value))
  | [] => some entries
  | i :: rest =>
    match entries[i]? with
    | some (_, .record inner) => entriesAt? inner rest
    | _ => none

/-- Redaction goes to the record at a place, with the keys that count as named there, the fields that
are declared there and the entries that stand there. -/
inductive GoesTo : List String → FieldMap → List (String × Value) → List Nat →
    List String → FieldMap → List (String × Value) → Prop where
  /-- It starts with the record itself. -/
  | here (named : List String) (fields : FieldMap) (entries : List (String × Value)) :
    GoesTo named fields entries [] named fields entries
  /-- It goes into a record under a key that is not hidden. -/
  | inside {named named' : List String} {fields fs : FieldMap}
    {entries inner es : List (String × Value)} {i : Nat} {place : List Nat} {key : String}
    (hat : entries[i]? = some (key, .record inner))
    (hopen : isHidden named (fields.lookup key) key = false)
    (h : GoesTo [] (fieldsOf (fields.lookup key)) inner place named' fs es) :
    GoesTo named fields entries (i :: place) named' fs es

/-- What is shown of entries: masked values are replaced, everything else but records stays. -/
structure ShowsEntries (named : List String) (fields : FieldMap)
    (entries shown : List (String × Value)) : Prop where
  /-- The keys are kept in their order. -/
  keys : shown.map (·.1) = entries.map (·.1)
  /-- What is masked is replaced. -/
  masked : ∀ (i : Nat) key v, entries[i]? = some (key, v) → Masks named fields key v →
    shown[i]? = some (key, Value.text redactedText)
  /-- What is not masked and no record is kept. -/
  kept : ∀ (i : Nat) key v, entries[i]? = some (key, v) → ¬ Masks named fields key v →
    (∀ inner, v ≠ .record inner) → shown[i]? = some (key, v)

/-- Two records are the same apart from values that redaction masks in both of them. -/
inductive SameUnmasked : List String → FieldMap → List (String × Value) → List (String × Value) →
    Prop where
  /-- Records without entries are the same. -/
  | nil (named : List String) (fields : FieldMap) : SameUnmasked named fields [] []
  /-- The values of an entry may differ if both of them are masked. -/
  | masked {named : List String} {fields : FieldMap} {key : String} {v w : Value}
    {rest others : List (String × Value)} (hv : Masks named fields key v)
    (hw : Masks named fields key w) (h : SameUnmasked named fields rest others) :
    SameUnmasked named fields ((key, v) :: rest) ((key, w) :: others)
  /-- Records that redaction goes into may differ in what it masks there. -/
  | inside {named : List String} {fields : FieldMap} {key : String}
    {inner inner' rest others : List (String × Value)}
    (hopen : isHidden named (fields.lookup key) key = false)
    (hin : SameUnmasked [] (fieldsOf (fields.lookup key)) inner inner')
    (h : SameUnmasked named fields rest others) :
    SameUnmasked named fields ((key, .record inner) :: rest) ((key, .record inner') :: others)
  /-- All other values are the same. -/
  | same {named : List String} {fields : FieldMap} {rest others : List (String × Value)}
    (key : String) (v : Value) (h : SameUnmasked named fields rest others) :
    SameUnmasked named fields ((key, v) :: rest) ((key, v) :: others)

section

variable {named : List String} {fields : FieldMap} {key : String} {v w : Value}

theorem shownEntry_of_masks (h : Masks named fields key v) :
    shownEntry named fields key v = .text redactedText := by
  rw [shownEntry, h.1, h.2]
  rfl

theorem shownEntry_of_not_masks (h : ¬ Masks named fields key v) :
    shownEntry named fields key v = redactValue (fieldsOf (fields.lookup key)) v := by
  rw [shownEntry, if_neg]
  rwa [Bool.and_eq_true]

/-- A record under a key that is not hidden is redacted by the fields that are declared for it. -/
theorem shownEntry_record_of_open {inner : List (String × Value)}
    (h : isHidden named (fields.lookup key) key = false) :
    shownEntry named fields key (.record inner) =
      .record (redactEntries [] (fieldsOf (fields.lookup key)) inner) := by
  rw [shownEntry_of_not_masks fun hm => absurd hm.1 (by simp [h]), redactValue]

/-- Redaction leaves alone what is no record. -/
theorem redactValue_of_ne_record (h : ∀ inner, v ≠ .record inner) : redactValue fields v = v := by
  cases v with
  | record inner => exact absurd rfl (h inner)
  | _ => rw [redactValue]; exact h

/-- Each entry is shown in its place. -/
theorem getElem?_redactEntries {entries : List (String × Value)} {i : Nat}
    (h : entries[i]? = some (key, v)) :
    (redactEntries named fields entries)[i]? = some (key, shownEntry named fields key v) := by
  rw [redactEntries_eq_map, List.getElem?_map, h]
  rfl

/-- Redaction shows the entries of a record. -/
theorem showsEntries_redactEntries (named : List String) (fields : FieldMap)
    (entries : List (String × Value)) :
    ShowsEntries named fields entries (redactEntries named fields entries) where
  keys := keys_redactEntries named fields entries
  masked i key v hat hm := by
    rw [getElem?_redactEntries hat, shownEntry_of_masks hm]
  kept i key v hat hm hv := by
    rw [getElem?_redactEntries hat, shownEntry_of_not_masks hm, redactValue_of_ne_record hv]

/-- At a place that redaction goes to, the redaction has the redacted entries of that place. -/
theorem entriesAt?_redactEntries {named' : List String} {fs : FieldMap}
    {entries es : List (String × Value)} {place : List Nat}
    (h : GoesTo named fields entries place named' fs es) :
    entriesAt? (redactEntries named fields entries) place = some (redactEntries named' fs es) := by
  induction h with
  | here => rfl
  | inside hat hopen _ ih =>
    rw [entriesAt?, getElem?_redactEntries hat, shownEntry_record_of_open hopen]
    exact ih

/-- Records that are the same apart from what is masked have one redaction. -/
theorem redactEntries_eq_of_sameUnmasked {entries others : List (String × Value)}
    (h : SameUnmasked named fields entries others) :
    redactEntries named fields entries = redactEntries named fields others := by
  induction h with
  | nil => rfl
  | masked hv hw _ ih =>
    rw [redactEntries_eq_map, redactEntries_eq_map] at ih ⊢
    rw [List.map_cons, List.map_cons, ih, shownEntry_of_masks hv, shownEntry_of_masks hw]
  | inside hopen _ _ ihin ih =>
    rw [redactEntries_eq_map, redactEntries_eq_map] at ih ⊢
    rw [List.map_cons, List.map_cons, ih, shownEntry_record_of_open hopen,
      shownEntry_record_of_open hopen, ihin]
  | same key v _ ih =>
    rw [redactEntries_eq_map, redactEntries_eq_map] at ih ⊢
    rw [List.map_cons, List.map_cons, ih]

theorem redactValue_eq_text_iff {s : String} : redactValue fields v = .text s ↔ v = .text s := by
  cases v with
  | record inner => simp [redactValue]
  | _ => rw [redactValue_of_ne_record (by simp)]

/-- What is not masked is not shown as what is masked. -/
theorem masks_of_shownEntry_eq (h : shownEntry named fields key v = shownEntry named fields key w)
    (hv : Masks named fields key v) : Masks named fields key w := by
  by_contra hw
  rw [shownEntry_of_masks hv, shownEntry_of_not_masks hw, eq_comm, redactValue_eq_text_iff] at h
  exact hw ⟨hv.1, by rw [h]; decide⟩

/-- Values are redacted to the same if they are the same, or records whose entries are redacted to the
same. -/
theorem exists_of_redactValue_eq (h : redactValue fields v = redactValue fields w) :
    v = w ∨ ∃ inner inner', v = .record inner ∧ w = .record inner' ∧
      redactEntries [] fields inner = redactEntries [] fields inner' := by
  cases v with
  | record inner =>
    cases w with
    | record inner' =>
      rw [redactValue, redactValue] at h
      exact .inr ⟨inner, inner', rfl, rfl, Value.record.inj h⟩
    | _ => simp [redactValue] at h
  | _ => cases w <;> simp_all [redactValue]

/-- Values that are shown alike are both masked, or the same, or records that redaction goes into. -/
theorem exists_of_shownEntry_eq
    (h : shownEntry named fields key v = shownEntry named fields key w) :
    (Masks named fields key v ∧ Masks named fields key w) ∨ v = w ∨
      ∃ inner inner', v = .record inner ∧ w = .record inner' ∧
        isHidden named (fields.lookup key) key = false ∧
        redactEntries [] (fieldsOf (fields.lookup key)) inner =
          redactEntries [] (fieldsOf (fields.lookup key)) inner' := by
  by_cases hv : Masks named fields key v
  · exact .inl ⟨hv, masks_of_shownEntry_eq h hv⟩
  · have hw : ¬ Masks named fields key w := fun hw => hv (masks_of_shownEntry_eq h.symm hw)
    rw [shownEntry_of_not_masks hv, shownEntry_of_not_masks hw] at h
    rcases exists_of_redactValue_eq h with heq | ⟨inner, inner', rfl, rfl, hinner⟩
    · exact .inr (.inl heq)
    · have hopen : isHidden named (fields.lookup key) key = false := by
        simpa [Masks, Value.isFilled] using hv
      exact .inr (.inr ⟨inner, inner', rfl, rfl, hopen, hinner⟩)

end

/-- Records that have one redaction are the same apart from what is masked. -/
theorem sameUnmasked_of_redactEntries_eq (named : List String) (fields : FieldMap)
    (entries others : List (String × Value))
    (h : redactEntries named fields entries = redactEntries named fields others) :
    SameUnmasked named fields entries others := by
  match entries, others with
  | [], [] => exact .nil named fields
  | [], (key, w) :: more => simp [redactEntries] at h
  | (key, v) :: rest, [] => simp [redactEntries] at h
  | (key, v) :: rest, (key', w) :: more =>
    rw [redactEntries_eq_map, redactEntries_eq_map, List.map_cons, List.map_cons,
      ← redactEntries_eq_map, ← redactEntries_eq_map] at h
    obtain ⟨hfirst, hrest⟩ := List.cons.inj h
    obtain ⟨rfl, hshown⟩ := Prod.mk.inj hfirst
    have hmore := sameUnmasked_of_redactEntries_eq named fields rest more hrest
    rcases exists_of_shownEntry_eq hshown with ⟨hv, hw⟩ | rfl | ⟨inner, inner', rfl, rfl, hopen, hin⟩
    · exact .masked hv hw hmore
    · exact .same key v hmore
    · exact .inside hopen (sameUnmasked_of_redactEntries_eq [] _ inner inner' hin) hmore
termination_by sizeOf entries

/-- A redaction is the same as the record apart from what is masked. -/
theorem sameUnmasked_redactEntries (named : List String) (fields : FieldMap)
    (entries : List (String × Value)) :
    SameUnmasked named fields entries (redactEntries named fields entries) := by
  cases entries with
  | nil => exact .nil named fields
  | cons entry rest =>
    obtain ⟨key, v⟩ := entry
    have hrest := sameUnmasked_redactEntries named fields rest
    rw [redactEntries_eq_map, List.map_cons, ← redactEntries_eq_map]
    by_cases hm : Masks named fields key v
    · rw [shownEntry_of_masks hm]
      exact .masked hm ⟨hm.1, by decide⟩ hrest
    · rw [shownEntry_of_not_masks hm]
      cases v with
      | record inner =>
        have hopen : isHidden named (fields.lookup key) key = false := by
          simpa [Masks, Value.isFilled] using hm
        rw [redactValue]
        exact .inside hopen (sameUnmasked_redactEntries [] _ inner) hrest
      | _ =>
        rw [redactValue_of_ne_record (by simp)]
        exact .same key _ hrest
termination_by sizeOf entries

/-- Redaction hides what it masks and keeps the rest: a redaction is its own redaction; at every place
that redaction goes to it shows the entries there, with the keys in their order, masked values replaced
and all other values but records as they are; and two records have one redaction exactly if they are
the same apart from values that are masked in both. -/
theorem redaction_masks_and_keeps (extra : List String) (fields : FieldMap)
    (data : List (String × Value)) :
    redactEntries extra fields (redactEntries extra fields data) = redactEntries extra fields data ∧
      (∀ place named fs es, GoesTo extra fields data place named fs es →
        ∃ shown, entriesAt? (redactEntries extra fields data) place = some shown ∧
          ShowsEntries named fs es shown) ∧
      ∀ others, redactEntries extra fields data = redactEntries extra fields others ↔
        SameUnmasked extra fields data others := by
  refine ⟨?_, ?_, ?_⟩
  · exact (redactEntries_eq_of_sameUnmasked (sameUnmasked_redactEntries extra fields data)).symm
  · intro place named fs es hgoes
    exact ⟨_, entriesAt?_redactEntries hgoes, showsEntries_redactEntries named fs es⟩
  · intro others
    exact ⟨sameUnmasked_of_redactEntries_eq extra fields data others,
      redactEntries_eq_of_sameUnmasked⟩

/-- A record in a record, with a secret in it and a text that is none. -/
theorem redaction_masks_and_keeps_inside :
    GoesTo [] [] [("auth", .record [("user", .text "u"), ("token", .text "t")])] [0]
        [] [] [("user", .text "u"), ("token", .text "t")] ∧
      ∃ shown, entriesAt? (redactEntries [] []
          [("auth", .record [("user", .text "u"), ("token", .text "t")])]) [0] = some shown ∧
        ShowsEntries [] [] [("user", .text "u"), ("token", .text "t")] shown := by
  have hopen : isHidden [] none "auth" = false := by
    simp [isHidden, looksSecret_of_short (by decide : "auth".toList.length < 5)]
  have hgoes : GoesTo [] [] [("auth", .record [("user", .text "u"), ("token", .text "t")])] [0]
      [] [] [("user", .text "u"), ("token", .text "t")] :=
    .inside rfl hopen (.here _ _ _)
  exact ⟨hgoes, (redaction_masks_and_keeps [] [] _).2.1 _ _ _ _ hgoes⟩

end Intake
