import Intake.Proofs.Field.Location
import Intake.Report.Redaction

/-!
# How far redaction reaches

What is to be hidden of a record may stand at any depth: in records inside it, through entries and
through lists. Redaction follows entries, not lists, and the keys that are named as secret besides
count for the outermost record alone. Main statement: in the redacted record everything that is to be
hidden is masked exactly if no entry that redaction comes to further in bears a key named as secret,
and no list that it comes to holds anything to be hidden, what is null, empty or the replacement of a
secret apart.
-/

namespace Intake

/-- The definition of a record with fields. -/
def Definition.ofFields (fields : FieldMap) : Definition :=
  ⟨.ofKind .object, .undeclared, .of fields⟩

/-- The fields that a definition declares for the entries of a record, none if there is no
definition. -/
def fieldsOf (d : Option Definition) : FieldMap := (d.map (·.propertyFields)).getD []

/-- The definition of the items of a list, if there is one. -/
def itemOf (d : Option Definition) : Option Definition := d.bind (·.items.value?)

namespace Value

/-- A record stands inside a value, or is the value: it has these entries, for which these fields are
declared by the definition that is reached. -/
inductive Holds : Option Definition → Value → FieldMap → List (String × Value) → Prop where
  /-- A record holds itself. -/
  | here (d : Option Definition) (entries : List (String × Value)) :
    Holds d (.record entries) (fieldsOf d) entries
  /-- It holds what its entries hold. -/
  | entry {d : Option Definition} {entries es : List (String × Value)} {fs : FieldMap} {key : String}
    {v : Value} (hm : (key, v) ∈ entries) (h : Holds ((fieldsOf d).lookup key) v fs es) :
    Holds d (.record entries) fs es
  /-- A list holds what its items hold. -/
  | item {d : Option Definition} {items : List Value} {es : List (String × Value)} {fs : FieldMap}
    {v : Value} (hm : v ∈ items) (h : Holds (itemOf d) v fs es) : Holds d (.list items) fs es

/-- A value shows nothing of a secret: it is the replacement of one, null or an empty text. -/
def IsMasked (v : Value) : Prop := v = .text redactedText ∨ v = .null ∨ v = .text ""

/-- Everything inside a value that is to be hidden is masked, where some keys are named as secret. -/
def Masked (extra : List String) (d : Option Definition) (v : Value) : Prop :=
  ∀ fs es, Holds d v fs es → ∀ key w, (key, w) ∈ es → isHidden extra (fs.lookup key) key = true →
    w.IsMasked

variable {extra : List String} {d : Option Definition}

/-- Everything to be hidden in a record is masked if it is so in each of its entries, and if those are
that are to be hidden. -/
theorem masked_record_iff {entries : List (String × Value)} :
    (record entries).Masked extra d ↔ ∀ key v, (key, v) ∈ entries →
      (isHidden extra ((fieldsOf d).lookup key) key = true → v.IsMasked) ∧
        v.Masked extra ((fieldsOf d).lookup key) := by
  constructor
  · exact fun h key v hm => ⟨h _ _ (.here d entries) key v hm,
      fun fs es hin => h fs es (.entry hm hin)⟩
  · intro h fs es hin key w hw
    cases hin with
    | here => exact (h key w hw).1
    | entry hm hin => exact (h _ _ hm).2 fs es hin key w hw

/-- A value that is neither a record nor a list holds nothing. -/
theorem masked_of_flat {v : Value} (hrecord : ∀ entries, v ≠ .record entries)
    (hlist : ∀ items, v ≠ .list items) : v.Masked extra d := by
  intro fs es hin
  cases hin with
  | here => exact absurd rfl (hrecord _)
  | entry => exact absurd rfl (hrecord _)
  | item => exact absurd rfl (hlist _)

end Value

/-- Redaction comes to the entries of a record inside others, with the keys that count as named
there and the fields declared there. It goes through entries that are not hidden. -/
inductive ComesTo : List String → FieldMap → List (String × Value) →
    List String → FieldMap → List (String × Value) → Prop where
  /-- It starts with the entries of the record. -/
  | here (named : List String) (fields : FieldMap) (entries : List (String × Value)) :
    ComesTo named fields entries named fields entries
  /-- It goes on with a record under one of its keys, where no keys count as named. -/
  | inside {named named' : List String} {fields fs : FieldMap}
    {entries inner es : List (String × Value)} {key : String} (hm : (key, .record inner) ∈ entries)
    (hopen : isHidden named (fields.lookup key) key = false)
    (h : ComesTo [] (fieldsOf (fields.lookup key)) inner named' fs es) :
    ComesTo named fields entries named' fs es

/-- An entry that is not replaced shows nothing that is to be hidden: if its key is named as secret it
is masked, and if it is a list everything in it that is to be hidden is. -/
structure ShowsNone (extra : List String) (field : Option Definition) (key : String) (v : Value) :
    Prop where
  /-- An entry under a key that is named is masked. -/
  named : key ∈ extra → v.IsMasked
  /-- What is to be hidden in a list is masked. -/
  list : ∀ items, v = .list items → v.Masked extra field

/-- Nothing that is to be hidden is shown by entries that redaction comes to and does not replace. -/
def NothingMissed (extra named : List String) (fields : FieldMap) (entries : List (String × Value)) :
    Prop :=
  ∀ named' fs es, ComesTo named fields entries named' fs es → ∀ key v, (key, v) ∈ es →
    isHidden named' (fs.lookup key) key = false → ShowsNone extra (fs.lookup key) key v

section

variable {extra named : List String} {fields : FieldMap} {entries : List (String × Value)}

/-- Nothing is missed if nothing is missed in any entry that is not replaced. -/
theorem nothingMissed_iff :
    NothingMissed extra named fields entries ↔ ∀ key v, (key, v) ∈ entries →
      isHidden named (fields.lookup key) key = false →
        ShowsNone extra (fields.lookup key) key v ∧ ∀ inner, v = .record inner →
          NothingMissed extra [] (fieldsOf (fields.lookup key)) inner := by
  constructor
  · intro h key v hm hopen
    refine ⟨h _ _ _ (.here named fields entries) key v hm hopen, ?_⟩
    rintro inner rfl named' fs es hcomes
    exact h named' fs es (.inside hm hopen hcomes)
  · intro h named' fs es hcomes key v hm hopen
    cases hcomes with
    | here => exact (h key v hm hopen).1
    | inside hm' hopen' hcomes =>
      exact (h _ _ hm' hopen').2 _ rfl named' fs es hcomes key v hm hopen

/-- What redaction shows of an entry. -/
def shownEntry (named : List String) (fields : FieldMap) (key : String) (v : Value) : Value :=
  if isHidden named (fields.lookup key) key && v.isFilled then .text redactedText
  else redactValue (fieldsOf (fields.lookup key)) v

theorem redactEntries_eq_map (named : List String) (fields : FieldMap)
    (entries : List (String × Value)) :
    redactEntries named fields entries =
      entries.map fun entry => (entry.1, shownEntry named fields entry.1 entry.2) := by
  induction entries with
  | nil => rfl
  | cons entry rest ih =>
    obtain ⟨key, v⟩ := entry
    rw [redactEntries, ih]
    rfl

/-- What is not filled is null or an empty text. -/
theorem isMasked_of_not_filled {v : Value} (h : v.isFilled = false) : v.IsMasked := by
  cases v with
  | null => exact .inr (.inl rfl)
  | text s =>
    have hs : s = "" := by simpa [Value.isFilled] using h
    exact .inr (.inr (congrArg Value.text hs))
  | _ => cases h

/-- What is hidden of an entry is masked, and holds nothing. -/
theorem masked_shownEntry_of_hidden {field : Option Definition} {key : String} (v : Value)
    (h : isHidden named (fields.lookup key) key = true) :
    (shownEntry named fields key v).IsMasked ∧ (shownEntry named fields key v).Masked extra field := by
  have hmasked : (shownEntry named fields key v).IsMasked := by
    unfold shownEntry
    rw [h, Bool.true_and]
    cases hfilled : v.isFilled with
    | true => exact .inl rfl
    | false =>
      rcases isMasked_of_not_filled hfilled with rfl | rfl | rfl
      · exact .inl rfl
      · exact .inr (.inl rfl)
      · exact .inr (.inr rfl)
  refine ⟨hmasked, ?_⟩
  rcases hmasked with heq | heq | heq <;> rw [heq] <;> exact Value.masked_of_flat nofun nofun

/-- An entry that is not hidden at its place is to be hidden if its key is named. -/
theorem isHidden_iff_of_open {field : Option Definition} {key : String}
    (h : isHidden named field key = false) : isHidden extra field key = true ↔ key ∈ extra := by
  simp only [isHidden, Bool.or_eq_false_iff] at h
  simp [isHidden, h]

/-- What is to be hidden in an entry that is not hidden itself is masked if nothing is missed in it,
where this is known of the records in it. -/
theorem masked_shownEntry_iff_of_open {key : String} {v : Value}
    (hopen : isHidden named (fields.lookup key) key = false)
    (ih : ∀ inner, v = .record inner →
      ((Value.record (redactEntries [] (fieldsOf (fields.lookup key)) inner)).Masked extra
        (fields.lookup key) ↔ NothingMissed extra [] (fieldsOf (fields.lookup key)) inner)) :
    ((isHidden extra (fields.lookup key) key = true → (shownEntry named fields key v).IsMasked) ∧
        (shownEntry named fields key v).Masked extra (fields.lookup key)) ↔
      ShowsNone extra (fields.lookup key) key v ∧ ∀ inner, v = .record inner →
        NothingMissed extra [] (fieldsOf (fields.lookup key)) inner := by
  have hshown : shownEntry named fields key v = redactValue (fieldsOf (fields.lookup key)) v := by
    rw [shownEntry, hopen]
    rfl
  rw [hshown, isHidden_iff_of_open hopen]
  -- A record is redacted further, and is not masked itself; everything else is shown as it is.
  cases v with
  | record inner =>
    have hrecord (entries : List (String × Value)) : ¬ (Value.record entries).IsMasked := by
      rintro (h | h | h) <;> cases h
    rw [redactValue, ih inner rfl]
    constructor
    · rintro ⟨hnamed, hinner⟩
      refine ⟨⟨fun hm => absurd (hnamed hm) (hrecord _), nofun⟩, fun _ heq => ?_⟩
      cases heq
      exact hinner
    · rintro ⟨hnone, hinner⟩
      exact ⟨fun hm => absurd (hnone.named hm) (hrecord _), hinner inner rfl⟩
  | list items =>
    constructor
    · rintro ⟨hnamed, hitems⟩
      refine ⟨⟨hnamed, fun _ _ => hitems⟩, nofun⟩
    · rintro ⟨hnone, -⟩
      exact ⟨hnone.named, hnone.list items rfl⟩
  | _ =>
    constructor
    · rintro ⟨hnamed, -⟩
      exact ⟨⟨hnamed, nofun⟩, nofun⟩
    · rintro ⟨hnone, -⟩
      exact ⟨hnone.named, Value.masked_of_flat nofun nofun⟩

end

/-- What is to be hidden in a redacted record is masked exactly if nothing is missed. -/
theorem masked_redactEntries_iff (extra named : List String) (d : Option Definition)
    (entries : List (String × Value)) :
    (Value.record (redactEntries named (fieldsOf d) entries)).Masked extra d ↔
      NothingMissed extra named (fieldsOf d) entries := by
  rw [Value.masked_record_iff, nothingMissed_iff, redactEntries_eq_map]
  have hentry (key : String) (v : Value) (hm : (key, v) ∈ entries) :
      ((isHidden extra ((fieldsOf d).lookup key) key = true →
          (shownEntry named (fieldsOf d) key v).IsMasked) ∧
        (shownEntry named (fieldsOf d) key v).Masked extra ((fieldsOf d).lookup key)) ↔
      (isHidden named ((fieldsOf d).lookup key) key = false →
        ShowsNone extra ((fieldsOf d).lookup key) key v ∧ ∀ inner, v = .record inner →
          NothingMissed extra [] (fieldsOf ((fieldsOf d).lookup key)) inner) := by
    -- Only what is not hidden is gone into: a replacement has no parts.
    cases hhidden : isHidden named ((fieldsOf d).lookup key) key with
    | true =>
      obtain ⟨hmasked, hinside⟩ := masked_shownEntry_of_hidden v hhidden
      exact ⟨fun _ => nofun, fun _ => ⟨fun _ => hmasked, hinside⟩⟩
    | false =>
      rw [masked_shownEntry_iff_of_open hhidden fun inner heq =>
        masked_redactEntries_iff extra [] _ inner]
      exact ⟨fun h _ => h, fun h => h rfl⟩
  constructor
  · exact fun h key v hm => (hentry key v hm).mp (h key _ (List.mem_map_of_mem hm))
  · intro h key w hw
    obtain ⟨⟨key', v⟩, hm, heq⟩ := List.mem_map.mp hw
    cases heq
    exact (hentry key' v hm).mpr (h key' v hm)
termination_by sizeOf entries
decreasing_by
  have hlt := List.sizeOf_lt_of_mem hm
  subst heq
  simp at hlt
  omega

/-- In a redacted record everything that is to be hidden is masked, at every depth, exactly if nothing
is missed: no entry that redaction comes to inside bears a key that is named as secret, and no list
that it comes to holds anything to be hidden, what is masked already apart. -/
theorem redaction_complete_iff (extra : List String) (fields : FieldMap)
    (data : List (String × Value)) :
    (Value.record (redactEntries extra fields data)).Masked extra (some (.ofFields fields)) ↔
      NothingMissed extra extra fields data :=
  masked_redactEntries_iff extra extra (some (.ofFields fields)) data

theorem length_le_of_startsWithWord {word cs : List Char} (h : startsWithWord word cs = true) :
    word.length ≤ cs.length := by
  induction word generalizing cs with
  | nil => exact Nat.zero_le _
  | cons w word ih =>
    cases cs with
    | nil => cases h
    | cons c rest =>
      rw [startsWithWord, Bool.and_eq_true] at h
      exact Nat.succ_le_succ (ih h.2)

theorem length_le_of_containsWord {word cs : List Char} (h : containsWord word cs = true) :
    word.length ≤ cs.length := by
  induction cs with
  | nil =>
    rw [containsWord, List.isEmpty_iff] at h
    rw [h]
  | cons c rest ih =>
    rw [containsWord, Bool.or_eq_true] at h
    rcases h with h | h
    · exact length_le_of_startsWithWord h
    · exact Nat.le_succ_of_le (ih h)

/-- A key that is shorter than the words for credentials does not look like one. -/
theorem looksSecret_of_short {key : String} (h : key.toList.length < 5) : looksSecret key = false := by
  have hwords : ∀ word ∈ credentialWords, 5 ≤ word.toList.length := by decide
  rw [looksSecret, List.any_eq_false]
  intro word hm hin
  exact absurd ((hwords word hm).trans (length_le_of_containsWord hin)) (Nat.not_le.mpr h)

/-- A list of records with a secret. -/
def secretItems : Definition where
  attributes := .ofKind .array
  items := .of
    { attributes := .ofKind .object
      items := .undeclared
      properties := .of
        [("p", ⟨{ FieldAttributes.ofKind .string with sensitive := some true }, .undeclared,
          .undeclared⟩)] }
  properties := .undeclared

/-- A key that is named as secret is not hidden in a record inside the record, and a secret field is
not hidden in an item of a list. -/
theorem not_masked_inside :
    ¬ (Value.record (redactEntries ["x"] [] [("a", .record [("x", .text "1")])])).Masked ["x"]
        (some (.ofFields [])) ∧
      ¬ (Value.record (redactEntries [] [("l", secretItems)]
          [("l", .list [.record [("p", .text "1")]])])).Masked []
        (some (.ofFields [("l", secretItems)])) := by
  have hshown : ¬ (Value.text "1").IsMasked := by
    rintro (h | h | h)
    · exact absurd (Value.text.inj h) (by decide)
    · cases h
    · exact absurd (Value.text.inj h) (by decide)
  have hopen {field : Option Definition} {key : String} (hshort : key.toList.length < 5)
      (hplain : (field.map (·.isSecret)).getD false = false) : isHidden [] field key = false := by
    simp [isHidden, looksSecret_of_short hshort, hplain]
  constructor
  · intro h
    have hmissed := (masked_redactEntries_iff ["x"] ["x"] (some (.ofFields [])) _).mp h
    have houter : isHidden ["x"] none "a" = false := hopen (by decide : "a".toList.length < 5) rfl
    have hinner : isHidden [] none "x" = false := hopen (by decide) rfl
    have hnone := hmissed _ _ _ (.inside List.mem_cons_self houter (.here _ _ _)) "x" (.text "1")
      List.mem_cons_self hinner
    exact hshown (hnone.named List.mem_cons_self)
  · intro h
    have hmissed := (masked_redactEntries_iff [] [] (some (.ofFields [("l", secretItems)])) _).mp h
    have hlist : isHidden [] (some secretItems) "l" = false := hopen (by decide) rfl
    have hnone := hmissed _ _ _ (.here _ _ _) "l" _ List.mem_cons_self hlist
    refine hshown (hnone.list _ rfl _ _ (.item List.mem_cons_self (.here _ _)) "p" (.text "1")
      List.mem_cons_self ?_)
    exact Bool.or_true _

end Intake
