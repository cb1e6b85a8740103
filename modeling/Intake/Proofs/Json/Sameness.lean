import Intake.Field.Wire
import Intake.Proofs.Json.Alike
import Intake.Value.Equality
import Mathlib.Data.List.Perm.Subperm

/-!
# Which values have the same text

A JSON value whose records have no key twice is known from its canonical text up to the order of
entries. Numbers of different kinds have different texts even where their values are equal, and so have
the two zeros. Main statement: JSON values have the same canonical text exactly if they are equal in
all but the order of entries, the numbers in them being the same. Then they are equal as JSON values.
-/

namespace Intake

mutual

/-- No record in a value has a key twice. -/
def Value.keysDiffer (v : Value) : Bool :=
  match v with
  | .list items => itemsKeysDiffer items
  | .record entries => decide (entries.map (·.1)).Nodup && entriesKeysDiffer entries
  | _ => true

/-- No record in any item has a key twice. -/
def itemsKeysDiffer (items : List Value) : Bool :=
  match items with
  | [] => true
  | item :: rest => item.keysDiffer && itemsKeysDiffer rest

/-- No record in the value of any entry has a key twice. -/
def entriesKeysDiffer (entries : List (String × Value)) : Bool :=
  match entries with
  | [] => true
  | (_, value) :: rest => value.keysDiffer && entriesKeysDiffer rest

end

/-- The same number: an integer is no double, and zero is not minus zero. -/
def Number.isSame (m n : Number) : Bool := decide (m = n)

/-- Equality of JSON values in which numbers are equal only if they are the same. -/
def Value.matchesWritten (v w : Value) : Bool := v.matchesJsonBy Number.isSame w

namespace Value

/-- A value without parts that JSON has. -/
def IsScalar : Value → Prop
  | .null | .bool _ | .number _ | .text _ => True
  | _ => False

theorem not_isTemporal_of_isJson {v : Value} (h : v.isJson = true) : ¬ v.IsTemporal := by
  cases v <;> simp_all [isJson, IsTemporal]

theorem isJson_of_mem {entries : List (String × Value)} (h : entriesAreJson entries = true)
    {key : String} {v : Value} (hm : (key, v) ∈ entries) : v.isJson = true := by
  induction entries with
  | nil => cases hm
  | cons entry rest ih =>
    obtain ⟨hvalue, hrest⟩ := Bool.and_eq_true_iff.mp h
    rcases List.mem_cons.mp hm with rfl | hm
    · exact hvalue
    · exact ih hrest hm

theorem keysDiffer_of_mem {entries : List (String × Value)} (h : entriesKeysDiffer entries = true)
    {key : String} {v : Value} (hm : (key, v) ∈ entries) : v.keysDiffer = true := by
  induction entries with
  | nil => cases hm
  | cons entry rest ih =>
    obtain ⟨hvalue, hrest⟩ := Bool.and_eq_true_iff.mp h
    rcases List.mem_cons.mp hm with rfl | hm
    · exact hvalue
    · exact ih hrest hm

variable {v w : Value}

/-- A value without parts matches what is the same. -/
theorem matchesWritten_scalar_iff (hv : v.IsScalar) : v.matchesWritten w = true ↔ v = w := by
  cases v with
  | null => cases w <;> simp [matchesWritten, matchesJsonBy, sameAsBy, countsAsBy, isNull, isBool]
  | bool b =>
    cases w with
    | bool b' =>
      cases b <;> cases b' <;>
        simp [matchesWritten, matchesJsonBy, sameAsBy, countsAsBy, counted?, isBool, Number.isSame]
    | _ => simp [matchesWritten, matchesJsonBy, sameAsBy, countsAsBy, counted?, isBool]
  | number n =>
    cases w <;>
      simp [matchesWritten, matchesJsonBy, sameAsBy, countsAsBy, counted?, isBool, Number.isSame]
  | text s => cases w <;> simp [matchesWritten, matchesJsonBy, sameAsBy, countsAsBy, isBool]
  | list _ | record _ | date _ | dateTime _ | time _ => cases hv

end Value

namespace Json

open Value

/-- A value without parts matches what has the same text. -/
theorem matchesWritten_scalar_iff_canonical {v w : Value} (hv : v.IsScalar) (hw : w.isJson = true) :
    v.matchesWritten w = true ↔ canonical v = canonical w := by
  refine (matchesWritten_scalar_iff hv).trans ⟨fun h => h ▸ rfl, eq_of_alike v w ?_⟩
  have hwt := not_isTemporal_of_isJson hw
  cases v with
  | list _ | record _ | date _ | dateTime _ | time _ => cases hv
  | _ => exact fun ht => absurd ht (not_or.mpr ⟨not_false, hwt⟩)

theorem canonicalEntries_eq_map (entries : List (String × Value)) :
    canonicalEntries entries = entries.map fun entry => (entry.1, canonical entry.2) := by
  induction entries with
  | nil => rfl
  | cons entry rest ih => rw [canonicalEntries, ih, List.map_cons]

/-- A value whose text stands among the texts of entries stands among the entries. -/
theorem mem_canonicalEntries_iff {key : String} {text : List Char}
    {entries : List (String × Value)} :
    (key, text) ∈ canonicalEntries entries ↔
      ∃ value, (key, value) ∈ entries ∧ canonical value = text := by
  rw [canonicalEntries_eq_map]
  simp only [List.mem_map, Prod.mk.injEq, Prod.exists]
  exact ⟨fun ⟨name, value, hm, hname, htext⟩ => ⟨value, hname ▸ hm, htext⟩,
    fun ⟨value, hm, htext⟩ => ⟨key, value, hm, rfl, htext⟩⟩

theorem keys_canonicalEntries (entries : List (String × Value)) :
    (canonicalEntries entries).map Prod.fst = entries.map (·.1) := by
  rw [canonicalEntries_eq_map, List.map_map]
  rfl

theorem length_canonicalEntries (entries : List (String × Value)) :
    (canonicalEntries entries).length = entries.length := by
  rw [canonicalEntries_eq_map, List.length_map]

/-- Records with the same text have the same keys with the same texts, in some order. -/
theorem perm_canonicalEntries {entries others : List (String × Value)}
    (h : canonical (.record entries) = canonical (.record others)) :
    (canonicalEntries entries).Perm (canonicalEntries others) := by
  have hsorted := List.mergeSort_perm (canonicalEntries entries) keyAtMost
  rw [sortedEntries_eq h] at hsorted
  exact hsorted.symm.trans (List.mergeSort_perm (canonicalEntries others) keyAtMost)

/-- Records without a key that stands twice have the same text if they have as many entries and the
texts of one are among those of the other. -/
theorem canonical_record_of_subset {entries others : List (String × Value)}
    (hkeys : (entries.map (·.1)).Nodup) (hlength : entries.length = others.length)
    (hsub : canonicalEntries entries ⊆ canonicalEntries others) :
    canonical (.record entries) = canonical (.record others) := by
  have hnodup : ((canonicalEntries entries).map Prod.fst).Nodup := by
    rwa [keys_canonicalEntries]
  have hle : (canonicalEntries others).length ≤ (canonicalEntries entries).length := by
    rw [length_canonicalEntries, length_canonicalEntries, hlength]
  exact canonical_record_of_perm
    ((List.subperm_of_subset hnodup.of_map hsub).perm_of_length_le hle) hnodup

mutual

/-- JSON values with the same text match. -/
theorem matchesWritten_of_canonical (v w : Value) (hv : v.isJson = true) (hw : w.isJson = true)
    (hkeys : w.keysDiffer = true) (h : canonical v = canonical w) :
    v.matchesWritten w = true := by
  have htype := typeName_eq (not_isTemporal_of_isJson hv) (not_isTemporal_of_isJson hw) h
  match v with
  | .null | .bool _ | .number _ | .text _ =>
    exact (matchesWritten_scalar_iff_canonical (by trivial) hw).mpr h
  | .list items =>
    cases w with
    | list others =>
      exact itemsMatch_of_canonical items others hv hw hkeys (canonicalItems_eq h)
    | _ => exact absurd htype (by simp [Value.typeName])
  | .record entries =>
    cases w with
    | record others =>
      obtain ⟨hnodup, hvalues⟩ := Bool.and_eq_true_iff.mp hkeys
      have hperm := perm_canonicalEntries h
      have hlength : entries.length = others.length := by
        rw [← length_canonicalEntries, hperm.length_eq, length_canonicalEntries]
      exact Bool.and_eq_true_iff.mpr ⟨beq_iff_eq.mpr hlength,
        entriesMatch_of_canonical entries others hv hw (of_decide_eq_true hnodup) hvalues hperm.subset⟩
    | _ => exact absurd htype (by simp [Value.typeName])
  | .date _ | .dateTime _ | .time _ => cases hv

theorem itemsMatch_of_canonical (items others : List Value) (hv : itemsAreJson items = true)
    (hw : itemsAreJson others = true) (hkeys : itemsKeysDiffer others = true)
    (h : canonicalItems items = canonicalItems others) :
    itemsMatchJsonBy Number.isSame items others = true := by
  match items, others with
  | [], [] => rfl
  | [], _ :: _ => cases h
  | _ :: _, [] => cases h
  | item :: rest, other :: more =>
    obtain ⟨hitem, hrest⟩ := List.cons.inj h
    simp only [itemsAreJson, itemsKeysDiffer, Bool.and_eq_true] at hv hw hkeys
    exact Bool.and_eq_true_iff.mpr ⟨matchesWritten_of_canonical item other hv.1 hw.1 hkeys.1 hitem,
      itemsMatch_of_canonical rest more hv.2 hw.2 hkeys.2 hrest⟩

theorem entriesMatch_of_canonical (entries others : List (String × Value))
    (hv : entriesAreJson entries = true) (hw : entriesAreJson others = true)
    (hnodup : (others.map (·.1)).Nodup) (hkeys : entriesKeysDiffer others = true)
    (h : canonicalEntries entries ⊆ canonicalEntries others) :
    entriesMatchJsonBy Number.isSame entries others = true := by
  match entries with
  | [] => rfl
  | (key, value) :: rest =>
    obtain ⟨hentry, hrest⟩ := List.cons_subset.mp h
    obtain ⟨other, hm, htext⟩ := mem_canonicalEntries_iff.mp hentry
    obtain ⟨hvalue, hvalues⟩ := Bool.and_eq_true_iff.mp hv
    rw [entriesMatchJsonBy, lookup_of_mem hnodup hm]
    exact Bool.and_eq_true_iff.mpr
      ⟨matchesWritten_of_canonical value other hvalue (isJson_of_mem hw hm) (keysDiffer_of_mem hkeys hm)
        htext.symm, entriesMatch_of_canonical rest others hvalues hw hnodup hkeys hrest⟩

end

mutual

/-- JSON values that match have the same text. -/
theorem canonical_of_matchesWritten (v w : Value) (hv : v.isJson = true) (hw : w.isJson = true)
    (hkeys : v.keysDiffer = true) (h : v.matchesWritten w = true) : canonical v = canonical w := by
  match v with
  | .null | .bool _ | .number _ | .text _ =>
    exact (matchesWritten_scalar_iff_canonical (by trivial) hw).mp h
  | .list items =>
    cases w with
    | list others =>
      rw [canonical, canonical, canonicalItems_of_itemsMatch items others hv hw hkeys h]
    | _ => cases h
  | .record entries =>
    cases w with
    | record others =>
      obtain ⟨hnodup, hvalues⟩ := Bool.and_eq_true_iff.mp hkeys
      obtain ⟨hlength, hmatch⟩ := Bool.and_eq_true_iff.mp h
      exact canonical_record_of_subset (of_decide_eq_true hnodup) (beq_iff_eq.mp hlength)
        (canonicalEntries_of_entriesMatch entries others hv hw hvalues hmatch)
    | _ => cases h
  | .date _ | .dateTime _ | .time _ => cases hv

theorem canonicalItems_of_itemsMatch (items others : List Value) (hv : itemsAreJson items = true)
    (hw : itemsAreJson others = true) (hkeys : itemsKeysDiffer items = true)
    (h : itemsMatchJsonBy Number.isSame items others = true) :
    canonicalItems items = canonicalItems others := by
  match items, others with
  | [], [] => rfl
  | [], _ :: _ => cases h
  | _ :: _, [] => cases h
  | item :: rest, other :: more =>
    simp only [itemsAreJson, itemsKeysDiffer, itemsMatchJsonBy, Bool.and_eq_true] at hv hw hkeys h
    rw [canonicalItems, canonicalItems, canonical_of_matchesWritten item other hv.1 hw.1 hkeys.1 h.1,
      canonicalItems_of_itemsMatch rest more hv.2 hw.2 hkeys.2 h.2]

theorem canonicalEntries_of_entriesMatch (entries others : List (String × Value))
    (hv : entriesAreJson entries = true) (hw : entriesAreJson others = true)
    (hkeys : entriesKeysDiffer entries = true)
    (h : entriesMatchJsonBy Number.isSame entries others = true) :
    canonicalEntries entries ⊆ canonicalEntries others := by
  match entries with
  | [] => exact List.nil_subset _
  | (key, value) :: rest =>
    simp only [entriesAreJson, entriesKeysDiffer, entriesMatchJsonBy, Bool.and_eq_true] at hv hkeys h
    refine List.cons_subset.mpr
      ⟨?_, canonicalEntries_of_entriesMatch rest others hv.2 hw hkeys.2 h.2⟩
    cases hlookup : others.lookup key with
    | none => simp [hlookup] at h
    | some other =>
      have hm := mem_of_lookup hlookup
      have hmatch : value.matchesWritten other = true := by
        rw [hlookup] at h
        exact h.1
      exact mem_canonicalEntries_iff.mpr ⟨other, hm,
        (canonical_of_matchesWritten value other hv.1 (isJson_of_mem hw hm) hkeys.1 hmatch).symm⟩

end

/-- JSON values whose records have no key twice have the same text exactly if they match, the numbers
in them being the same. -/
theorem canonical_eq_iff {v w : Value} (hv : v.isJson = true) (hw : w.isJson = true)
    (hvkeys : v.keysDiffer = true) (hwkeys : w.keysDiffer = true) :
    canonical v = canonical w ↔ v.matchesWritten w = true :=
  ⟨matchesWritten_of_canonical v w hv hw hwkeys, canonical_of_matchesWritten v w hv hw hvkeys⟩

end Json

/-- A finite number is equal to itself. -/
theorem Number.sameAs_self {n : Number} (h : n.isFinite = true) : n.sameAs n = true := by
  have hplace : ∃ p, n.place? = some p := by
    cases n with
    | int n => exact ⟨_, rfl⟩
    | float x =>
      cases x with
      | finite => exact ⟨_, rfl⟩
      | _ => cases h
  obtain ⟨p, hp⟩ := hplace
  cases p <;> simp [sameAs, order?, hp, Extended.order]

namespace Value

variable {same more : Number → Number → Bool}

mutual

/-- JSON values that match go on to match if more numbers count as equal. -/
theorem matchesJsonBy_mono
    (hmore : ∀ m n, m.isFinite = true → same m n = true → more m n = true)
    (v w : Value) (hv : v.isJson = true) (h : v.matchesJsonBy same w = true) :
    v.matchesJsonBy more w = true := by
  match v with
  | .null | .text _ => exact h
  | .bool b =>
    cases w with
    | bool b' => exact hmore _ _ rfl h
    | _ => exact h
  | .number n =>
    cases w with
    | number n' => exact hmore n n' hv h
    | _ => exact h
  | .list items =>
    cases w with
    | list others => exact itemsMatchJsonBy_mono hmore items others hv h
    | _ => exact h
  | .record entries =>
    cases w with
    | record others =>
      obtain ⟨hlength, hmatch⟩ := Bool.and_eq_true_iff.mp h
      exact Bool.and_eq_true_iff.mpr ⟨hlength, entriesMatchJsonBy_mono hmore entries others hv hmatch⟩
    | _ => exact h
  | .date _ | .dateTime _ | .time _ => cases hv

theorem itemsMatchJsonBy_mono
    (hmore : ∀ m n, m.isFinite = true → same m n = true → more m n = true)
    (items others : List Value) (hv : itemsAreJson items = true)
    (h : itemsMatchJsonBy same items others = true) : itemsMatchJsonBy more items others = true := by
  match items, others with
  | [], others => exact h
  | _ :: _, [] => cases h
  | item :: rest, other :: next =>
    simp only [itemsAreJson, itemsMatchJsonBy, Bool.and_eq_true] at hv h ⊢
    exact ⟨matchesJsonBy_mono hmore item other hv.1 h.1,
      itemsMatchJsonBy_mono hmore rest next hv.2 h.2⟩

theorem entriesMatchJsonBy_mono
    (hmore : ∀ m n, m.isFinite = true → same m n = true → more m n = true)
    (entries others : List (String × Value)) (hv : entriesAreJson entries = true)
    (h : entriesMatchJsonBy same entries others = true) :
    entriesMatchJsonBy more entries others = true := by
  match entries with
  | [] => rfl
  | (key, value) :: rest =>
    simp only [entriesAreJson, entriesMatchJsonBy, Bool.and_eq_true] at hv h ⊢
    refine ⟨?_, entriesMatchJsonBy_mono hmore rest others hv.2 h.2⟩
    cases hlookup : others.lookup key with
    | none => simp [hlookup] at h
    | some other =>
      rw [hlookup] at h
      exact matchesJsonBy_mono hmore value other hv.1 h.1

end

/-- JSON values that match, the numbers in them being the same, are equal as JSON values. -/
theorem matchesJson_of_matchesWritten {v w : Value} (hv : v.isJson = true)
    (h : v.matchesWritten w = true) : v.matchesJson w = true := by
  refine matchesJsonBy_mono (fun m n hm hsame => ?_) v w hv h
  obtain rfl : m = n := of_decide_eq_true hsame
  exact Number.sameAs_self hm

end Value

end Intake
