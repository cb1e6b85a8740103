import Intake.Document.Sample
import Intake.Proofs.Document.Bounds
import Intake.Proofs.Json.Scalar
import Intake.Proofs.Number.Text

/-!
# What is made up

A made-up text keeps the lengths that its field itself declares, a list has as many items as it may
have, numbered texts differ, and a file has a size and a type that are allowed: all this whenever
something can be of that kind. Lengths that only the rules of a field declare are not looked at, and
items other than texts are repeated even where they must differ.
-/

namespace Intake

/-- A length brought between bounds: raised to the least one, then cut to the greatest one. -/
def fittedLength (length : Nat) (least greatest : Option Int) : Int :=
  let raised := max (length : Int) (least.getD 0)
  (greatest.map (min raised)).getD raised

/-- A length brought between bounds lies between them if any does. -/
theorem isBetween_fittedLength (length : Nat) {least greatest : Option Int}
    (h : ∃ size, IsBetween least greatest size) :
    IsBetween least greatest (fittedLength length least greatest).toNat := by
  obtain ⟨size, hleast, hgreatest⟩ := h
  unfold fittedLength
  constructor
  · rintro m hm
    have hm' := hleast m hm
    rw [hm]
    cases greatest with
    | none =>
      simp only [Option.getD_some, Option.map_none, Option.getD_none]
      omega
    | some n =>
      have hn := hgreatest n rfl
      simp only [Option.getD_some, Option.map_some]
      omega
  · rintro n hn
    have hn' := hgreatest n hn
    rw [hn]
    simp only [Option.map_some, Option.getD_some]
    omega

/-- A text is brought to the length that its length is brought to. -/
theorem length_fitLength (text : List Char) {least greatest : Option Int}
    (h : ∀ n ∈ greatest, 0 ≤ n) :
    ((fitLength text least greatest).length : Int) =
      fittedLength text.length least greatest := by
  unfold fitLength fittedLength
  cases least with
  | none =>
    cases greatest with
    | none => simp
    | some n =>
      have hn := h n rfl
      simp only [if_neg (Int.not_lt.mpr hn), List.length_take, Option.getD_none, Option.map_some,
        Option.getD_some]
      omega
  | some m =>
    cases greatest with
    | none =>
      simp only [List.length_append, List.length_replicate, Option.getD_some, Option.map_none,
        Option.getD_none]
      omega
    | some n =>
      have hn := h n rfl
      simp only [if_neg (Int.not_lt.mpr hn), List.length_take, List.length_append,
        List.length_replicate, Option.getD_some, Option.map_some]
      omega

namespace FieldAttributes

variable (a : FieldAttributes)

/-- The length that the bounds of a field itself give to a made-up text. -/
def sampleLength : Int :=
  fittedLength "example string".length a.minLength.value? a.maxLength.value?

/-- A made-up text keeps the lengths that only the rules of its field declare. -/
structure KeepsRuleLengths : Prop where
  /-- The text is as long as the rules ask for. -/
  least : a.minLength.value? = none → ∀ bound ∈ a.shortest, bound ≤ a.sampleLength
  /-- The text is not longer than the rules allow. -/
  greatest : a.maxLength.value? = none → ∀ bound ∈ a.longest, a.sampleLength ≤ bound

/-- A made-up text without a format has a length between the bounds in force exactly if a text can,
and the bounds that only the rules declare are kept. -/
theorem isBetween_sampleText_iff (hkind : a.kind = .string) (hformat : a.format.value? = none) :
    IsBetween a.shortest a.longest a.sampleText.length ↔
      (∃ size, IsBetween a.shortest a.longest size) ∧ a.KeepsRuleLengths := by
  have hshortest {m : Int} (hm : a.minLength.value? = some m) : a.shortest = some m := by
    simp [shortest, hkind, FieldKind.isConfigOnly, hm]
  have hlongest {n : Int} (hn : a.maxLength.value? = some n) : a.longest = some n := by
    simp [longest, hn]
  have hown {size : Nat} (h : IsBetween a.shortest a.longest size) :
      IsBetween a.minLength.value? a.maxLength.value? size :=
    ⟨fun m hm => h.1 m (hshortest hm), fun n hn => h.2 n (hlongest hn)⟩
  have hlength {size : Nat} (h : IsBetween a.shortest a.longest size) :
      (a.sampleText.length : Int) = a.sampleLength := by
    rw [sampleText, hformat]
    dsimp only
    rw [String.length_ofList]
    exact length_fitLength _ fun n hn => le_trans (Int.natCast_nonneg size) ((hown h).2 n hn)
  constructor
  · exact fun h => ⟨⟨_, h⟩, fun _ => hlength h ▸ h.1, fun _ => hlength h ▸ h.2⟩
  · rintro ⟨⟨size, h⟩, hkeeps⟩
    have hfitted : IsBetween a.minLength.value? a.maxLength.value? a.sampleLength.toNat :=
      isBetween_fittedLength _ ⟨size, hown h⟩
    rw [← hlength h, Int.toNat_natCast] at hfitted
    constructor
    · cases hmin : a.minLength.value? with
      | none =>
        rw [hlength h]
        exact hkeeps.least hmin
      | some m =>
        rw [hshortest hmin, ← hmin]
        exact hfitted.1
    · cases hmax : a.maxLength.value? with
      | none =>
        rw [hlength h]
        exact hkeeps.greatest hmax
      | some n =>
        rw [hlongest hmax, ← hmax]
        exact hfitted.2

/-- How many items a made-up list has: as many as one item and the bounds of the list give. -/
def sampleSize : Nat := (fittedLength 1 a.minItems.value? a.maxItems.value?).toNat

/-- A made-up list has as many items as it may have exactly if any list can. -/
theorem isBetween_sampleSize_iff :
    IsBetween a.minItems.value? a.maxItems.value? a.sampleSize ↔
      ∃ size, IsBetween a.minItems.value? a.maxItems.value? size :=
  ⟨fun h => ⟨_, h⟩, isBetween_fittedLength 1⟩

theorem toNat_sampleCount : a.sampleCount.toNat = a.sampleSize := by
  have hcount (m : Int) : ((some m).filter (· ≠ 0)).getD 1 = if m = 0 then 1 else m := by
    by_cases hzero : m = 0 <;> simp [Option.filter, hzero]
  unfold sampleSize sampleCount fittedLength
  cases a.minItems.value? with
  | none => cases a.maxItems.value? <;> rfl
  | some m =>
    rw [hcount]
    cases a.maxItems.value? with
    | none =>
      simp only [Option.getD_some, Option.map_none, Option.getD_none]
      split <;> omega
    | some n =>
      simp only [Option.getD_some, Option.map_some]
      split <;> omega

/-- A text with a number, the first one bare. -/
def numbered (s : String) (i : Nat) : String :=
  if i = 0 then s else s ++ String.ofList (naturalText i)

/-- Numbered texts differ. -/
theorem numbered_injective (s : String) : Function.Injective (numbered s) := by
  have hnumber (i : Nat) : (numbered s i).toList = s.toList ++ if i = 0 then [] else naturalText i := by
    unfold numbered
    split <;> simp
  intro i j h
  have htexts : (if i = 0 then [] else naturalText i) = if j = 0 then [] else naturalText j := by
    have htoList := congrArg String.toList h
    rw [hnumber, hnumber] at htoList
    exact List.append_cancel_left htoList
  obtain ⟨c, rest, hi, -⟩ := exists_naturalText_eq_cons i
  obtain ⟨c', rest', hj, -⟩ := exists_naturalText_eq_cons j
  split at htexts <;> split at htexts
  · omega
  · rw [hj] at htexts
    cases htexts
  · rw [hi] at htexts
    cases htexts
  · exact naturalText_injective htexts

/-- The items of a made-up list with a given item. -/
def sampleItems (item : Value) : List Value :=
  match item with
  | .text s =>
    if a.uniqueItems.getD false then (List.range a.sampleSize).map fun i => .text (numbered s i)
    else List.replicate a.sampleSize item
  | item => List.replicate a.sampleSize item

/-- A made-up list holds its items. -/
theorem sampleList_eq (item : Value) : a.sampleList item = .list (a.sampleItems item) := by
  cases item with
  | text s =>
    simp only [sampleList, sampleItems, toNat_sampleCount]
    split
    · simp [Value.texts, numbered]
    · rfl
  | _ => simp only [sampleList, sampleItems, toNat_sampleCount]

@[simp] theorem length_sampleItems (item : Value) : (a.sampleItems item).length = a.sampleSize := by
  unfold sampleItems
  split
  · split <;> simp
  · simp

/-- The canonical texts of numbered texts differ. -/
theorem nodup_canonical_numbered (s : String) (n : Nat) :
    (((List.range n).map fun i => Value.text (numbered s i)).map Json.canonical).Nodup := by
  rw [List.map_map]
  refine List.Nodup.map (fun i j h => numbered_injective s ?_) List.nodup_range
  have htexts : Json.stringText (numbered s i) ++ [] = Json.stringText (numbered s j) ++ [] :=
    congrArg (· ++ []) h
  exact (Json.stringText_append_injective htexts).1

/-- The items of a made-up list differ where they must exactly if they are texts or at most one. -/
theorem nodup_sampleItems_iff (item : Value) :
    (a.uniqueItems.getD false = true → ((a.sampleItems item).map Json.canonical).Nodup) ↔
      (a.uniqueItems.getD false = true → 1 < a.sampleSize → ∃ s, item = .text s) := by
  refine forall_congr' fun hunique => ?_
  cases item with
  | text s => simpa [sampleItems, hunique] using nodup_canonical_numbered s a.sampleSize
  | _ => simp [sampleItems, List.nodup_replicate]

/-- Something holds of all items of a made-up list if it does of the given one and of those with a
number, as far as there are any. -/
theorem forall_sampleItems_iff {P : Value → Prop} (item : Value) :
    (∀ part ∈ a.sampleItems item, P part) ↔
      (0 < a.sampleSize → P item ∧ (a.uniqueItems.getD false = true → ∀ s, item = .text s →
        ∀ i, 0 < i → i < a.sampleSize → P (.text (numbered s i)))) := by
  have hreplicate : (∀ part ∈ List.replicate a.sampleSize item, P part) ↔
      (0 < a.sampleSize → P item) := by
    simp [List.mem_replicate, Nat.pos_iff_ne_zero]
  cases item with
  | text s =>
    unfold sampleItems
    dsimp only
    split
    · rename_i hunique
      simp only [List.mem_map, List.mem_range, forall_exists_index, and_imp,
        forall_apply_eq_imp_iff₂, hunique, forall_const, Value.text.injEq, forall_eq']
      constructor
      · exact fun h hpos => ⟨h 0 hpos, fun i _ hi => h i hi⟩
      · intro h i hi
        obtain ⟨hfirst, hlater⟩ := h (Nat.zero_lt_of_lt hi)
        cases i with
        | zero => exact hfirst
        | succ i => exact hlater (i + 1) i.succ_pos hi
    · rename_i hunique
      simpa [hunique] using hreplicate
  | _ => simpa [sampleItems] using hreplicate

/-- A made-up file is allowed. -/
theorem admitsFile_sampleFile : a.AdmitsFile a.sampleFile where
  named := ⟨_, rfl⟩
  sized := by
    refine ⟨.int ((a.maxFileSize.value?.map (min 1024)).getD 1024), rfl, rfl, fun n hn => ?_⟩
    rw [hn, Bool.eq_false_iff, ne_eq, Number.lessThan_int]
    exact Int.not_lt.mpr (min_le_right _ _)
  typed := by
    refine ⟨(a.allowedMimeTypes.value?.bind (·.head?)).getD "text/plain", rfl, fun types ht hne => ?_⟩
    obtain ⟨type, rest, rfl⟩ := List.exists_cons_of_ne_nil hne
    rw [ht]
    exact List.mem_cons_self

end FieldAttributes

end Intake
