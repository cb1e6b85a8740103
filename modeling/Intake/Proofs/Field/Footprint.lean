import Intake.Field.Reader
import Intake.Proofs.Json.Alike

/-!
# What definitions are read from

A definition is read from what stands under the names of its attributes, and nothing else. Main
statements: records that declare the same are read as the same definition or have the same faults,
whatever the order of their entries, and however far the budget of the reader goes beyond the depth
of the record. Where a value for absent ones is declared, it does not count whether the field is
required.
-/

namespace Intake

/-- A value has a depth. -/
theorem Value.depth_pos (v : Value) : 0 < v.depth := by
  cases v <;> simp [depth]

section Found

variable {α : Type} {written plain : String} {entries others : List (String × Value)}

/-- An attribute that is found is one of the entries. -/
theorem mem_of_findAttribute {key : String} {v : Value}
    (h : findAttribute written plain entries = some (key, v)) : (key, v) ∈ entries := by
  unfold findAttribute at h
  split at h
  · next value hl =>
    cases h
    exact mem_of_lookup hl
  · obtain ⟨value, hl, heq⟩ := Option.map_eq_some_iff.mp h
    cases heq
    exact mem_of_lookup hl

/-- An attribute is read alike by readers that agree on the values of the entries. -/
theorem readSlot_congr_reader {reader reader' : Reader α}
    (h : ∀ entry ∈ entries, reader entry.2 = reader' entry.2) :
    readSlot written plain reader entries = readSlot written plain reader' entries := by
  unfold readSlot
  cases hfound : findAttribute written plain entries with
  | none => rfl
  | some found =>
    obtain ⟨key, v⟩ := found
    have hv : reader v = reader' v := h _ (mem_of_findAttribute hfound)
    cases v <;> simp only [hv]

/-- Entries by name are read alike by readers that agree on what is less deep. -/
theorem Reader.record_congr {reader reader' : Reader α} {v : Value}
    (h : ∀ w : Value, w.depth < v.depth → reader w = reader' w) :
    Reader.record reader v = Reader.record reader' v := by
  cases v with
  | record entries =>
    refine congrArg Reading.sequence (List.map_congr_left fun ⟨name, w⟩ hm => ?_)
    have hdepth := Value.depth_le_entriesDepth hm
    dsimp only
    rw [h w (by rw [Value.depth]; omega)]
  | _ => rfl

/-- What is found in entries depends on what stands under the two names only. -/
theorem findAttribute_congr (hwritten : entries.lookup written = others.lookup written)
    (hplain : entries.lookup plain = others.lookup plain) :
    findAttribute written plain entries = findAttribute written plain others := by
  rw [findAttribute, findAttribute, hwritten, hplain]

end Found

/-- Rules are read alike from records that have the same under each name. -/
theorem ConfigRules.read_congr {entries others : List (String × Value)}
    (h : ∀ name, entries.lookup name = others.lookup name) :
    ConfigRules.read (.record entries) = ConfigRules.read (.record others) := by
  simp only [read, readSlot, findAttribute, h]

namespace Definition

variable {inner inner' : Reader Definition} {entries others : List (String × Value)}

/-- A definition is read alike by readers that agree on what is less deep. -/
theorem readWith_congr_reader {v : Value}
    (h : ∀ w : Value, w.depth < v.depth → inner w = inner' w) :
    readWith inner v = readWith inner' v := by
  cases v with
  | record entries =>
    have hdepth (entry : String × Value) (hm : entry ∈ entries) :
        entry.2.depth < (Value.record entries).depth := by
      have hle := Value.depth_le_entriesDepth hm
      rw [Value.depth]
      omega
    have hitems : readSlot "items" "items" inner entries =
        readSlot "items" "items" inner' entries :=
      readSlot_congr_reader fun entry hm => h _ (hdepth entry hm)
    have hproperties : readSlot "properties" "properties" (Reader.record inner) entries =
        readSlot "properties" "properties" (Reader.record inner') entries :=
      readSlot_congr_reader fun entry hm => Reader.record_congr fun w hw =>
        h w (hw.trans (hdepth entry hm))
    rw [readWith, readWith, hitems, hproperties]
  | _ => rfl

/-- How much a budget goes beyond the depth plays no role. -/
theorem readWithin_eq_of_le {v : Value} {budget other : Nat} (h : v.depth ≤ budget)
    (hother : v.depth ≤ other) : readWithin budget v = readWithin other v := by
  have hpos := v.depth_pos
  induction budget generalizing v other with
  | zero => omega
  | succ budget ih =>
    obtain ⟨other, rfl⟩ : ∃ n, other = n + 1 := ⟨other - 1, by omega⟩
    exact readWith_congr_reader fun w hw => ih (by omega) (by omega) w.depth_pos

/-- Records that declare the same: they have the same under every name, whether the field is
required apart where a value for absent ones is declared, and the order of the rules. -/
structure DeclaresSame (entries others : List (String × Value)) : Prop where
  /-- The same stands under each of the other names. -/
  found : ∀ name, name ≠ "required" → name ≠ "validation" →
    entries.lookup name = others.lookup name
  /-- Whether the field is required is the same, if it counts. -/
  required : entries.lookup "default" = none → entries.lookup "required" = others.lookup "required"
  /-- The rules are the same under each name. -/
  rules : entries.lookup "validation" = others.lookup "validation" ∨
    ∃ r r', entries.lookup "validation" = some (.record r) ∧
      others.lookup "validation" = some (.record r') ∧ ∀ name, r.lookup name = r'.lookup name

namespace DeclaresSame

variable (h : DeclaresSame entries others)
include h

theorem readRequired_eq : readRequired entries = readRequired others := by
  have hdefault := h.found "default" (by decide) (by decide)
  unfold readRequired
  cases hl : entries.lookup "default" with
  | some v => rw [← hdefault, hl]; rfl
  | none =>
    rw [← hdefault, hl]
    simp only [readOption, findAttribute, h.required hl]

theorem readRules_eq : readSlot "validation" "validation" ConfigRules.read entries =
    readSlot "validation" "validation" ConfigRules.read others := by
  rcases h.rules with heq | ⟨r, r', hr, hr', hsame⟩
  · simp only [readSlot, findAttribute, heq]
  · simp only [readSlot, findAttribute, hr, hr', ConfigRules.read_congr hsame]

theorem findAttribute_eq {written plain : String}
    (hwritten : written ∉ ["required", "validation"])
    (hplain : plain ∉ ["required", "validation"]) :
    findAttribute written plain entries = findAttribute written plain others := by
  simp only [List.mem_cons, List.not_mem_nil, or_false, not_or] at hwritten hplain
  exact findAttribute_congr (h.found written hwritten.1 hwritten.2)
    (h.found plain hplain.1 hplain.2)

theorem readSlot_eq {α : Type} {reader : Reader α} {written plain : String}
    (hwritten : written ∉ ["required", "validation"])
    (hplain : plain ∉ ["required", "validation"]) :
    readSlot written plain reader entries = readSlot written plain reader others := by
  rw [readSlot, readSlot, h.findAttribute_eq hwritten hplain]

theorem readOption_eq {α : Type} {reader : Reader α} {written plain : String}
    (hwritten : written ∉ ["required", "validation"])
    (hplain : plain ∉ ["required", "validation"]) :
    readOption written plain reader entries = readOption written plain reader others := by
  rw [readOption, readOption, h.findAttribute_eq hwritten hplain]

theorem readNeeded_eq {α : Type} {reader : Reader α} {written plain : String}
    (hwritten : written ∉ ["required", "validation"])
    (hplain : plain ∉ ["required", "validation"]) :
    readNeeded written plain reader entries = readNeeded written plain reader others := by
  rw [readNeeded, readNeeded, h.findAttribute_eq hwritten hplain]

/-- Records that declare the same are read as the same definition, or have the same faults. -/
theorem readWith_eq : readWith inner (.record entries) = readWith inner (.record others) := by
  rw [readWith, readWith, h.readRequired_eq, h.readRules_eq]
  simp (disch := decide) only [h.readNeeded_eq, h.readOption_eq, h.readSlot_eq]

theorem read_eq : Definition.read (.record entries) = Definition.read (.record others) := by
  have hbudget (v : Value) {budget : Nat} (hle : v.depth ≤ budget) :
      Definition.read v = readWithin (budget + 1) v := readWithin_eq_of_le le_rfl (by omega)
  rw [hbudget (.record entries) (Nat.le_max_left _ (Value.record others).depth),
    hbudget (.record others) (Nat.le_max_right (Value.record entries).depth _)]
  exact h.readWith_eq

end DeclaresSame

end Definition

end Intake
