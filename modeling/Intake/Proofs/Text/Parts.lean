import Intake.Format.Structural

/-!
# Parts between separators

A text is split at all separators in it, or at the first one. Main statements: parts without separators
are found again between the separators put among them, and no part holds one.
-/

namespace Intake

variable {separator : Char}

/-- Parts without separators are found again between the separators put among them. -/
theorem splitParts_intercalate {parts : List (List Char)} (hn : parts ≠ [])
    (h : ∀ part ∈ parts, separator ∉ part) :
    splitParts separator ([separator].intercalate parts) = parts := by
  induction parts with
  | nil => exact absurd rfl hn
  | cons part others ih =>
    have hp : separator ∉ part := h part List.mem_cons_self
    by_cases ho : others = []
    · rw [ho, List.intercalate_singleton]
      exact splitParts_of_notMem hp
    · rw [List.intercalate_cons_of_ne_nil ho, List.append_assoc, List.singleton_append,
        splitParts_append_cons hp]
      rw [ih ho (fun other hm => h other (List.mem_cons_of_mem _ hm))]

/-- No part between separators holds one. -/
theorem notMem_of_mem_splitParts {cs part : List Char} (h : part ∈ splitParts separator cs) :
    separator ∉ part := by
  induction cs generalizing part with
  | nil =>
    rw [List.mem_singleton.mp h]
    exact List.not_mem_nil
  | cons c rest ih =>
    rw [splitParts] at h
    split at h
    · rcases List.mem_cons.mp h with rfl | h
      · exact List.not_mem_nil
      · exact ih h
    · next hne =>
      split at h
      · rw [List.mem_singleton.mp h]
        exact fun hm => hne (List.mem_singleton.mp hm).symm
      · next first parts hparts =>
        rcases List.mem_cons.mp h with rfl | h
        · intro hm
          rcases List.mem_cons.mp hm with heq | hm
          · exact hne heq.symm
          · exact ih (hparts ▸ List.mem_cons_self) hm
        · exact ih (hparts ▸ List.mem_cons_of_mem first h)

/-- The parts of two texts with a separator between them are those of the one and then those of the
other. -/
theorem splitParts_append (cs rest : List Char) :
    splitParts separator (cs ++ separator :: rest) =
      splitParts separator cs ++ splitParts separator rest := by
  induction cs with
  | nil => simp [splitParts]
  | cons c tail ih =>
    rw [List.cons_append, splitParts, splitParts, ih]
    split
    · rfl
    · cases hparts : splitParts separator tail with
      | nil => exact absurd hparts (splitParts_ne_nil separator tail)
      | cons part parts => rfl

/-- All characters of the parts have a property exactly if all characters of the text have it that are
no separators. -/
theorem forall_mem_splitParts_iff {p : Char → Prop} {cs : List Char} :
    (∀ part ∈ splitParts separator cs, ∀ c ∈ part, p c) ↔ ∀ c ∈ cs, c ≠ separator → p c := by
  induction cs with
  | nil => simp [splitParts]
  | cons c rest ih =>
    rw [splitParts, List.forall_mem_cons, ← ih]
    split
    · next h => simp [h]
    · next h =>
      cases hparts : splitParts separator rest with
      | nil => exact absurd hparts (splitParts_ne_nil separator rest)
      | cons part parts => simp [h, and_assoc]

/-- The first part of a text is all of it, or ends at a separator behind which the other parts are
found. -/
theorem splitParts_eq_cons_iff {cs part : List Char} {parts : List (List Char)} :
    splitParts separator cs = part :: parts ↔
      separator ∉ part ∧ (parts = [] ∧ cs = part ∨
        ∃ rest, cs = part ++ separator :: rest ∧ splitParts separator rest = parts) := by
  constructor
  · intro h
    have hpart : separator ∉ part := notMem_of_mem_splitParts (h ▸ List.mem_cons_self)
    have hothers (other : List Char) (hm : other ∈ parts) : separator ∉ other :=
      notMem_of_mem_splitParts (h ▸ List.mem_cons_of_mem part hm)
    have htext := intercalate_splitParts separator cs
    rw [h] at htext
    refine ⟨hpart, ?_⟩
    by_cases hparts : parts = []
    · rw [hparts, List.intercalate_singleton] at htext
      exact .inl ⟨hparts, htext.symm⟩
    · rw [List.intercalate_cons_of_ne_nil hparts, List.append_assoc, List.singleton_append] at htext
      exact .inr ⟨_, htext.symm, splitParts_intercalate hparts hothers⟩
  · rintro ⟨hpart, ⟨rfl, rfl⟩ | ⟨rest, rfl, rfl⟩⟩
    · exact splitParts_of_notMem hpart
    · exact splitParts_append_cons hpart rest

/-- The last part of a text starts behind a separator, in front of which the other parts are found. -/
theorem splitParts_eq_concat_iff {cs last : List Char} {parts : List (List Char)}
    (hparts : parts ≠ []) :
    splitParts separator cs = parts ++ [last] ↔
      separator ∉ last ∧ ∃ front, cs = front ++ separator :: last ∧
        splitParts separator front = parts := by
  constructor
  · intro h
    have hlast : separator ∉ last :=
      notMem_of_mem_splitParts (h ▸ List.mem_append_right parts (List.mem_singleton.mpr rfl))
    have hothers (other : List Char) (hm : other ∈ parts) : separator ∉ other :=
      notMem_of_mem_splitParts (h ▸ List.mem_append_left [last] hm)
    have hfront := splitParts_intercalate hparts hothers
    refine ⟨hlast, [separator].intercalate parts, ?_, hfront⟩
    -- Both texts have the same parts.
    have hsame : splitParts separator ([separator].intercalate parts ++ separator :: last) =
        splitParts separator cs := by
      rw [splitParts_append, hfront, splitParts_of_notMem hlast, h]
    rw [← intercalate_splitParts separator cs, ← hsame, intercalate_splitParts]
  · rintro ⟨hlast, front, rfl, rfl⟩
    rw [splitParts_append, splitParts_of_notMem hlast]

/-- A text without separators is all before the first one. -/
theorem splitFirst_of_notMem {cs : List Char} (h : separator ∉ cs) :
    splitFirst separator cs = (cs, none) := by
  induction cs with
  | nil => rfl
  | cons c rest ih =>
    obtain ⟨hc, hrest⟩ := not_or.mp (mt List.mem_cons.mpr h)
    rw [splitFirst, if_neg (Ne.symm hc), ih hrest]

/-- A text is split at the first separator. -/
theorem splitFirst_append_cons {before : List Char} (h : separator ∉ before) (after : List Char) :
    splitFirst separator (before ++ separator :: after) = (before, some after) := by
  induction before with
  | nil => rw [List.nil_append, splitFirst, if_pos rfl]
  | cons c rest ih =>
    obtain ⟨hc, hrest⟩ := not_or.mp (mt List.mem_cons.mpr h)
    rw [List.cons_append, splitFirst, if_neg (Ne.symm hc), ih hrest]

/-- A text has no separator, or it is split at its first one. -/
theorem splitFirst_cases (separator : Char) (cs : List Char) :
    (separator ∉ cs ∧ splitFirst separator cs = (cs, none)) ∨
      ∃ before after, cs = before ++ separator :: after ∧ separator ∉ before ∧
        splitFirst separator cs = (before, some after) := by
  by_cases h : separator ∈ cs
  · obtain ⟨before, after, rfl, hbefore⟩ := List.eq_append_cons_of_mem h
    exact .inr ⟨before, after, rfl, hbefore, splitFirst_append_cons hbefore after⟩
  · exact .inl ⟨h, splitFirst_of_notMem h⟩

/-- What stands before the first separator goes on up to it. -/
theorem splitFirst_fst (separator : Char) (cs : List Char) :
    (splitFirst separator cs).1 = cs.takeWhile (· != separator) := by
  induction cs with
  | nil => rfl
  | cons c rest ih =>
    rw [splitFirst]
    split <;> simp_all

end Intake
