import Intake.Proofs.Text.Parts
import Mathlib.Computability.Language

/-!
# Languages of characters

Languages of texts are made of characters of classes by concatenation, choice and repetition, and of
words with separators between them. Main statements: a text is a row of words with separators between
them exactly if all its parts are words, provided that no word holds a separator. Two languages that
differ in the classes of their characters have the same words among the texts on whose characters the
classes agree.
-/

namespace Intake

open scoped Computability

/-- The words of one character of a class. -/
def oneOf (p : Char → Bool) : Language Char := {w | ∃ c, p c = true ∧ w = [c]}

/-- The word of one character. -/
def just (c : Char) : Language Char := {[c]}

/-- Words of a language with separators between them; there is at least one. -/
def separated (separator : Char) (l : Language Char) : Language Char :=
  l * (just separator * l)∗

/-- One word of each of several languages, with separators between them. -/
def joined (separator : Char) : List (Language Char) → Language Char
  | [] => 1
  | [l] => l
  | l :: m :: rest => l * (just separator * joined separator (m :: rest))

section Membership

variable {p : Char → Bool} {separator c : Char} {l m : Language Char} {w : List Char}

@[simp]
theorem mem_oneOf_iff : w ∈ oneOf p ↔ ∃ c, p c = true ∧ w = [c] := Iff.rfl

@[simp]
theorem mem_just_iff : w ∈ just c ↔ w = [c] := Iff.rfl

theorem mem_oneOf_mul_iff : w ∈ oneOf p * l ↔ ∃ c rest, w = c :: rest ∧ p c = true ∧ rest ∈ l := by
  rw [Language.mem_mul]
  constructor
  · rintro ⟨_, ⟨c, hc, rfl⟩, rest, hrest, rfl⟩
    exact ⟨c, rest, rfl, hc, hrest⟩
  · rintro ⟨c, rest, rfl, hc, hrest⟩
    exact ⟨[c], ⟨c, hc, rfl⟩, rest, hrest, rfl⟩

theorem mem_just_mul_iff : w ∈ just c * l ↔ ∃ rest, w = c :: rest ∧ rest ∈ l := by
  rw [Language.mem_mul]
  constructor
  · rintro ⟨_, rfl, rest, hrest, rfl⟩
    exact ⟨rest, rfl, hrest⟩
  · rintro ⟨rest, rfl, hrest⟩
    exact ⟨[c], rfl, rest, hrest, rfl⟩

/-- Words of any number of characters of a class. -/
theorem mem_oneOf_kstar_iff : w ∈ (oneOf p)∗ ↔ ∀ c ∈ w, p c = true := by
  rw [Language.mem_kstar]
  constructor
  · rintro ⟨parts, rfl, hparts⟩ c hc
    obtain ⟨part, hm, hpart⟩ := List.mem_flatten.mp hc
    obtain ⟨c', hc', rfl⟩ := hparts part hm
    rwa [List.mem_singleton.mp hpart]
  · intro h
    refine ⟨w.map fun c => [c], by simp [← List.flatMap_def], fun part hm => ?_⟩
    obtain ⟨c, hc, rfl⟩ := List.mem_map.mp hm
    exact ⟨c, h c hc, rfl⟩

/-- Words of at least one character of a class. -/
theorem mem_oneOf_mul_kstar_iff :
    w ∈ oneOf p * (oneOf p)∗ ↔ w ≠ [] ∧ ∀ c ∈ w, p c = true := by
  rw [mem_oneOf_mul_iff]
  cases w with
  | nil => simp
  | cons c rest => simp [mem_oneOf_kstar_iff]

/-- Words of a given number of characters of a class. -/
theorem mem_oneOf_pow_iff {n : Nat} :
    w ∈ oneOf p ^ n ↔ w.length = n ∧ ∀ c ∈ w, p c = true := by
  induction n generalizing w with
  | zero =>
    rw [pow_zero, Language.mem_one, List.length_eq_zero_iff]
    exact ⟨fun h => ⟨h, by simp [h]⟩, fun h => h.1⟩
  | succ n ih =>
    rw [pow_succ', mem_oneOf_mul_iff]
    cases w with
    | nil => simp
    | cons c rest =>
      rw [List.length_cons, Nat.add_right_cancel_iff, List.forall_mem_cons]
      constructor
      · rintro ⟨_, _, heq, hc, hrest⟩
        cases heq
        obtain ⟨hlength, hall⟩ := ih.mp hrest
        exact ⟨hlength, hc, hall⟩
      · rintro ⟨hlength, hc, hall⟩
        exact ⟨c, rest, rfl, hc, ih.mpr ⟨hlength, hall⟩⟩

end Membership

/-- All characters of all words of a language have a property. -/
def Over (p : Char → Prop) (l : Language Char) : Prop := ∀ w ∈ l, ∀ c ∈ w, p c

namespace Over

variable {p : Char → Prop} {l m : Language Char}

theorem one : Over p 1 := by
  rintro w rfl c hc
  cases hc

theorem just {c : Char} (h : p c) : Over p (just c) := by
  rintro w rfl c' hc
  rwa [List.mem_singleton.mp hc]

theorem oneOf {q : Char → Bool} (h : ∀ c, q c = true → p c) : Over p (oneOf q) := by
  rintro w ⟨c, hc, rfl⟩ c' hm
  rw [List.mem_singleton.mp hm]
  exact h c hc

/-- No word of characters of a class holds a character that is not in the class. -/
theorem oneOf_ne {q : Char → Bool} {c : Char} (h : q c = false) : Over (· ≠ c) (Intake.oneOf q) :=
  oneOf fun c' hc' heq => by
    rw [heq, h] at hc'
    cases hc'

theorem add (hl : Over p l) (hm : Over p m) : Over p (l + m) :=
  fun w hw => hw.elim (hl w) (hm w)

theorem mul (hl : Over p l) (hm : Over p m) : Over p (l * m) := by
  rintro w ⟨v, hv, u, hu, rfl⟩ c hc
  exact (List.mem_append.mp hc).elim (hl v hv c) (hm u hu c)

theorem kstar (h : Over p l) : Over p l∗ := by
  rintro w ⟨parts, rfl, hparts⟩ c hc
  obtain ⟨part, hm, hpart⟩ := List.mem_flatten.mp hc
  exact h part (hparts part hm) c hpart

theorem pow (h : Over p l) (n : Nat) : Over p (l ^ n) := by
  induction n with
  | zero => rw [pow_zero]; exact one
  | succ n ih => rw [pow_succ]; exact ih.mul h

theorem separated {separator : Char} (hs : p separator) (h : Over p l) :
    Over p (separated separator l) :=
  h.mul ((just hs).mul h).kstar

theorem joined {separator : Char} (hs : p separator) {languages : List (Language Char)}
    (h : ∀ l ∈ languages, Over p l) : Over p (joined separator languages) := by
  induction languages with
  | nil => exact one
  | cons l rest ih =>
    have hl := h l List.mem_cons_self
    have hrest := ih fun m hm => h m (List.mem_cons_of_mem l hm)
    cases rest with
    | nil => exact hl
    | cons m others => exact hl.mul ((just hs).mul hrest)

/-- No word holds a character that the characters of all words differ from. -/
theorem notMem {c : Char} (h : Over (· ≠ c) l) {w : List Char} (hw : w ∈ l) : c ∉ w :=
  fun hc => h w hw c hc rfl

end Over

section Separators

variable {separator : Char} {l m : Language Char} {w : List Char}

/-- A text of words with separators between them starts with a word, which is all of it or has a
separator and such a text behind it. -/
theorem mem_separated_iff_exists : w ∈ separated separator l ↔
    ∃ v ∈ l, w = v ∨ ∃ u ∈ separated separator l, w = v ++ separator :: u := by
  have hstar : separated separator l = l + l * (just separator * separated separator l) := by
    conv_lhs => rw [separated, ← Language.one_add_self_mul_kstar_eq_kstar]
    rw [mul_add, mul_one, mul_assoc]
    rfl
  conv_lhs => rw [hstar]
  rw [Language.mem_add, Language.mem_mul]
  constructor
  · rintro (hw | ⟨v, hv, _, hmore, rfl⟩)
    · exact ⟨w, hw, .inl rfl⟩
    · obtain ⟨u, rfl, hu⟩ := mem_just_mul_iff.mp hmore
      exact ⟨v, hv, .inr ⟨u, hu, rfl⟩⟩
  · rintro ⟨v, hv, rfl | ⟨u, hu, rfl⟩⟩
    · exact .inl hv
    · exact .inr ⟨v, hv, _, mem_just_mul_iff.mpr ⟨u, rfl, hu⟩, rfl⟩

/-- A text is a row of words with separators between them exactly if all its parts are words. -/
theorem mem_separated_iff (h : Over (· ≠ separator) l) :
    w ∈ separated separator l ↔ ∀ part ∈ splitParts separator w, part ∈ l := by
  induction hparts : splitParts separator w generalizing w with
  | nil => exact absurd hparts (splitParts_ne_nil separator w)
  | cons part parts ih =>
    obtain ⟨hpart, ⟨rfl, rfl⟩ | ⟨rest, rfl, hrest⟩⟩ := splitParts_eq_cons_iff.mp hparts
    · rw [mem_separated_iff_exists, List.forall_mem_singleton]
      constructor
      · rintro ⟨v, hv, rfl | ⟨u, -, rfl⟩⟩
        · exact hv
        · exact absurd (List.mem_append_right v List.mem_cons_self) hpart
      · exact fun hw => ⟨w, hw, .inl rfl⟩
    · rw [List.forall_mem_cons, ← ih hrest, mem_separated_iff_exists]
      -- A word in front of a separator is the first part.
      constructor
      · rintro ⟨v, hv, heq | ⟨u, hu, heq⟩⟩
        · exact absurd (heq ▸ List.mem_append_right part List.mem_cons_self) (h.notMem hv)
        · obtain ⟨rfl, rfl⟩ : part = v ∧ rest = u := by
            have hsplit := splitFirst_append_cons hpart rest
            rw [heq, splitFirst_append_cons (h.notMem hv)] at hsplit
            simpa [eq_comm] using hsplit
          exact ⟨hv, hu⟩
      · exact fun ⟨hv, hu⟩ => ⟨part, hv, .inr ⟨rest, hu, rfl⟩⟩

/-- A text is made of words of several languages with separators between them exactly if its parts are
words of these, one of each. -/
theorem mem_joined_iff {languages : List (Language Char)} (hne : languages ≠ [])
    (h : ∀ l ∈ languages, Over (· ≠ separator) l) :
    w ∈ joined separator languages ↔
      List.Forall₂ (· ∈ ·) (splitParts separator w) languages := by
  induction languages generalizing w with
  | nil => exact absurd rfl hne
  | cons l rest ih =>
    have hl := h l List.mem_cons_self
    cases rest with
    | nil =>
      rw [joined, List.forall₂_cons_right_iff]
      constructor
      · exact fun hw => ⟨w, [], hw, .nil, splitParts_of_notMem (hl.notMem hw)⟩
      · rintro ⟨part, _, hpart, hnil, hparts⟩
        cases hnil
        obtain ⟨-, ⟨-, rfl⟩ | ⟨rest, -, hrest⟩⟩ := splitParts_eq_cons_iff.mp hparts
        · exact hpart
        · exact absurd hrest (splitParts_ne_nil separator rest)
    | cons m others =>
      have hothers (rest : List Char) :=
        ih (w := rest) (by simp) fun l hl => h l (List.mem_cons_of_mem _ hl)
      rw [joined, Language.mem_mul, List.forall₂_cons_right_iff]
      constructor
      · rintro ⟨part, hpart, _, hmore, rfl⟩
        obtain ⟨rest, rfl, hrest⟩ := mem_just_mul_iff.mp hmore
        exact ⟨part, _, hpart, (hothers rest).mp hrest, splitParts_append_cons (hl.notMem hpart) rest⟩
      · rintro ⟨part, parts, hpart, hmore, hparts⟩
        obtain ⟨-, ⟨rfl, -⟩ | ⟨rest, rfl, rfl⟩⟩ := splitParts_eq_cons_iff.mp hparts
        · cases hmore
        · exact ⟨part, hpart, _, mem_just_mul_iff.mpr ⟨rest, rfl, (hothers rest).mpr hmore⟩, rfl⟩

/-- A text is made of two words with a separator between them exactly if it has two parts which are
these. -/
theorem mem_joined_pair_iff {l m : Language Char} (hl : Over (· ≠ separator) l)
    (hm : Over (· ≠ separator) m) :
    w ∈ joined separator [l, m] ↔
      ∃ u v, splitParts separator w = [u, v] ∧ u ∈ l ∧ v ∈ m := by
  rw [mem_joined_iff (by simp) (by simp [hl, hm])]
  simp only [List.forall₂_cons_right_iff, List.forall₂_nil_right_iff]
  constructor
  · rintro ⟨u, _, hu, ⟨v, _, hv, rfl, rfl⟩, hparts⟩
    exact ⟨u, v, hparts, hu, hv⟩
  · rintro ⟨u, v, hparts, hu, hv⟩
    exact ⟨u, _, hu, ⟨v, _, hv, rfl, rfl⟩, hparts⟩

/-- A text is made of three words with separators between them exactly if it has three parts which are
these. -/
theorem mem_joined_triple_iff {l m n : Language Char} (hl : Over (· ≠ separator) l)
    (hm : Over (· ≠ separator) m) (hn : Over (· ≠ separator) n) :
    w ∈ joined separator [l, m, n] ↔
      ∃ u v x, splitParts separator w = [u, v, x] ∧ u ∈ l ∧ v ∈ m ∧ x ∈ n := by
  rw [mem_joined_iff (by simp) (by simp [hl, hm, hn])]
  simp only [List.forall₂_cons_right_iff, List.forall₂_nil_right_iff]
  constructor
  · rintro ⟨u, _, hu, ⟨v, _, hv, ⟨x, _, hx, rfl, rfl⟩, rfl⟩, hparts⟩
    exact ⟨u, v, x, hparts, hu, hv, hx⟩
  · rintro ⟨u, v, x, hparts, hu, hv, hx⟩
    exact ⟨u, _, hu, ⟨v, _, hv, ⟨x, _, hx, rfl, rfl⟩, rfl⟩, hparts⟩

/-- A text is a word with or without a separator and another word behind it exactly if what stands in
front of its first separator is the first word, and what stands behind it the second. -/
theorem mem_mul_optional_iff (h : Over (· ≠ separator) l) :
    w ∈ l * (1 + just separator * m) ↔
      (splitFirst separator w).1 ∈ l ∧ ∀ after ∈ (splitFirst separator w).2, after ∈ m := by
  rw [mul_add, mul_one, Language.mem_add, Language.mem_mul]
  rcases splitFirst_cases separator w with ⟨hw, hsplit⟩ | ⟨v, u, rfl, hv, hsplit⟩
  · rw [hsplit]
    constructor
    · rintro (hw' | ⟨v, -, _, hu, rfl⟩)
      · exact ⟨hw', nofun⟩
      · obtain ⟨u, rfl, -⟩ := mem_just_mul_iff.mp hu
        exact absurd (List.mem_append_right v List.mem_cons_self) hw
    · exact fun ⟨hw', _⟩ => .inl hw'
  · rw [hsplit]
    constructor
    · rintro (hw' | ⟨v', hv', _, hu, heq⟩)
      · exact absurd (List.mem_append_right v List.mem_cons_self) (h.notMem hw')
      · obtain ⟨u', rfl, hu'⟩ := mem_just_mul_iff.mp hu
        rw [← heq, splitFirst_append_cons (h.notMem hv')] at hsplit
        obtain ⟨rfl, rfl⟩ : v' = v ∧ u' = u := by simpa using hsplit
        exact ⟨hv', fun after hafter => by cases hafter; exact hu'⟩
    · exact fun ⟨hl, hm⟩ => .inr ⟨v, hl, _, mem_just_mul_iff.mpr ⟨u, rfl, hm u rfl⟩, rfl⟩

end Separators

/-- Two languages have the same words among the texts whose characters have a property. -/
def AgreeOver (p : Char → Prop) (l m : Language Char) : Prop :=
  ∀ w : List Char, (∀ c ∈ w, p c) → (w ∈ l ↔ w ∈ m)

namespace AgreeOver

variable {p : Char → Prop} {l l' m m' : Language Char}

theorem refl (l : Language Char) : AgreeOver p l l := fun _ _ => Iff.rfl

theorem oneOf {q q' : Char → Bool} (h : ∀ c, p c → q c = q' c) :
    AgreeOver p (oneOf q) (oneOf q') := by
  intro w hw
  refine exists_congr fun c => and_congr_left ?_
  rintro rfl
  rw [h c (hw c List.mem_cons_self)]

theorem add (hl : AgreeOver p l l') (hm : AgreeOver p m m') : AgreeOver p (l + m) (l' + m') :=
  fun w hw => or_congr (hl w hw) (hm w hw)

theorem mul (hl : AgreeOver p l l') (hm : AgreeOver p m m') : AgreeOver p (l * m) (l' * m') := by
  intro w hw
  rw [Language.mem_mul, Language.mem_mul]
  constructor
  · rintro ⟨v, hv, u, hu, rfl⟩
    obtain ⟨hpv, hpu⟩ := List.forall_mem_append.mp hw
    exact ⟨v, (hl v hpv).mp hv, u, (hm u hpu).mp hu, rfl⟩
  · rintro ⟨v, hv, u, hu, rfl⟩
    obtain ⟨hpv, hpu⟩ := List.forall_mem_append.mp hw
    exact ⟨v, (hl v hpv).mpr hv, u, (hm u hpu).mpr hu, rfl⟩

theorem kstar (h : AgreeOver p l l') : AgreeOver p l∗ l'∗ := by
  intro w hw
  refine exists_congr fun parts => and_congr_right ?_
  rintro rfl
  refine forall₂_congr fun part hm => h part fun c hc => ?_
  exact hw c (List.mem_flatten.mpr ⟨part, hm, hc⟩)

theorem separated {separator : Char} (h : AgreeOver p l l') :
    AgreeOver p (separated separator l) (separated separator l') :=
  h.mul ((refl (just separator)).mul h).kstar

theorem joined {separator : Char} {languages languages' : List (Language Char)}
    (h : List.Forall₂ (AgreeOver p) languages languages') :
    AgreeOver p (joined separator languages) (joined separator languages') := by
  induction h with
  | nil => exact refl 1
  | @cons l l' rest rest' hl hrest ih =>
    cases hrest with
    | nil => exact hl
    | cons => exact hl.mul ((refl (just separator)).mul ih)

end AgreeOver

end Intake
