import Intake.Proofs.Json.Scalar
import Mathlib.Data.List.Pairwise

/-!
# What canonical texts tell of values

A canonical text says itself where it ends, so that the texts of the items of a list and of the
entries of a record are known from the text of the whole. Main statements: lists with the same text
have items with the same texts in the same order, and records with the same text have the same texts
under each key. The order of the keys of a record is not to be seen in its text.
-/

namespace Intake

namespace Json

/-- What can follow a value: nothing, or a stop. -/
def Ends (rest : List Char) : Prop := ∀ c tail, rest = c :: tail → IsStop c

/-- A text starts with what is no stop. -/
def Starts (t : List Char) : Prop := ∃ c tail, t = c :: tail ∧ ¬ IsStop c

/-- A text is known among others from what it starts, up to a stop. -/
def Delimited (P : List Char → Prop) (t : List Char) : Prop :=
  ∀ t' rest rest', P t' → t ++ rest = t' ++ rest' → Ends rest → Ends rest' → t = t'

theorem ends_cons {c : Char} (hc : IsStop c) (tail : List Char) : Ends (c :: tail) := by
  intro other _ h
  cases h
  exact hc

theorem Starts.append {t : List Char} (h : Starts t) (rest : List Char) : Starts (t ++ rest) := by
  obtain ⟨c, tail, rfl, hc⟩ := h
  exact ⟨c, tail ++ rest, rfl, hc⟩

theorem not_starts_cons {c : Char} (hc : IsStop c) (tail : List Char) : ¬ Starts (c :: tail) := by
  rintro ⟨_, _, h, hc'⟩
  cases h
  exact hc' hc

/-- Texts without stops are known up to a stop. -/
theorem eq_of_append_of_not_isStop {t t' rest rest' : List Char} (ht : ∀ c ∈ t, ¬ IsStop c)
    (ht' : ∀ c ∈ t', ¬ IsStop c) (h : t ++ rest = t' ++ rest') (hr : Ends rest)
    (hr' : Ends rest') : t = t' := by
  induction t generalizing t' with
  | nil =>
    cases t' with
    | nil => rfl
    | cons c' tail' => exact absurd (hr c' _ h) (ht' c' List.mem_cons_self)
  | cons c tail ih =>
    cases t' with
    | nil => exact absurd (hr' c _ h.symm) (ht c List.mem_cons_self)
    | cons c' tail' =>
      obtain ⟨rfl, htail⟩ := List.cons.inj h
      rw [ih (fun x hx => ht x (List.mem_cons_of_mem _ hx))
        (fun x hx => ht' x (List.mem_cons_of_mem _ hx)) htail]

/-- After the first of several texts comes the closing bracket or a comma. -/
theorem exists_joinTexts_cons (t : List Char) (others : List (List Char)) (close : Char)
    (rest : List Char) :
    ∃ c tail, joinTexts [','] (t :: others) ++ close :: rest = t ++ c :: tail ∧
      ((others = [] ∧ c = close ∧ tail = rest) ∨
        (others ≠ [] ∧ c = ',' ∧ tail = joinTexts [','] others ++ close :: rest)) := by
  cases others with
  | nil => exact ⟨close, rest, rfl, .inl ⟨rfl, rfl, rfl⟩⟩
  | cons other more =>
    refine ⟨',', joinTexts [','] (other :: more) ++ close :: rest, ?_, .inr ⟨by simp, rfl, rfl⟩⟩
    rw [joinTexts, List.append_assoc, List.append_assoc]
    · rfl
    · simp

/-- Texts between commas are known up to a closing bracket. -/
theorem joinTexts_injective {P : List Char → Prop} {close : Char} (hclose : IsStop close)
    (hcomma : close ≠ ',') {ts ts' : List (List Char)}
    (ht : ∀ t ∈ ts, Starts t ∧ Delimited P t) (ht' : ∀ t ∈ ts', Starts t ∧ P t)
    {rest rest' : List Char}
    (h : joinTexts [','] ts ++ close :: rest = joinTexts [','] ts' ++ close :: rest') :
    ts = ts' := by
  have hstop {c : Char} (hc : c = close ∨ c = ',') : IsStop c := by
    rcases hc with rfl | rfl
    · exact hclose
    · exact .inl rfl
  induction ts generalizing ts' with
  | nil =>
    cases ts' with
    | nil => rfl
    | cons t' others' =>
      obtain ⟨c', tail', htail', -⟩ := exists_joinTexts_cons t' others' close rest'
      rw [htail'] at h
      have hstarts := (ht' t' List.mem_cons_self).1.append (c' :: tail')
      rw [← h] at hstarts
      exact absurd hstarts (not_starts_cons hclose rest)
  | cons t others ih =>
    obtain ⟨c, tail, htail, hcases⟩ := exists_joinTexts_cons t others close rest
    rw [htail] at h
    cases ts' with
    | nil =>
      have hstarts := (ht t List.mem_cons_self).1.append (c :: tail)
      rw [h] at hstarts
      exact absurd hstarts (not_starts_cons hclose rest')
    | cons t' others' =>
      obtain ⟨c', tail', htail', hcases'⟩ := exists_joinTexts_cons t' others' close rest'
      rw [htail'] at h
      have hc : IsStop c := hstop (hcases.imp (·.2.1) (·.2.1))
      have hc' : IsStop c' := hstop (hcases'.imp (·.2.1) (·.2.1))
      obtain rfl : t = t' := (ht t List.mem_cons_self).2 t' _ _ (ht' t' List.mem_cons_self).2 h
        (ends_cons hc tail) (ends_cons hc' tail')
      obtain ⟨rfl, rfl⟩ := List.cons.inj (List.append_cancel_left h)
      rcases hcases with ⟨rfl, rfl, rfl⟩ | ⟨-, rfl, rfl⟩
      · rcases hcases' with ⟨rfl, -, -⟩ | ⟨-, hc, -⟩
        · rfl
        · exact absurd hc hcomma
      · rcases hcases' with ⟨-, hc, -⟩ | ⟨-, -, htail⟩
        · exact absurd hc.symm hcomma
        · rw [ih (fun other hm => ht other (List.mem_cons_of_mem _ hm))
            (fun other hm => ht' other (List.mem_cons_of_mem _ hm)) htail]

/-- The text of an entry. -/
def entryText (part : String × List Char) : List Char := stringText part.1 ++ ':' :: part.2

/-- The texts that values can have. -/
inductive Shaped : List Char → Prop where
  /-- A word or a number. -/
  | plain {c : Char} {rest : List Char} (hquote : c ≠ '"') (hlist : c ≠ '[')
      (hrecord : c ≠ '\x7b') (hstop : ∀ x ∈ c :: rest, ¬ IsStop x) : Shaped (c :: rest)
  /-- A string. -/
  | string (s : String) : Shaped (stringText s)
  /-- A list. -/
  | list (ts : List (List Char)) (hts : ∀ t ∈ ts, Shaped t) :
      Shaped ('[' :: joinTexts [','] ts ++ [']'])
  /-- A record. -/
  | record (parts : List (String × List Char)) (hparts : ∀ part ∈ parts, Shaped part.2) :
      Shaped ('\x7b' :: joinTexts [','] (parts.map entryText) ++ ['\x7d'])

theorem Shaped.starts {t : List Char} (h : Shaped t) : Starts t := by
  cases h with
  | plain _ _ _ hstop => exact ⟨_, _, rfl, hstop _ List.mem_cons_self⟩
  | string s => exact ⟨'"', _, rfl, by simp [IsStop]⟩
  | list ts _ => exact ⟨'[', _, rfl, by simp [IsStop]⟩
  | record parts _ => exact ⟨'\x7b', _, rfl, by simp [IsStop]⟩

/-- The text of an entry with a value. -/
def ShapedEntry (t : List Char) : Prop := ∃ part, t = entryText part ∧ Shaped part.2

/-- The text of an entry is known up to a stop if the text of its value is. -/
theorem delimited_entryText {part : String × List Char} (h : Delimited Shaped part.2) :
    Delimited ShapedEntry (entryText part) := by
  rintro _ rest rest' ⟨part', rfl, hshaped⟩ heq hr hr'
  unfold entryText at heq ⊢
  rw [List.append_assoc, List.append_assoc] at heq
  obtain ⟨hkey, hvalue⟩ := stringText_append_injective heq
  rw [hkey, h part'.2 rest rest' hshaped (List.cons.inj hvalue).2 hr hr']

theorem starts_entryText (part : String × List Char) : Starts (entryText part) :=
  ⟨'"', _, rfl, by simp [IsStop]⟩

theorem shapedEntry_of_mem_entryTexts {parts : List (String × List Char)}
    (h : ∀ part ∈ parts, Shaped part.2) :
    ∀ t ∈ parts.map entryText, Starts t ∧ ShapedEntry t := by
  intro t ht
  obtain ⟨part, hm, rfl⟩ := List.mem_map.mp ht
  exact ⟨starts_entryText part, part, rfl, h part hm⟩

theorem delimited_of_mem_entryTexts {parts : List (String × List Char)}
    (h : ∀ part ∈ parts, Delimited Shaped part.2) :
    ∀ t ∈ parts.map entryText, Starts t ∧ Delimited ShapedEntry t := by
  intro t ht
  obtain ⟨part, hm, rfl⟩ := List.mem_map.mp ht
  exact ⟨starts_entryText part, delimited_entryText (h part hm)⟩

/-- The text of a value is known up to a stop. -/
theorem Shaped.delimited {t : List Char} (h : Shaped t) : Delimited Shaped t := by
  induction h with
  | plain hquote hlist hrecord hstop =>
    intro t' rest rest' h' heq hr hr'
    cases h' with
    | plain _ _ _ hstop' => exact eq_of_append_of_not_isStop hstop hstop' heq hr hr'
    | string s => exact absurd (List.cons.inj heq).1 hquote
    | list ts _ => exact absurd (List.cons.inj heq).1 hlist
    | record parts _ => exact absurd (List.cons.inj heq).1 hrecord
  | string s =>
    intro t' rest rest' h' heq hr hr'
    cases h' with
    | plain hquote _ _ _ => exact absurd (List.cons.inj heq).1.symm hquote
    | string s' => rw [(stringText_append_injective heq).1]
    | list ts _ => exact absurd (List.cons.inj heq).1 (by decide)
    | record parts _ => exact absurd (List.cons.inj heq).1 (by decide)
  | list ts hts ih =>
    intro t' rest rest' h' heq hr hr'
    cases h' with
    | plain _ hlist _ _ => exact absurd (List.cons.inj heq).1.symm hlist
    | string s => exact absurd (List.cons.inj heq).1 (by decide)
    | list ts' hts' =>
      simp only [List.cons_append, List.append_assoc, List.nil_append, List.cons.injEq,
        true_and] at heq
      rw [joinTexts_injective (.inr (.inl rfl)) (by decide)
        (fun t ht => ⟨(hts t ht).starts, ih t ht⟩) (fun t ht => ⟨(hts' t ht).starts, hts' t ht⟩)
        heq]
    | record parts _ => exact absurd (List.cons.inj heq).1 (by decide)
  | record parts hparts ih =>
    intro t' rest rest' h' heq hr hr'
    cases h' with
    | plain _ _ hrecord _ => exact absurd (List.cons.inj heq).1.symm hrecord
    | string s => exact absurd (List.cons.inj heq).1 (by decide)
    | list ts' hts' => exact absurd (List.cons.inj heq).1 (by decide)
    | record parts' hparts' =>
      simp only [List.cons_append, List.append_assoc, List.nil_append, List.cons.injEq,
        true_and] at heq
      rw [joinTexts_injective (.inr (.inr rfl)) (by decide)
        (delimited_of_mem_entryTexts ih) (shapedEntry_of_mem_entryTexts hparts') heq]

theorem shaped_words :
    Shaped "null".toList ∧ Shaped "true".toList ∧ Shaped "false".toList := by
  have hnull : "null".toList = ['n', 'u', 'l', 'l'] := by decide
  have htrue : "true".toList = ['t', 'r', 'u', 'e'] := by decide
  have hfalse : "false".toList = ['f', 'a', 'l', 's', 'e'] := by decide
  rw [hnull, htrue, hfalse]
  refine ⟨?_, ?_, ?_⟩
  all_goals exact .plain (by decide) (by decide) (by decide) (by simp [IsStop])

theorem shaped_number (n : Number) : Shaped (n.text layout) := by
  obtain ⟨c, rest, hc, hstart⟩ := exists_text_eq_cons n
  have hstop := not_isStop_of_mem_text n
  rw [hc] at hstop ⊢
  refine .plain ?_ ?_ ?_ hstop
  all_goals
    rintro rfl
    simp at hstart

mutual

/-- The canonical text of a value has the shape of one. -/
theorem shaped_canonical (v : Value) : Shaped (canonical v) := by
  match v with
  | .null => exact shaped_words.1
  | .bool true => exact shaped_words.2.1
  | .bool false => exact shaped_words.2.2
  | .number n => exact shaped_number n
  | .text s => exact .string s
  | .list items => 
    unfold canonical
    exact .list _ (shaped_canonicalItems items)
  | .record entries =>
    unfold canonical
    refine .record _ fun part hm => ?_
    exact shaped_canonicalEntries entries part (List.mem_mergeSort.mp hm)
  | .date d => exact .string _
  | .dateTime t => exact .string _
  | .time t => exact .string _

theorem shaped_canonicalItems (items : List Value) : ∀ t ∈ canonicalItems items, Shaped t := by
  match items with
  | [] => simp [canonicalItems]
  | item :: rest =>
    intro t ht
    rcases List.mem_cons.mp ht with rfl | ht
    · exact shaped_canonical item
    · exact shaped_canonicalItems rest t ht

theorem shaped_canonicalEntries (entries : List (String × Value)) :
    ∀ part ∈ canonicalEntries entries, Shaped part.2 := by
  match entries with
  | [] => simp [canonicalEntries]
  | (key, value) :: rest =>
    intro part hm
    rcases List.mem_cons.mp hm with rfl | hm
    · exact shaped_canonical value
    · exact shaped_canonicalEntries rest part hm

end

/-- Lists with the same text have items with the same texts. -/
theorem canonicalItems_eq {items items' : List Value}
    (h : canonical (.list items) = canonical (.list items')) :
    canonicalItems items = canonicalItems items' := by
  have hts := shaped_canonicalItems items
  have hts' := shaped_canonicalItems items'
  simp only [canonical, List.cons_append, List.cons.injEq, true_and] at h
  exact joinTexts_injective (.inr (.inl rfl)) (by decide)
    (fun t ht => ⟨(hts t ht).starts, (hts t ht).delimited⟩)
    (fun t ht => ⟨(hts' t ht).starts, hts' t ht⟩) h

theorem entryText_injective : Function.Injective entryText := by
  rintro ⟨key, text⟩ ⟨key', text'⟩ h
  obtain ⟨hkey, htext⟩ := stringText_append_injective h
  exact Prod.ext hkey (List.cons.inj htext).2

/-- Records with the same text have the same entries in the order of the keys. -/
theorem sortedEntries_eq {entries entries' : List (String × Value)}
    (h : canonical (.record entries) = canonical (.record entries')) :
    (canonicalEntries entries).mergeSort keyAtMost =
      (canonicalEntries entries').mergeSort keyAtMost := by
  have hparts : ∀ part ∈ (canonicalEntries entries).mergeSort keyAtMost, Shaped part.2 :=
    fun part hm => shaped_canonicalEntries entries part (List.mem_mergeSort.mp hm)
  have hparts' : ∀ part ∈ (canonicalEntries entries').mergeSort keyAtMost, Shaped part.2 :=
    fun part hm => shaped_canonicalEntries entries' part (List.mem_mergeSort.mp hm)
  simp only [canonical, List.cons_append, List.cons.injEq, true_and] at h
  exact entryText_injective.list_map (joinTexts_injective (.inr (.inr rfl)) (by decide)
    (delimited_of_mem_entryTexts fun part hm => (hparts part hm).delimited)
    (shapedEntry_of_mem_entryTexts hparts') h)

/-- The canonical texts of the values under a key, in order. -/
def textsUnder (key : String) (entries : List (String × Value)) : List (List Char) :=
  ((canonicalEntries entries).filter fun part => decide (part.1 = key)).map (·.2)

theorem keyAtMost_of_eq {a b : String × List Char} (h : a.1 = b.1) : keyAtMost a b = true := by
  simp only [keyAtMost, h, Bool.not_eq_true', decide_eq_false_iff_not]
  exact String.lt_irrefl b.1

theorem keyAtMost_trans (a b c : String × List Char) (hab : keyAtMost a b = true)
    (hbc : keyAtMost b c = true) : keyAtMost a c = true := by
  simp only [keyAtMost, Bool.not_eq_true', decide_eq_false_iff_not] at *
  exact String.le_trans hab hbc

theorem keyAtMost_total (a b : String × List Char) : (keyAtMost a b || keyAtMost b a) = true := by
  simp only [keyAtMost, Bool.or_eq_true, Bool.not_eq_true', decide_eq_false_iff_not]
  exact String.le_total a.1 b.1

/-- Sorting by keys keeps the order of what has the same key. -/
theorem filter_mergeSort (parts : List (String × List Char)) (key : String) :
    (parts.mergeSort keyAtMost).filter (fun part => decide (part.1 = key)) =
      parts.filter fun part => decide (part.1 = key) := by
  have hkeys : (parts.filter fun part => decide (part.1 = key)).Pairwise
      (fun a b => keyAtMost a b = true) := by
    refine List.pairwise_of_forall_mem_list fun a ha b hb => keyAtMost_of_eq ?_
    have hka : a.1 = key := by simpa using (List.mem_filter.mp ha).2
    have hkb : b.1 = key := by simpa using (List.mem_filter.mp hb).2
    rw [hka, hkb]
  have hsub := (List.sublist_mergeSort keyAtMost_trans keyAtMost_total hkeys
    List.filter_sublist).filter fun part => decide (part.1 = key)
  simp only [List.filter_filter, Bool.and_self] at hsub
  refine (hsub.eq_of_length_le ?_).symm
  exact (((List.mergeSort_perm parts keyAtMost).filter _).length_eq).le

/-- Records with the same text have the same texts under each key. -/
theorem textsUnder_eq {entries entries' : List (String × Value)}
    (h : canonical (.record entries) = canonical (.record entries')) (key : String) :
    textsUnder key entries = textsUnder key entries' := by
  unfold textsUnder
  rw [← filter_mergeSort, sortedEntries_eq h, filter_mergeSort]

end Json

end Intake
