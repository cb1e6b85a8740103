import Intake.Json.Reader
import Intake.Json.Writer
import Intake.Proofs.Number.Text

/-!
# Scalars are known by their JSON texts

Numbers and strings with the same JSON text are the same. A number's text has none of the characters
that can follow a value, and a string's text says itself where it ends: it is read back, character by
character. That numbers are read back is not covered here.
-/

namespace Intake

namespace Json

/-- A sign and what follows it are known by the text, if what follows does not start with a sign. -/
theorem sign_append_injective {b b' : Bool} {c c' : Char} {rest rest' : List Char}
    (hc : c ≠ '-') (hc' : c' ≠ '-')
    (h : (if b then ['-'] else []) ++ c :: rest = (if b' then ['-'] else []) ++ c' :: rest') :
    b = b' ∧ c :: rest = c' :: rest' := by
  cases b <;> cases b'
  · exact ⟨rfl, h⟩
  · exact absurd (List.cons.inj h).1 hc
  · exact absurd (List.cons.inj h).1.symm hc'
  · exact ⟨rfl, (List.cons.inj h).2⟩

/-- The JSON text of a double without its sign. -/
def magnitudeText (x : Binary64) : List Char :=
  match x.shortest? with
  | some d => d.layOut
  | none => if x = .nan then "NaN".toList else "Infinity".toList

/-- The JSON text of a double is its sign and the rest. -/
theorem text_eq_sign_append (x : Binary64) :
    x.text layout = (if x.isNegative then ['-'] else []) ++ magnitudeText x := by
  unfold Binary64.text magnitudeText
  cases x with
  | nan => rfl
  | infinite negative => rfl
  | finite negative m e canonical => rfl

theorem magnitudeText_nan_ne (negative : Bool) :
    magnitudeText .nan ≠ magnitudeText (.infinite negative) := by
  change "NaN".toList ≠ "Infinity".toList
  decide

/-- What is written after the sign of a finite double is no word. -/
theorem layOut_ne_cons {c : Char} (hc : c.isDigit = false) (d : Decimal) (rest : List Char) :
    d.layOut ≠ c :: rest := by
  obtain ⟨c', rest', hc', hdigit⟩ := d.exists_layOut_eq_cons
  rw [hc']
  intro h
  rw [(List.cons.inj h).1, hc] at hdigit
  cases hdigit

/-- What is written after the sign starts like a number or a word. -/
theorem exists_magnitudeText_eq_cons (x : Binary64) :
    ∃ c rest, magnitudeText x = c :: rest ∧ (c.isDigit = true ∨ c = 'N' ∨ c = 'I') := by
  cases x with
  | nan => exact ⟨'N', _, rfl, .inr (.inl rfl)⟩
  | infinite negative => exact ⟨'I', _, rfl, .inr (.inr rfl)⟩
  | finite negative m e canonical =>
    obtain ⟨c, rest, hc, hdigit⟩ :=
      (if m = 0 then ⟨0, 0⟩ else Decimal.shortest m e : Decimal).exists_layOut_eq_cons
    exact ⟨c, rest, hc, .inl hdigit⟩

theorem ne_minus_of_start {c : Char} (hc : c.isDigit = true ∨ c = 'N' ∨ c = 'I') : c ≠ '-' := by
  rintro rfl
  simp at hc

/-- Doubles with the same sign and the same text after it are the same. -/
theorem eq_of_magnitudeText {x y : Binary64} (hsign : x.isNegative = y.isNegative)
    (h : magnitudeText x = magnitudeText y) : x = y := by
  cases x with
  | nan =>
    cases y with
    | nan => rfl
    | infinite negative => exact absurd h (magnitudeText_nan_ne negative)
    | finite negative m e canonical => exact absurd h.symm (layOut_ne_cons rfl _ _)
  | infinite negative =>
    cases y with
    | nan => exact absurd h.symm (magnitudeText_nan_ne negative)
    | infinite negative' => exact congrArg Binary64.infinite hsign
    | finite negative' m e canonical => exact absurd h.symm (layOut_ne_cons rfl _ _)
  | finite negative m e canonical =>
    cases y with
    | nan => exact absurd h (layOut_ne_cons rfl _ _)
    | infinite negative' => exact absurd h (layOut_ne_cons rfl _ _)
    | finite negative' m' e' canonical' =>
      exact Binary64.eq_of_shortest rfl rfl hsign (Decimal.value_eq_of_layOut h)

/-- Doubles with the same JSON text are the same. -/
theorem text_double_injective {x y : Binary64} (h : x.text layout = y.text layout) : x = y := by
  rw [text_eq_sign_append, text_eq_sign_append] at h
  obtain ⟨c, rest, hc, hstart⟩ := exists_magnitudeText_eq_cons x
  obtain ⟨c', rest', hc', hstart'⟩ := exists_magnitudeText_eq_cons y
  rw [hc, hc'] at h
  obtain ⟨hsign, htext⟩ := sign_append_injective (ne_minus_of_start hstart)
    (ne_minus_of_start hstart') h
  exact eq_of_magnitudeText hsign (by rw [hc, hc', htext])

/-- The text of an integer is not that of a double. -/
theorem integerText_ne_text (n : Int) (x : Binary64) : integerText n ≠ x.text layout := by
  intro h
  have hsign : integerText n = (if decide (n < 0) then ['-'] else []) ++ naturalText n.natAbs := by
    unfold integerText
    split <;> simp [*]
  obtain ⟨c, rest, hc, hdigit⟩ := exists_naturalText_eq_cons n.natAbs
  obtain ⟨c', rest', hc', hstart⟩ := exists_magnitudeText_eq_cons x
  rw [hsign, text_eq_sign_append, hc, hc'] at h
  obtain ⟨-, htext⟩ := sign_append_injective (ne_minus_of_start (.inl hdigit))
    (ne_minus_of_start hstart) h
  have hdigits := isDigit_of_mem_naturalText n.natAbs
  rw [hc, htext, ← hc'] at hdigits
  cases x with
  | nan => exact absurd (hdigits 'N' (by decide)) (by decide)
  | infinite negative =>
    change ∀ c ∈ "Infinity".toList, c.isDigit = true at hdigits
    exact absurd (hdigits 'I' (by decide)) (by decide)
  | finite negative m e canonical =>
    rcases Decimal.point_or_exponent_mem_layOut
      (if m = 0 then ⟨0, 0⟩ else Decimal.shortest m e : Decimal) with hpoint | hexponent
    · exact absurd (hdigits '.' hpoint) (by decide)
    · exact absurd (hdigits 'e' hexponent) (by decide)

/-- Numbers with the same JSON text are the same. -/
theorem text_number_injective {n n' : Number} (h : n.text layout = n'.text layout) : n = n' := by
  cases n with
  | int n =>
    cases n' with
    | int n' => exact congrArg Number.int (integerText_injective h)
    | float x' => exact absurd h (integerText_ne_text n x')
  | float x =>
    cases n' with
    | int n' => exact absurd h.symm (integerText_ne_text n' x)
    | float x' => exact congrArg Number.float (text_double_injective h)

/-- A character that can follow a value. -/
def IsStop (c : Char) : Prop := c = ',' ∨ c = ']' ∨ c = '\x7d'

/-- A character of the text of a number. -/
def IsNumberCharacter (c : Char) : Prop :=
  Decimal.IsNumeric c ∨ c ∈ "NaN".toList ∨ c ∈ "Infinity".toList

/-- The text of a number is made of the characters of numbers. -/
theorem isNumberCharacter_of_mem_text (n : Number) :
    ∀ c ∈ n.text layout, IsNumberCharacter c := by
  intro c hc
  have hminus : IsNumberCharacter '-' := .inl (by simp [Decimal.IsNumeric])
  cases n with
  | int n =>
    change c ∈ integerText n at hc
    unfold integerText at hc
    split at hc
    · rcases List.mem_cons.mp hc with rfl | hc
      · exact hminus
      · exact .inl (.inl (isDigit_of_mem_naturalText _ c hc))
    · exact .inl (.inl (isDigit_of_mem_naturalText _ c hc))
  | float x =>
    change c ∈ x.text layout at hc
    rw [text_eq_sign_append] at hc
    rcases List.mem_append.mp hc with hc | hc
    · split at hc
      · rwa [List.mem_singleton.mp hc]
      · cases hc
    · cases x with
      | nan => exact .inr (.inl hc)
      | infinite negative => exact .inr (.inr hc)
      | finite negative m e canonical => exact .inl (Decimal.isNumeric_of_mem_layOut _ c hc)

/-- The text of a number starts with a sign, a digit or the capital of a word. -/
theorem exists_text_eq_cons (n : Number) : ∃ c rest, n.text layout = c :: rest ∧
    (c = '-' ∨ c.isDigit = true ∨ c = 'N' ∨ c = 'I') := by
  cases n with
  | int n =>
    obtain ⟨c, rest, hc, hdigit⟩ := exists_naturalText_eq_cons n.natAbs
    change ∃ c rest, integerText n = c :: rest ∧ _
    unfold integerText
    split
    · exact ⟨'-', _, rfl, .inl rfl⟩
    · exact ⟨c, rest, hc, .inr (.inl hdigit)⟩
  | float x =>
    obtain ⟨c, rest, hc, hstart⟩ := exists_magnitudeText_eq_cons x
    change ∃ c rest, x.text layout = c :: rest ∧ _
    rw [text_eq_sign_append, hc]
    split
    · exact ⟨'-', _, rfl, .inl rfl⟩
    · exact ⟨c, rest, rfl, .inr hstart⟩

/-- The text of a number has no character that can follow a value. -/
theorem not_isStop_of_mem_text (n : Number) : ∀ c ∈ n.text layout, ¬ IsStop c := by
  intro c hc hstop
  have hcharacter := isNumberCharacter_of_mem_text n c hc
  rcases hstop with rfl | rfl | rfl <;> simp [IsNumberCharacter, Decimal.IsNumeric] at hcharacter

/-- A hexadecimal digit is read back. -/
theorem hexValue?_hexDigit : ∀ d < 16, hexValue? (hexDigit d) = some d := by decide

/-- Four hexadecimal digits are read back. -/
theorem readUnit?_hexText {n : Nat} (hn : n < 0x10000) (tail : List Char) :
    readUnit? (hexText 4 n ++ tail) = some (n, tail) := by
  have hdigit (k : Nat) : hexValue? (hexDigit (k % 16)) = some (k % 16) :=
    hexValue?_hexDigit _ (Nat.mod_lt _ (by decide))
  simp only [hexText, List.nil_append, List.cons_append, readUnit?, hdigit, Option.bind_eq_bind,
    Option.bind_some, Option.pure_def]
  congr 2
  omega

/-- The code of a character is none of half a pair. -/
theorem toNat_valid (c : Char) :
    c.toNat < 0xD800 ∨ (0xDFFF < c.toNat ∧ c.toNat < 0x110000) := c.valid

/-- A character is read from the escape of one unit. -/
theorem readEscapedUnit?_unit {c : Char} (hc : c.toNat < 0x10000) (tail : List Char) :
    readEscapedUnit? (hexText 4 c.toNat ++ tail) = some (c, tail) := by
  have hvalid := toNat_valid c
  unfold readEscapedUnit?
  rw [readUnit?_hexText hc]
  simp only [Option.bind_eq_bind, Option.bind_some, Option.pure_def]
  rw [if_neg (by omega), if_neg (by omega), Char.ofNat_toNat]

/-- A low unit is read from its escape. -/
theorem readLowUnit?_unitEscape {low : Nat} (hlow : 0xDC00 ≤ low ∧ low < 0xE000)
    (tail : List Char) : readLowUnit? (unitEscape low ++ tail) = some (low, tail) := by
  have hunit : low < 0x10000 := by omega
  unfold unitEscape
  simp only [List.cons_append, readLowUnit?, readUnit?_hexText hunit]
  rw [if_pos hlow]

/-- A character is read from the escape of a pair of units. -/
theorem readEscapedUnit?_pair {high low : Nat} (hhigh : 0xD800 ≤ high ∧ high < 0xDC00)
    (hlow : 0xDC00 ≤ low ∧ low < 0xE000) (tail : List Char) :
    readEscapedUnit? (hexText 4 high ++ (unitEscape low ++ tail)) =
      some (Char.ofNat (0x10000 + (high - 0xD800) * 0x400 + (low - 0xDC00)), tail) := by
  have hunit : high < 0x10000 := by omega
  simp only [readEscapedUnit?, readUnit?_hexText hunit, Option.bind_eq_bind, Option.bind_some,
    Option.pure_def, readLowUnit?_unitEscape hlow]
  rw [if_pos hhigh]

/-- The units of a character beyond the first plane. -/
theorem units_spec {n : Nat} (hn : 0x10000 ≤ n ∧ n < 0x110000) :
    (0xD800 ≤ 0xD800 + (n - 0x10000) / 0x400 ∧ 0xD800 + (n - 0x10000) / 0x400 < 0xDC00) ∧
      (0xDC00 ≤ 0xDC00 + (n - 0x10000) % 0x400 ∧ 0xDC00 + (n - 0x10000) % 0x400 < 0xE000) ∧
      0x10000 + (0xD800 + (n - 0x10000) / 0x400 - 0xD800) * 0x400 +
        (0xDC00 + (n - 0x10000) % 0x400 - 0xDC00) = n := by
  refine ⟨⟨?_, ?_⟩, ⟨?_, ?_⟩, ?_⟩ <;> omega

/-- A character is read from a backslash and a letter. -/
theorem readStringTail?_simple {c e : Char} (he : e ≠ 'u') (hc : simpleEscape? e = some c)
    (fuel : Nat) (tail : List Char) :
    readStringTail? (fuel + 1) ('\\' :: e :: tail) =
      (readStringTail? fuel tail).map fun found => (c :: found.1, found.2) := by
  rw [readStringTail?, if_neg (by decide), if_pos rfl]
  dsimp only
  rw [if_neg he, hc]
  simp only [Option.map_some, Option.bind_eq_bind, Option.bind_some]
  cases readStringTail? fuel tail <;> rfl

/-- A character is read from a backslash and its units. -/
theorem readStringTail?_units {c : Char} {cs tail : List Char}
    (hc : readEscapedUnit? cs = some (c, tail)) (fuel : Nat) :
    readStringTail? (fuel + 1) ('\\' :: 'u' :: cs) =
      (readStringTail? fuel tail).map fun found => (c :: found.1, found.2) := by
  rw [readStringTail?, if_neg (by decide), if_pos rfl]
  dsimp only
  rw [if_pos rfl, hc]
  dsimp only [Option.bind_eq_bind, Option.bind_some]
  cases readStringTail? fuel tail <;> rfl

/-- A character that stands for itself is read. -/
theorem readStringTail?_plain {c : Char} (hquote : c ≠ '"') (hslash : c ≠ '\\')
    (hc : 32 ≤ c.toNat) (fuel : Nat) (tail : List Char) :
    readStringTail? (fuel + 1) (c :: tail) =
      (readStringTail? fuel tail).map fun found => (c :: found.1, found.2) := by
  rw [readStringTail?.eq_def]
  dsimp only
  rw [if_neg hquote, if_neg hslash, if_neg (by omega)]
  cases readStringTail? fuel tail <;> rfl

/-- A character of a string is read from its escape. -/
theorem readStringTail?_escapeCharacter (fuel : Nat) (c : Char) (tail : List Char) :
    readStringTail? (fuel + 1) (escapeCharacter c ++ tail) =
      (readStringTail? fuel tail).map fun found => (c :: found.1, found.2) := by
  by_cases hquote : c = '"'
  · rw [hquote]
    exact readStringTail?_simple (by decide) (by decide) fuel tail
  by_cases hslash : c = '\\'
  · rw [hslash]
    exact readStringTail?_simple (by decide) (by decide) fuel tail
  unfold escapeCharacter
  rw [if_neg hquote, if_neg hslash]
  split
  · next h =>
    rw [h]
    exact readStringTail?_simple (by decide) (by decide) fuel tail
  split
  · next h =>
    rw [h]
    exact readStringTail?_simple (by decide) (by decide) fuel tail
  split
  · next h =>
    rw [h]
    exact readStringTail?_simple (by decide) (by decide) fuel tail
  split
  · next h =>
    obtain rfl : c = Char.ofNat 8 := by rw [← h, Char.ofNat_toNat]
    exact readStringTail?_simple (by decide) (by decide) fuel tail
  split
  · next h =>
    obtain rfl : c = Char.ofNat 12 := by rw [← h, Char.ofNat_toNat]
    exact readStringTail?_simple (by decide) (by decide) fuel tail
  split
  · next h => exact readStringTail?_plain hquote hslash h.1 fuel tail
  split
  · next h => exact readStringTail?_units (readEscapedUnit?_unit h tail) fuel
  · next h =>
    have hvalid := toNat_valid c
    have hcode : 0x10000 ≤ c.toNat ∧ c.toNat < 0x110000 := by omega
    obtain ⟨hhigh, hlow, hcode⟩ := units_spec hcode
    have hread := readEscapedUnit?_pair hhigh hlow tail
    rw [hcode, Char.ofNat_toNat] at hread
    exact readStringTail?_units hread fuel

/-- The characters of a string are read back up to its closing quote. -/
theorem readStringTail?_escaped (cs : List Char) {fuel : Nat} (hfuel : cs.length < fuel)
    (rest : List Char) :
    readStringTail? fuel (cs.flatMap escapeCharacter ++ '"' :: rest) = some (cs, rest) := by
  induction cs generalizing fuel with
  | nil =>
    obtain ⟨fuel, rfl⟩ := Nat.exists_eq_succ_of_ne_zero (Nat.ne_of_gt hfuel)
    rfl
  | cons c cs ih =>
    obtain ⟨fuel, rfl⟩ := Nat.exists_eq_succ_of_ne_zero (Nat.ne_zero_of_lt hfuel)
    have hcs := ih (Nat.lt_of_succ_lt_succ hfuel)
    rw [List.flatMap_cons, List.append_assoc, readStringTail?_escapeCharacter, hcs]
    rfl

/-- Strings are known by their texts, wherever these stand. -/
theorem stringText_append_injective {s s' : String} {rest rest' : List Char}
    (h : stringText s ++ rest = stringText s' ++ rest') : s = s' ∧ rest = rest' := by
  unfold stringText at h
  simp only [List.cons_append, List.append_assoc, List.nil_append, List.cons.injEq,
    true_and] at h
  have hread := readStringTail?_escaped s.toList
    (Nat.lt_succ_of_le (Nat.le_max_left s.toList.length s'.toList.length)) rest
  rw [h, readStringTail?_escaped s'.toList
    (Nat.lt_succ_of_le (Nat.le_max_right s.toList.length s'.toList.length)) rest'] at hread
  simp only [Option.some.injEq, Prod.mk.injEq] at hread
  exact ⟨String.toList_inj.mp hread.1.symm, hread.2.symm⟩

end Json

end Intake
