import Intake.Number.Literal
import Intake.Proofs.Number.Shortest

/-!
# Numbers are known by their texts

The text of a number is read back digit by digit: the integer, or the decimal that was written, up to
zeros at its end. Main statements: integers with the same text are the same, and so are decimals with
the same text, in value. Reading a decimal as a double is not covered.
-/

namespace Intake

/-- A decimal digit is read back. -/
theorem asciiDigit?_digitCharacter : ∀ d < 10, asciiDigit? (digitCharacter d) = some d := by decide

theorem isDigit_digitCharacter : ∀ d < 10, (digitCharacter d).isDigit = true := by decide

/-- The digits of a number are below ten. -/
theorem lt_ten_of_mem_digitsOnto (n : Nat) : ∀ d ∈ digitsOnto n [], d < 10 := by
  induction n using Nat.strongRecOn with
  | ind n ih =>
    rw [digitsOnto]
    split
    · next hn => simpa using hn
    · next hn =>
      rw [digitsOnto_append]
      intro d hd
      rcases List.mem_append.mp hd with hd | hd
      · exact ih (n / 10) (by omega) d hd
      · rw [List.mem_singleton.mp hd]
        exact Nat.mod_lt _ (by decide)

/-- Digits put behind others count for the lower places. -/
theorem ofDigits_append (a b : List Nat) :
    ofDigits (a ++ b) = ofDigits a * 10 ^ b.length + ofDigits b := by
  have hfold (n : Nat) : b.foldl (fun n d => n * 10 + d) n =
      n * 10 ^ b.length + b.foldl (fun n d => n * 10 + d) 0 := by
    induction b generalizing n with
    | nil => simp
    | cons d rest ih =>
      rw [List.foldl_cons, List.foldl_cons, ih, ih (0 * 10 + d), List.length_cons, Nat.pow_succ]
      ring
  rw [ofDigits, List.foldl_append, hfold]
  rfl

/-- The digits of a number stand for it. -/
theorem ofDigits_digitsOnto (n : Nat) : ofDigits (digitsOnto n []) = n := by
  induction n using Nat.strongRecOn with
  | ind n ih =>
    rw [digitsOnto]
    split
    · simp [ofDigits]
    · next hn =>
      rw [digitsOnto_append, ofDigits_append, ih (n / 10) (by omega)]
      simp only [ofDigits, List.length_singleton, List.foldl_cons, List.foldl_nil]
      omega

/-- A number has a digit. -/
theorem digitsOnto_ne_nil (n : Nat) : digitsOnto n [] ≠ [] := by
  rw [digitsOnto]
  split
  · simp
  · rw [digitsOnto_append]
    simp

/-- Zeros stand for nothing. -/
theorem ofDigits_replicate (k : Nat) : ofDigits (List.replicate k 0) = 0 := by
  induction k with
  | zero => rfl
  | succ k ih =>
    rw [List.replicate_succ', ofDigits_append, ih]
    rfl

/-- A text does not go on with a digit. -/
def EndsDigits (rest : List Char) : Prop := ∀ c tail, rest = c :: tail → asciiDigit? c = none

theorem endsDigits_nil : EndsDigits [] := by
  intro c tail h
  cases h

theorem endsDigits_cons {c : Char} (hc : asciiDigit? c = none) (tail : List Char) :
    EndsDigits (c :: tail) := by
  intro other _ h
  cases h
  exact hc

/-- Digits are split off up to what is no digit. -/
theorem spanDigits_append {digits : List Nat} (hd : ∀ d ∈ digits, d < 10) {rest : List Char}
    (hr : EndsDigits rest) : spanDigits (digits.map digitCharacter ++ rest) = (digits, rest) := by
  induction digits with
  | nil =>
    cases rest with
    | nil => rfl
    | cons c tail => rw [List.map_nil, List.nil_append, spanDigits, hr c tail rfl]
  | cons d others ih =>
    have hothers := ih fun other hm => hd other (List.mem_cons_of_mem _ hm)
    rw [List.map_cons, List.cons_append, spanDigits,
      asciiDigit?_digitCharacter d (hd d List.mem_cons_self), hothers]

/-- Digits that are the whole of a text are split off. -/
theorem spanDigits_digits {digits : List Nat} (hd : ∀ d ∈ digits, d < 10) :
    spanDigits (digits.map digitCharacter) = (digits, []) := by
  simpa using spanDigits_append hd endsDigits_nil

/-- The text of a natural number is read digit by digit. -/
theorem spanDigits_naturalText (n : Nat) : spanDigits (naturalText n) = (digitsOnto n [], []) :=
  spanDigits_digits (lt_ten_of_mem_digitsOnto n)

/-- Natural numbers with the same text are the same. -/
theorem naturalText_injective {n n' : Nat} (h : naturalText n = naturalText n') : n = n' := by
  have hspan := spanDigits_naturalText n
  rw [h, spanDigits_naturalText] at hspan
  have hdigits : digitsOnto n' [] = digitsOnto n [] := congrArg Prod.fst hspan
  rw [← ofDigits_digitsOnto n, ← ofDigits_digitsOnto n', hdigits]

/-- The text of a natural number starts with a digit. -/
theorem exists_naturalText_eq_cons (n : Nat) :
    ∃ c rest, naturalText n = c :: rest ∧ c.isDigit = true := by
  have hlt := lt_ten_of_mem_digitsOnto n
  unfold naturalText
  cases hdigits : digitsOnto n [] with
  | nil => exact absurd hdigits (digitsOnto_ne_nil n)
  | cons d rest =>
    rw [hdigits] at hlt
    exact ⟨_, _, rfl, isDigit_digitCharacter d (hlt d List.mem_cons_self)⟩

theorem isDigit_of_mem_naturalText (n : Nat) : ∀ c ∈ naturalText n, c.isDigit = true := by
  intro c hc
  obtain ⟨d, hd, rfl⟩ := List.mem_map.mp hc
  exact isDigit_digitCharacter d (lt_ten_of_mem_digitsOnto n d hd)

/-- Integers with the same text are the same. -/
theorem integerText_injective {n n' : Int} (h : integerText n = integerText n') : n = n' := by
  unfold integerText at h
  obtain ⟨c, rest, hc, hdigit⟩ := exists_naturalText_eq_cons n.natAbs
  obtain ⟨c', rest', hc', hdigit'⟩ := exists_naturalText_eq_cons n'.natAbs
  split at h
  · split at h
    · have hnat := naturalText_injective (List.cons.inj h).2
      omega
    · rw [hc'] at h
      cases h
      cases hdigit'
  · split at h
    · rw [hc] at h
      cases h
      cases hdigit
    · have hnat := naturalText_injective h
      omega

namespace Decimal

/-- The literal that the text of a decimal is. -/
def literal (d : Decimal) : DecimalLiteral :=
  let digits := digitsOnto d.digits []
  let lead : Int := d.exponent + digits.length - 1
  if -4 ≤ lead ∧ lead < 16 then
    if 0 ≤ d.exponent then ⟨digits ++ List.replicate d.exponent.toNat 0 ++ [0], -1⟩
    else if 0 ≤ lead then ⟨digits, d.exponent⟩
    else ⟨0 :: List.replicate (-lead - 1).toNat 0 ++ digits, d.exponent⟩
  else ⟨digits, d.exponent⟩

/-- Digits around a point, with an exponent or without, are read as a literal. -/
theorem readUnsigned?_point {whole fraction : List Nat} (hw : ∀ d ∈ whole, d < 10)
    (hf : ∀ d ∈ fraction, d < 10) (hne : whole ≠ []) {tail : List Char} (ht : EndsDigits tail)
    {e : Int} (he : readExponent? tail = some e) :
    readUnsigned? (whole.map digitCharacter ++ '.' :: (fraction.map digitCharacter ++ tail)) =
      some ⟨whole ++ fraction, e - fraction.length⟩ := by
  have hspan := spanDigits_append hw (endsDigits_cons (by decide) _ :
    EndsDigits ('.' :: (fraction.map digitCharacter ++ tail)))
  simp [readUnsigned?, hspan, spanDigits_append hf ht, he, hne]

/-- Digits without a point are read as a literal. -/
theorem readUnsigned?_whole {whole : List Nat} (hw : ∀ d ∈ whole, d < 10) (hne : whole ≠ [])
    {tail : List Char} {e : Int} (he : readExponent? ('e' :: tail) = some e) :
    readUnsigned? (whole.map digitCharacter ++ 'e' :: tail) = some ⟨whole, e⟩ := by
  have hspan := spanDigits_append hw (endsDigits_cons (by decide) _ : EndsDigits ('e' :: tail))
  simp [readUnsigned?, hspan, he, hne]

/-- A written exponent is read. -/
theorem readExponent?_power (negative : Bool) {power : List Nat} (hp : ∀ d ∈ power, d < 10)
    (hne : power ≠ []) :
    readExponent? ('e' :: (if negative then '-' else '+') :: power.map digitCharacter) =
      some (if negative then -(ofDigits power : Int) else ofDigits power) := by
  have hspan := spanDigits_digits hp
  cases power with
  | nil => exact absurd rfl hne
  | cons d others =>
    rw [List.map_cons] at hspan
    cases negative <;> simp [readExponent?, spanSign, hspan]

/-- The digits of the exponent of a text, two at least. -/
def powerDigits (n : Nat) : List Nat :=
  if (digitsOnto n []).length < 2 then 0 :: digitsOnto n [] else digitsOnto n []

theorem map_powerDigits (n : Nat) :
    (powerDigits n).map digitCharacter =
      if (naturalText n).length < 2 then '0' :: naturalText n else naturalText n := by
  unfold powerDigits naturalText
  rw [List.length_map]
  split <;> rfl

theorem readExponent?_powerDigits (lead : Int) :
    readExponent? ('e' :: (if lead < 0 then '-' else '+') ::
      (powerDigits lead.natAbs).map digitCharacter) = some lead := by
  have hlt := lt_ten_of_mem_digitsOnto lead.natAbs
  have hvalue := ofDigits_digitsOnto lead.natAbs
  have hpower : (∀ d ∈ powerDigits lead.natAbs, d < 10) ∧
      ofDigits (powerDigits lead.natAbs) = lead.natAbs := by
    unfold powerDigits
    split
    · refine ⟨by simpa using hlt, ?_⟩
      rw [← List.singleton_append, ofDigits_append, hvalue]
      simp [ofDigits]
    · exact ⟨hlt, hvalue⟩
  have hne : powerDigits lead.natAbs ≠ [] := by
    unfold powerDigits
    split
    · simp
    · exact digitsOnto_ne_nil _
  have hread := readExponent?_power (decide (lead < 0)) hpower.1 hne
  simp only [decide_eq_true_eq] at hread
  rw [hread, hpower.2]
  congr 1
  split <;> omega

theorem lt_ten_of_mem_zeros (k : Nat) : ∀ d ∈ List.replicate k 0, d < 10 := by
  intro d hd
  rw [List.eq_of_mem_replicate hd]
  decide

theorem map_zeros (k : Nat) :
    (List.replicate k 0).map digitCharacter = List.replicate k '0' := by
  rw [List.map_replicate]
  rfl

theorem take_ne_nil {digits : List Nat} {k : Nat} (hk : 0 < k) (hne : digits ≠ []) :
    digits.take k ≠ [] := by
  have hlength := List.length_pos_iff.mpr hne
  intro h
  have hnil := congrArg List.length h
  rw [List.length_take, List.length_nil] at hnil
  omega

section

variable {digits : List Nat} (hlt : ∀ d ∈ digits, d < 10) (hne : digits ≠ [])

include hlt hne

/-- Digits that are filled up with zeros before the point are read. -/
theorem readUnsigned?_filled (k : Nat) :
    readUnsigned? (digits.map digitCharacter ++ List.replicate k '0' ++ ['.', '0']) =
      some ⟨digits ++ List.replicate k 0 ++ [0], -1⟩ := by
  have hwhole : ∀ n ∈ digits ++ List.replicate k 0, n < 10 := fun n hn =>
    (List.mem_append.mp hn).elim (hlt n) (lt_ten_of_mem_zeros k n)
  rw [← map_zeros, ← List.map_append]
  exact readUnsigned?_point hwhole (lt_ten_of_mem_zeros 1) (by simp [hne]) endsDigits_nil rfl

/-- Digits with the point among them are read. -/
theorem readUnsigned?_pointed {k : Nat} (hk : 0 < k) :
    readUnsigned? ((digits.map digitCharacter).take k ++
        '.' :: (digits.map digitCharacter).drop k) =
      some ⟨digits, 0 - (digits.length - k : Nat)⟩ := by
  have htake : ∀ n ∈ digits.take k, n < 10 := fun n hn => hlt n (List.mem_of_mem_take hn)
  have hdrop : ∀ n ∈ digits.drop k, n < 10 := fun n hn => hlt n (List.mem_of_mem_drop hn)
  have hread := readUnsigned?_point htake hdrop (take_ne_nil hk hne) endsDigits_nil rfl
  rwa [List.take_append_drop, List.append_nil, List.length_drop, List.map_take,
    List.map_drop] at hread

omit hne in
/-- Digits after a point and zeros are read. -/
theorem readUnsigned?_fraction (k : Nat) :
    readUnsigned? ('0' :: '.' :: List.replicate k '0' ++ digits.map digitCharacter) =
      some ⟨0 :: List.replicate k 0 ++ digits, 0 - (k + digits.length : Nat)⟩ := by
  have hfraction : ∀ n ∈ List.replicate k 0 ++ digits, n < 10 := fun n hn =>
    (List.mem_append.mp hn).elim (lt_ten_of_mem_zeros k n) (hlt n)
  have hread := readUnsigned?_point (lt_ten_of_mem_zeros 1) hfraction (by simp) endsDigits_nil rfl
  rw [List.append_nil, List.map_append, List.length_append, List.length_replicate, map_zeros,
    map_zeros] at hread
  exact hread

/-- Digits with the point after the first of them and an exponent are read. -/
theorem readUnsigned?_scientific (lead : Int) :
    readUnsigned? ((digits.map digitCharacter).take 1 ++
        (if digits.length = 1 then [] else '.' :: (digits.map digitCharacter).drop 1) ++
        'e' :: (if lead < 0 then '-' else '+') :: (powerDigits lead.natAbs).map digitCharacter) =
      some ⟨digits, lead - (digits.length - 1 : Nat)⟩ := by
  have hpower := readExponent?_powerDigits lead
  have htake : ∀ n ∈ digits.take 1, n < 10 := fun n hn => hlt n (List.mem_of_mem_take hn)
  have hdrop : ∀ n ∈ digits.drop 1, n < 10 := fun n hn => hlt n (List.mem_of_mem_drop hn)
  rw [← List.map_take, ← List.map_drop]
  split
  · next hone =>
    have hwhole : digits.take 1 = digits := List.take_of_length_le hone.le
    rw [List.append_nil, hwhole, readUnsigned?_whole hlt hne hpower, hone]
    simp
  · have hread := readUnsigned?_point htake hdrop (take_ne_nil Nat.one_pos hne)
      (endsDigits_cons (by decide) _) hpower
    rw [List.append_assoc, List.cons_append, hread, List.take_append_drop, List.length_drop]

end

/-- The text of a decimal is read as a literal of the same value. -/
theorem readUnsigned?_layOut (d : Decimal) : readUnsigned? d.layOut = some d.literal := by
  have hlt := lt_ten_of_mem_digitsOnto d.digits
  have hne := digitsOnto_ne_nil d.digits
  unfold layOut literal
  dsimp only
  rw [show naturalText d.digits = (digitsOnto d.digits []).map digitCharacter from rfl,
    List.length_map]
  generalize digitsOnto d.digits [] = digits at hlt hne ⊢
  have hlength : 1 ≤ digits.length := List.length_pos_iff.mpr hne
  split
  · split
    · exact readUnsigned?_filled hlt hne d.exponent.toNat
    · split
      · next he hlead =>
        rw [readUnsigned?_pointed hlt hne (Nat.succ_pos _)]
        congr 2
        omega
      · next he hlead =>
        rw [readUnsigned?_fraction hlt]
        congr 2
        omega
  · rw [← map_powerDigits, readUnsigned?_scientific hlt hne]
    congr 2
    omega

/-- The literal has the value of the decimal. -/
theorem value_literal (d : Decimal) :
    (ofDigits d.literal.digits : ℚ) * (10 : ℚ) ^ d.literal.exponent = d.value := by
  unfold literal value
  dsimp only
  split
  · split
    · next he =>
      rw [ofDigits_append, ofDigits_append, ofDigits_replicate, ofDigits_digitsOnto,
        List.length_replicate]
      obtain ⟨k, hk⟩ := Int.eq_ofNat_of_zero_le he
      rw [hk]
      simp only [ofDigits, List.foldl_cons, List.foldl_nil, List.length_singleton, pow_one,
        Int.toNat_natCast, zpow_natCast, zpow_neg_one]
      push_cast
      rw [add_zero, add_zero, mul_inv_cancel_right₀ (by norm_num)]
    · split
      · rw [ofDigits_digitsOnto]
      · rw [← List.replicate_succ, ofDigits_append, ofDigits_replicate,
          ofDigits_digitsOnto, Nat.zero_mul, Nat.zero_add]
  · rw [ofDigits_digitsOnto]

/-- Decimals with the same text have the same value. -/
theorem value_eq_of_layOut {d d' : Decimal} (h : d.layOut = d'.layOut) : d.value = d'.value := by
  have hread := readUnsigned?_layOut d
  rw [h, readUnsigned?_layOut] at hread
  rw [← value_literal d, ← value_literal d', Option.some.inj hread]

/-- A character of the text of a number. -/
def IsNumeric (c : Char) : Prop := c.isDigit = true ∨ c = '.' ∨ c = 'e' ∨ c = '+' ∨ c = '-'

/-- The text of a decimal starts with a digit. -/
theorem exists_layOut_eq_cons (d : Decimal) :
    ∃ c rest, d.layOut = c :: rest ∧ c.isDigit = true := by
  obtain ⟨c, rest, hc, hdigit⟩ := exists_naturalText_eq_cons d.digits
  unfold layOut
  rw [hc]
  dsimp only
  split
  · split
    · exact ⟨c, _, rfl, hdigit⟩
    · split
      · exact ⟨c, _, rfl, hdigit⟩
      · exact ⟨'0', _, rfl, rfl⟩
  · exact ⟨c, _, rfl, hdigit⟩

/-- The text of a decimal has a point or an exponent. -/
theorem point_or_exponent_mem_layOut (d : Decimal) : '.' ∈ d.layOut ∨ 'e' ∈ d.layOut := by
  unfold layOut
  dsimp only
  split
  · left
    split
    · simp
    · split <;> simp
  · right
    simp

/-- The text of a decimal is made of the characters of numbers. -/
theorem isNumeric_of_mem_layOut (d : Decimal) : ∀ c ∈ d.layOut, IsNumeric c := by
  have hdigits (n : Nat) (c : Char) (hc : c ∈ naturalText n) : IsNumeric c :=
    .inl (isDigit_of_mem_naturalText n c hc)
  have hzero : IsNumeric '0' := .inl rfl
  have hsign (b : Bool) : IsNumeric (if b then '-' else '+') := by
    cases b <;> simp [IsNumeric]
  intro c hc
  unfold layOut at hc
  dsimp only at hc
  split at hc
  · split at hc
    · simp only [List.mem_append, List.mem_cons, List.not_mem_nil, or_false, or_assoc] at hc
      rcases hc with hc | hc | rfl | rfl
      · exact hdigits _ c hc
      · rwa [List.eq_of_mem_replicate hc]
      · simp [IsNumeric]
      · exact hzero
    · split at hc
      · simp only [List.mem_append, List.mem_cons] at hc
        rcases hc with hc | rfl | hc
        · exact hdigits _ c (List.mem_of_mem_take hc)
        · simp [IsNumeric]
        · exact hdigits _ c (List.mem_of_mem_drop hc)
      · simp only [List.cons_append, List.mem_append, List.mem_cons] at hc
        rcases hc with rfl | rfl | hc | hc
        · exact hzero
        · simp [IsNumeric]
        · rwa [List.eq_of_mem_replicate hc]
        · exact hdigits _ c hc
  · simp only [List.mem_append, List.mem_cons, or_assoc] at hc
    rcases hc with hc | hc | rfl | rfl | hc
    · exact hdigits _ c (List.mem_of_mem_take hc)
    · split at hc
      · cases hc
      · rcases List.mem_cons.mp hc with rfl | hc
        · simp [IsNumeric]
        · exact hdigits _ c (List.mem_of_mem_drop hc)
    · simp [IsNumeric]
    · simpa using hsign (decide (d.exponent + (naturalText d.digits).length - 1 < 0))
    · split at hc
      · rcases List.mem_cons.mp hc with rfl | hc
        · exact hzero
        · exact hdigits _ c hc
      · exact hdigits _ c hc

end Decimal

end Intake
