import Intake.Number.Basic
import Intake.Proofs.Number.Integer
import Mathlib.Order.Bounds.Basic

/-!
# How many decimal places numbers need

A number needs so many decimal places if these are the fewest by which it can be shifted to become
an integer. The shortest decimal of a double has no zero at its end and is found on the grid of the
integers if the double is whole, so its exponent tells what it needs. Main statement: the text of a
finite number, with an exponent or without, is read as a literal that needs the decimal places of
the number, none exactly if the number is whole. That the text is read back as the number is not
covered.
-/

namespace Intake

/-- So many places behind the point are enough for a number: shifted by them it is an integer. -/
def FitsPlaces (q : ℚ) (k : ℕ) : Prop := ∃ z : ℤ, q * 10 ^ k = z

/-- A place more does no harm. -/
theorem FitsPlaces.mono {q : ℚ} {k k' : ℕ} (h : FitsPlaces q k) (hle : k ≤ k') :
    FitsPlaces q k' := by
  obtain ⟨z, hz⟩ := h
  obtain ⟨j, rfl⟩ := Nat.exists_eq_add_of_le hle
  exact ⟨z * 10 ^ j, by push_cast; rw [pow_add, ← mul_assoc, hz]⟩

theorem fitsPlaces_neg {q : ℚ} {k : ℕ} : FitsPlaces (-q) k ↔ FitsPlaces q k := by
  constructor <;> rintro ⟨z, hz⟩ <;> refine ⟨-z, ?_⟩ <;> push_cast <;> rw [← hz] <;> ring

/-- A number needs more places than there are exactly if there are fewer than it needs. -/
theorem not_fitsPlaces_iff {q : ℚ} {places : ℕ} (h : IsLeast {k | FitsPlaces q k} places) (k : ℕ) :
    ¬ FitsPlaces q k ↔ k < places := by
  rw [← not_le]
  exact not_congr ⟨fun hk => h.2 hk, fun hle => h.1.mono hle⟩

/-- What is found first among the numbers below a bound is found for a number below which nothing is
found. -/
theorem exists_first_of_findSome?_range {α : Type} {f : ℕ → Option α} {n : ℕ} {a : α}
    (h : (List.range n).findSome? f = some a) : ∃ i, f i = some a ∧ ∀ j < i, f j = none := by
  induction n with
  | zero => cases h
  | succ n ih =>
    rw [List.range_succ, List.findSome?_append] at h
    cases hbefore : (List.range n).findSome? f with
    | some b =>
      rw [hbefore] at h
      cases h
      exact ih hbefore
    | none =>
      rw [hbefore, Option.none_or, List.findSome?_singleton] at h
      exact ⟨n, h, fun j hj => List.findSome?_eq_none_iff.mp hbefore j (List.mem_range.mpr hj)⟩

namespace Decimal

/-- Enough fuel strips all zeros at the end. -/
theorem mod_ten_stripZeros {fuel : ℕ} {d : Decimal} (hd : d.digits ≠ 0)
    (hfuel : d.digits < 2 ^ fuel) : (stripZeros fuel d).digits % 10 ≠ 0 := by
  induction fuel generalizing d with
  | zero => omega
  | succ fuel ih =>
    unfold stripZeros
    split
    · have hten : d.digits / 10 ≠ 0 := by omega
      have hless : d.digits / 10 < 2 ^ fuel := by
        rw [pow_succ] at hfuel
        omega
      exact ih hten hless
    · omega

/-- Places are enough for a decimal without a zero at its end exactly if they reach its last digit.
-/
theorem fitsPlaces_iff {d : Decimal} (hd : d.digits % 10 ≠ 0) (k : ℕ) :
    FitsPlaces d.value k ↔ 0 ≤ d.exponent + k := by
  have hten : (10 : ℚ) ≠ 0 := by norm_num
  have hshift : d.value * 10 ^ k = d.digits * (10 : ℚ) ^ (d.exponent + k) := by
    rw [value, mul_assoc, zpow_add₀ hten, zpow_natCast]
  unfold FitsPlaces
  rw [hshift]
  constructor
  · rintro ⟨z, hz⟩
    by_contra hneg
    obtain ⟨j, hj⟩ : ∃ j : ℕ, d.exponent + k = -(j + 1 : ℕ) :=
      ⟨(-(d.exponent + k) - 1).toNat, by omega⟩
    rw [hj, zpow_neg, zpow_natCast, ← div_eq_mul_inv, div_eq_iff (pow_ne_zero _ hten)] at hz
    -- The digits would end in a zero.
    have hdigits : (d.digits : ℤ) = z * 10 ^ j * 10 := by
      rw [mul_assoc, ← pow_succ]
      exact_mod_cast hz
    omega
  · intro hle
    obtain ⟨j, hj⟩ := Int.eq_ofNat_of_zero_le hle
    exact ⟨d.digits * 10 ^ j, by rw [hj, zpow_natCast]; push_cast; rfl⟩

/-- A decimal without a zero at its end needs the places up to its last digit. -/
theorem isLeast_fitsPlaces {d : Decimal} (hd : d.digits % 10 ≠ 0) :
    IsLeast {k | FitsPlaces d.value k} (-d.exponent).toNat := by
  constructor
  · exact (fitsPlaces_iff hd _).mpr (by omega)
  · intro k hk
    have hle := (fitsPlaces_iff hd k).mp hk
    omega

/-- The shortest decimal of a positive number has no zero at its end. -/
theorem mod_ten_shortest {m : ℕ} (hm : 0 < m) (e : ℤ) : (shortest m e).digits % 10 ≠ 0 := by
  have hpos := pos_of_roundsTo hm (roundsTo_shortest hm e)
  unfold shortest at hpos ⊢
  dsimp only at hpos ⊢
  rw [value_stripZeros] at hpos
  refine mod_ten_stripZeros ?_ Nat.lt_log2_self
  intro hzero
  rw [value, hzero, Nat.cast_zero, zero_mul] at hpos
  exact lt_irrefl _ hpos

/-- A candidate lies on its grid. -/
theorem exponent_of_candidate {m : ℕ} {e unit : ℤ} {d : Decimal}
    (h : candidate? m e unit = some d) : d.exponent = unit := by
  unfold candidate? at h
  dsimp only at h
  split at h <;> cases h <;> rfl

/-- A multiple of a power of two is a natural number exactly if it is one after the power is moved
to where it is none of a fraction. -/
theorem mul_zpow_eq_natCast_iff {m n : ℕ} {e : ℤ} :
    (m : ℚ) * 2 ^ e = n ↔ m * 2 ^ e.toNat = n * 2 ^ (-e).toNat := by
  have hclear := zpow_mul_pow_toNat (two_ne_zero : (2 : ℚ) ≠ 0) e
  have hpower : (2 : ℚ) ^ (-e).toNat ≠ 0 := by positivity
  rw [← mul_left_inj' hpower, mul_assoc, hclear]
  exact_mod_cast Iff.rfl

/-- An integer is a candidate for itself on the grid of the integers. -/
theorem candidate?_zero_ne_none {m n : ℕ} (hm : 0 < m) {e : ℤ} (hn : m * (2 : ℚ) ^ e = n) :
    candidate? m e 0 ≠ none := by
  have hquotient : m * Nat.pow 2 e.toNat * Nat.pow 10 (-0 : ℤ).toNat /
      (Nat.pow 2 (-e).toNat * Nat.pow 10 (0 : ℤ).toNat) = n := by
    simp only [Nat.pow_eq, neg_zero, Int.toNat_zero, pow_zero, mul_one,
      mul_zpow_eq_natCast_iff.mp hn]
    exact Nat.mul_div_cancel n (Nat.pow_pos (by decide))
  have hdown : readsBackTo ⟨n, 0⟩ m e = true := by
    refine readsBackTo_iff.mpr ?_
    have hvalue : (⟨n, 0⟩ : Decimal).value = m * (2 : ℚ) ^ e := by
      rw [value, zpow_zero, mul_one, hn]
    rw [hvalue]
    exact roundsTo_self hm e
  unfold candidate?
  dsimp only
  rw [hquotient, hdown]
  split <;> simp_all

/-- The scale of a number that is one at least is positive. -/
theorem one_le_scaleOf {m : ℕ} (hm : 0 < m) {e : ℤ} (hone : 1 ≤ m * (2 : ℚ) ^ e) :
    1 ≤ scaleOf m e := by
  have hlog : 0 ≤ (m.log2 : ℤ) + e := by
    have hbits : (m : ℚ) < 2 ^ ((m.log2 : ℤ) + 1) := (Binary64.log2_bounds hm.ne').2
    have hpower : (1 : ℚ) < 2 ^ ((m.log2 : ℤ) + 1 + e) := by
      rw [zpow_add₀ two_ne_zero]
      exact hone.trans_lt (mul_lt_mul_of_pos_right hbits (by positivity))
    have hexponent := (one_lt_zpow_iff_right₀ one_lt_two).mp hpower
    omega
  have hestimate : 0 ≤ Int.fdiv (((m.log2 : ℤ) + e) * 30103) 100000 :=
    Int.fdiv_nonneg (by omega) (by decide)
  unfold scaleOf
  dsimp only
  generalize Int.fdiv (((m.log2 : ℤ) + e) * 30103) 100000 = estimate at hestimate ⊢
  split
  · next habove =>
    have hlarge := (compareScaled_spec 1 estimate m e).2.2.mp (beq_iff_eq.mp habove)
    rw [Nat.cast_one, one_mul] at hlarge
    have hpositive :=
      (one_lt_zpow_iff_right₀ (by norm_num : (1 : ℚ) < 10)).mp (hone.trans_lt hlarge)
    omega
  · split <;> omega

/-- The shortest decimal of an integer is an integer. -/
theorem fitsPlaces_zero_shortest {m n : ℕ} (hm : 0 < m) {e : ℤ} (hn : m * (2 : ℚ) ^ e = n) :
    FitsPlaces (shortest m e).value 0 := by
  have hone : 1 ≤ m * (2 : ℚ) ^ e := by
    have hpos : (0 : ℚ) < m * 2 ^ e := mul_pos (Nat.cast_pos.mpr hm) (by positivity)
    rw [hn] at hpos ⊢
    exact_mod_cast hpos
  have hscale := one_le_scaleOf hm hone
  unfold shortest
  dsimp only
  rw [value_stripZeros]
  cases hfound : (List.range 17).findSome? fun i => candidate? m e (scaleOf m e - (i + 1 : ℕ)) with
  | none =>
    rw [Option.getD_none, value_exact, hn]
    exact ⟨n, by simp⟩
  | some d =>
    -- The grid of the integers comes before finer ones, and a candidate is found on it.
    obtain ⟨i, hd, hnone⟩ := exists_first_of_findSome?_range hfound
    have hexponent := exponent_of_candidate hd
    have hgrid : 0 ≤ d.exponent := by
      by_contra hneg
      have hunit : scaleOf m e - ((scaleOf m e - 1).toNat + 1 : ℕ) = 0 := by omega
      have hskipped := hnone (scaleOf m e - 1).toNat (by omega)
      rw [hunit] at hskipped
      exact candidate?_zero_ne_none hm hn hskipped
    obtain ⟨j, hj⟩ := Int.eq_ofNat_of_zero_le hgrid
    exact ⟨d.digits * 10 ^ j, by rw [Option.getD_some, value, hj]; push_cast; simp⟩

/-- The shortest decimal of a number that is no integer has a digit behind the point. -/
theorem exponent_shortest_neg {m : ℕ} {e : ℤ} (hm : 0 < m) (canonical : Binary64.Canonical m e)
    (hno : ¬ ∃ n : ℕ, m * (2 : ℚ) ^ e = n) : (shortest m e).exponent < 0 := by
  by_contra hge
  have hround := roundsTo_shortest hm e
  obtain ⟨j, hj⟩ := Int.eq_ofNat_of_zero_le (Int.not_lt.mp hge)
  obtain ⟨n, hn⟩ : ∃ n : ℕ, (shortest m e).value = n :=
    ⟨(shortest m e).digits * 10 ^ j, by rw [value, hj, zpow_natCast]; push_cast; rfl⟩
  rw [hn] at hround
  have he : e < 0 := by
    by_contra hge'
    obtain ⟨k, hk⟩ := Int.eq_ofNat_of_zero_le (Int.not_lt.mp hge')
    exact hno ⟨m * 2 ^ k, by rw [hk, zpow_natCast]; push_cast; rfl⟩
  -- The integer is a double itself, and no number rounds to two doubles.
  have hsmall : n < 2 ^ 53 := by
    have hunit : (2 : ℚ) ^ (e - 2) ≤ 2 ^ (-3 : ℤ) := zpow_le_zpow_right₀ one_le_two (by omega)
    have hend : (4 * m + 2 : ℕ) < 2 ^ 55 := by
      have hm' : m < 2 ^ 53 := canonical.1
      omega
    have hle : (n : ℚ) ≤ (4 * m + 2 : ℕ) * (2 : ℚ) ^ (e - 2) :=
      hround.high.elim le_of_lt fun h => h.2.le
    have hlt : (n : ℚ) < 2 ^ 53 :=
      calc (n : ℚ) ≤ (4 * m + 2 : ℕ) * (2 : ℚ) ^ (e - 2) := hle
        _ ≤ (2 ^ 55 : ℕ) * (2 : ℚ) ^ (-3 : ℤ) :=
          mul_le_mul (Nat.cast_le.mpr hend.le) hunit (by positivity) (Nat.cast_nonneg _)
        _ < 2 ^ 53 := by norm_num
    exact_mod_cast hlt
  obtain ⟨s, e', canonical', -, hexact⟩ :=
    Binary64.ofRatio_one_exact false (k := 0) hsmall (by decide) (by rw [pow_zero, mul_one])
  have hself : (s : ℚ) * 2 ^ e' = n := mul_zpow_eq_natCast_iff.mpr hexact
  have hs : 0 < s := by
    have hpos := pos_of_roundsTo hm hround
    rw [← hself] at hpos
    exact Nat.pos_of_ne_zero fun hzero => by simp [hzero] at hpos
  have hround' := roundsTo_self hs e'
  rw [hself] at hround'
  obtain ⟨rfl, rfl⟩ := roundsTo_unique canonical canonical' hround hround'
  exact hno ⟨n, hself⟩

end Decimal

/-- A fraction is written with the exponent of its last digit. -/
theorem Decimal.exponent_literal {d : Decimal} (hd : d.exponent < 0) :
    d.literal.exponent = d.exponent := by
  unfold literal
  dsimp only
  split
  · rw [if_neg hd.not_ge]
    split <;> rfl
  · rfl

/-- The literal of a text with the number that it stands for, a sign in front being counted. -/
def decimalOf? (cs : List Char) : Option (DecimalLiteral × ℚ) :=
  let (negative, rest) := spanSign cs
  (readUnsigned? rest).map fun literal =>
    let size := (ofDigits literal.digits : ℚ) * 10 ^ literal.exponent
    (literal, if negative then -size else size)

/-- A text that starts with a digit has no sign. -/
theorem spanSign_of_isDigit {c : Char} (hc : c.isDigit = true) (rest : List Char) :
    spanSign (c :: rest) = (false, c :: rest) := by
  unfold spanSign
  split
  · next heq =>
    cases heq
    cases hc
  · next heq =>
    cases heq
    cases hc
  · rfl

/-- The text of an integer is read as the integer. -/
theorem decimalOf?_integerText (n : ℤ) :
    decimalOf? (integerText n) =
      some ((⟨digitsOnto n.natAbs [], 0⟩ : DecimalLiteral), (n : ℚ)) := by
  have hvalue : (if n < 0 then -|(n : ℚ)| else |(n : ℚ)|) = n := by
    split
    · next hneg => rw [abs_of_neg (Int.cast_lt_zero.mpr hneg), neg_neg]
    · next hneg => exact abs_of_nonneg (Int.cast_nonneg (Int.not_lt.mp hneg))
  simp [decimalOf?, spanSign_integerText, readUnsigned?_naturalText, ofDigits_digitsOnto, hvalue]

/-- The text of a decimal with a sign is read as the decimal with the sign. -/
theorem decimalOf?_layOut (negative : Bool) (d : Decimal) :
    decimalOf? ((if negative then ['-'] else []) ++ d.layOut) =
      some (d.literal, if negative then -d.value else d.value) := by
  have hread := d.readUnsigned?_layOut
  have hsign : spanSign ((if negative then ['-'] else []) ++ d.layOut) = (negative, d.layOut) := by
    cases negative with
    | true => rfl
    | false =>
      obtain ⟨c, rest, hlayOut, hdigit⟩ := d.exists_layOut_eq_cons
      rw [hlayOut]
      exact spanSign_of_isDigit hdigit rest
  simp [decimalOf?, hsign, hread, Decimal.value_literal]

namespace Binary64

/-- A double is whole exactly if its magnitude is a natural number. -/
theorem isIntegral_finite_iff (negative : Bool) {m : ℕ} {e : ℤ} (canonical : Canonical m e) :
    (finite negative m e canonical).isIntegral = true ↔ ∃ n : ℕ, (m : ℚ) * 2 ^ e = n := by
  have hden : 0 < 2 ^ (-e).toNat := Nat.pow_pos (by decide)
  have hdvd : (finite negative m e canonical).isIntegral = true ↔
      2 ^ (-e).toNat ∣ m * 2 ^ e.toNat := by
    unfold isIntegral ratio?
    dsimp only
    rw [beq_iff_eq, ← Int.dvd_iff_emod_eq_zero]
    cases negative with
    | true => exact (Int.dvd_neg).trans Int.natCast_dvd_natCast
    | false => exact Int.natCast_dvd_natCast
  rw [hdvd]
  constructor
  · rintro ⟨n, hn⟩
    exact ⟨n, Decimal.mul_zpow_eq_natCast_iff.mpr (by rw [hn, mul_comm])⟩
  · rintro ⟨n, hn⟩
    exact ⟨n, by rw [Decimal.mul_zpow_eq_natCast_iff.mp hn, mul_comm]⟩

/-- The text of a finite double is read as a decimal literal that needs the decimal places of the
double. Those of a fraction are told by the exponent of the literal. -/
theorem exists_decimalOf?_text {x : Binary64} (hx : x.isFinite = true) (layout : Layout) :
    ∃ literal q, decimalOf? (x.text layout) = some (literal, q) ∧
      IsLeast {k | FitsPlaces q k} x.decimalPlaces ∧
      (x.isIntegral = true ↔ x.decimalPlaces = 0) ∧
      (x.isIntegral = false → x.decimalPlaces = (-literal.exponent).toNat) := by
  cases x with
  | infinite negative => cases hx
  | nan => cases hx
  | finite negative m e canonical =>
    have hread := decimalOf?_layOut negative (if m = 0 then ⟨0, 0⟩ else Decimal.shortest m e)
    have hneeds (places : ℕ) (q : ℚ) :
        IsLeast {k | FitsPlaces (if negative then -q else q) k} places ↔
          IsLeast {k | FitsPlaces q k} places := by
      cases negative <;> simp [fitsPlaces_neg]
    refine ⟨_, _, hread, ?_⟩
    rw [hneeds]
    have hwhole := isIntegral_finite_iff negative canonical
    cases hintegral : (finite negative m e canonical).isIntegral with
    | true =>
      have hplaces : (finite negative m e canonical).decimalPlaces = 0 := by
        simp [decimalPlaces, hintegral]
      have hfits : FitsPlaces (if m = 0 then ⟨0, 0⟩ else Decimal.shortest m e).value 0 := by
        split
        · exact ⟨0, by simp [Decimal.value]⟩
        · next hm =>
          obtain ⟨n, hn⟩ := hwhole.mp hintegral
          exact Decimal.fitsPlaces_zero_shortest (Nat.pos_of_ne_zero hm) hn
      rw [hplaces]
      exact ⟨⟨hfits, fun k _ => Nat.zero_le k⟩, by simp, by simp⟩
    | false =>
      have hno : ¬ ∃ n : ℕ, (m : ℚ) * 2 ^ e = n := fun h => by simp [hwhole.mpr h] at hintegral
      have hm : m ≠ 0 := fun hzero => hno ⟨0, by simp [hzero]⟩
      have hpos := Nat.pos_of_ne_zero hm
      have hexponent := Decimal.exponent_shortest_neg hpos canonical hno
      have hplaces : (finite negative m e canonical).decimalPlaces =
          (-(Decimal.shortest m e).exponent).toNat := by
        simp [decimalPlaces, hintegral, shortest?, hm]
      rw [hplaces, if_neg hm, Decimal.exponent_literal hexponent]
      refine ⟨Decimal.isLeast_fitsPlaces (Decimal.mod_ten_shortest hpos e), ?_, fun _ => rfl⟩
      simp only [Bool.false_eq_true, false_iff]
      omega

end Binary64

/-- The text of a finite number is read as a decimal literal that needs the decimal places of the
number. -/
theorem Number.exists_decimalOf?_text {n : Number} (hn : n.isFinite = true) (layout : Layout) :
    ∃ literal q, decimalOf? (n.text layout) = some (literal, q) ∧
      IsLeast {k | FitsPlaces q k} n.decimalPlaces ∧
      (n.isIntegral = true ↔ n.decimalPlaces = 0) ∧
      (n.isIntegral = false → n.decimalPlaces = (-literal.exponent).toNat) := by
  cases n with
  | int n =>
    have hfits : FitsPlaces n 0 := ⟨n, by simp⟩
    refine ⟨_, _, decimalOf?_integerText n, ⟨hfits, fun k _ => Nat.zero_le k⟩, ?_⟩
    simp [isIntegral, decimalPlaces]
  | float x => exact Binary64.exists_decimalOf?_text hn layout

end Intake
