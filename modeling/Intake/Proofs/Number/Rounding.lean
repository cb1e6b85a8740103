import Intake.Number.Binary64
import Mathlib.Algebra.Order.Field.Power
import Mathlib.Data.Rat.Cast.Order
import Mathlib.Tactic.Linarith
import Mathlib.Tactic.Positivity
import Mathlib.Tactic.Ring

/-!
# Ratios that round to finite doubles

The exponent that is chosen for a ratio leaves a significand of 53 bits, unless it is the least one.
Hence a ratio that is not too large rounds to a finite double. How far the double lies from the ratio
is not covered here.
-/

namespace Intake

namespace Binary64

/-- A ratio scaled by a power of two, with the power in the numerator or in the denominator. -/
theorem scaled_ratio (num den : Nat) (e : Int) :
    ((num * Nat.pow 2 (-e).toNat : Nat) : ℚ) / ((den * Nat.pow 2 e.toNat : Nat) : ℚ) =
      (num : ℚ) / den / 2 ^ e := by
  have h2 : (2 : ℚ) ≠ 0 := two_ne_zero
  rcases le_total 0 e with he | he
  · obtain ⟨k, rfl⟩ := Int.eq_ofNat_of_zero_le he
    have hk : (-(k : Int)).toNat = 0 := by omega
    simp only [hk, Int.toNat_natCast, Nat.pow_eq, pow_zero, mul_one, Nat.cast_mul, Nat.cast_pow,
      Nat.cast_ofNat, zpow_natCast]
    rw [div_div]
  · obtain ⟨k, hk⟩ := Int.eq_ofNat_of_zero_le (Int.neg_nonneg_of_nonpos he)
    obtain rfl : e = -(k : Int) := by omega
    have hk' : (-(k : Int)).toNat = 0 := by omega
    simp only [hk', neg_neg, Int.toNat_natCast, Nat.pow_eq, pow_zero, mul_one, Nat.cast_mul,
      Nat.cast_pow, Nat.cast_ofNat, zpow_neg, zpow_natCast]
    rw [div_inv_eq_mul, mul_div_right_comm]

/-- A positive number lies between its binary logarithm as a power of two and the next power. -/
theorem log2_bounds {n : Nat} (hn : n ≠ 0) :
    (2 : ℚ) ^ (n.log2 : Int) ≤ n ∧ (n : ℚ) < 2 ^ ((n.log2 : Int) + 1) := by
  constructor
  · rw [zpow_natCast]
    exact_mod_cast Nat.log2_self_le hn
  · have hlt : n < 2 ^ (n.log2 + 1) := Nat.lt_log2_self
    have hc : ((n.log2 : Int) + 1) = ((n.log2 + 1 : Nat) : Int) := by push_cast; rfl
    rw [hc, zpow_natCast]
    exact_mod_cast hlt

/-- A ratio lies within a factor of two of the power of two that its logarithms tell. -/
theorem ratio_bounds {num den : Nat} (hn : num ≠ 0) (hd : den ≠ 0) :
    (2 : ℚ) ^ ((num.log2 : Int) - den.log2 - 1) < (num : ℚ) / den ∧
      (num : ℚ) / den < 2 ^ ((num.log2 : Int) - den.log2 + 1) := by
  obtain ⟨hn1, hn2⟩ := log2_bounds hn
  obtain ⟨hd1, hd2⟩ := log2_bounds hd
  have hpos : (0 : ℚ) < den := by exact_mod_cast Nat.pos_of_ne_zero hd
  have h2 : (2 : ℚ) ≠ 0 := two_ne_zero
  constructor
  · rw [lt_div_iff₀ hpos]
    calc (2 : ℚ) ^ ((num.log2 : Int) - den.log2 - 1) * den
        < 2 ^ ((num.log2 : Int) - den.log2 - 1) * 2 ^ ((den.log2 : Int) + 1) :=
          mul_lt_mul_of_pos_left hd2 (by positivity)
      _ = 2 ^ (num.log2 : Int) := by
          rw [← zpow_add₀ h2]
          congr 1
          omega
      _ ≤ num := hn1
  · rw [div_lt_iff₀ hpos]
    calc (num : ℚ) < 2 ^ ((num.log2 : Int) + 1) := hn2
      _ = 2 ^ ((num.log2 : Int) - den.log2 + 1) * 2 ^ (den.log2 : Int) := by
          rw [← zpow_add₀ h2]
          congr 1
          omega
      _ ≤ 2 ^ ((num.log2 : Int) - den.log2 + 1) * den :=
          mul_le_mul_of_nonneg_left hd1 (by positivity)

/-- A scaled numerator is below a multiple of the scaled denominator exactly if the ratio is below a
power of two. -/
theorem scaled_lt_iff (num : Nat) {den : Nat} (hd : den ≠ 0) (e : Int) (k : Nat) :
    num * Nat.pow 2 (-e).toNat < den * Nat.pow 2 e.toNat * Nat.pow 2 k ↔
      (num : ℚ) / den < 2 ^ (e + k) := by
  have hpos : 0 < den * Nat.pow 2 e.toNat :=
    Nat.mul_pos (Nat.pos_of_ne_zero hd) (Nat.pow_pos (by decide))
  have hpos' : (0 : ℚ) < ((den * Nat.pow 2 e.toNat : Nat) : ℚ) := by exact_mod_cast hpos
  have he : (0 : ℚ) < 2 ^ e := by positivity
  rw [zpow_add₀ two_ne_zero, mul_comm ((2 : ℚ) ^ e), ← div_lt_iff₀ he, ← scaled_ratio, div_lt_iff₀ hpos',
    zpow_natCast]
  have hc : (2 : ℚ) ^ k * ((den * Nat.pow 2 e.toNat : Nat) : ℚ) =
      ((den * Nat.pow 2 e.toNat * Nat.pow 2 k : Nat) : ℚ) := by
    push_cast [Nat.pow_eq]
    ring
  rw [hc]
  exact Nat.cast_lt.symm

/-- The exponent of a ratio leaves a significand below `2^53`, and one of 53 bits unless it is the
least exponent. -/
theorem exponentOf_spec {num den : Nat} (hn : num ≠ 0) (hd : den ≠ 0) :
    -1074 ≤ exponentOf num den ∧ (num : ℚ) / den < 2 ^ (exponentOf num den + 53) ∧
      (exponentOf num den = -1074 ∨ (2 : ℚ) ^ (exponentOf num den + 52) ≤ (num : ℚ) / den) := by
  obtain ⟨hlow, hhigh⟩ := ratio_bounds hn hd
  -- The exponent before it is raised to the least one.
  have hideal : ∃ e : Int, exponentOf num den = max (-1074) e ∧
      (2 : ℚ) ^ (e + 52) ≤ (num : ℚ) / den ∧ (num : ℚ) / den < 2 ^ (e + 53) := by
    have hscaled := scaled_lt_iff num hd ((num.log2 : Int) - den.log2 - 52) 52
    by_cases hlt : (num : ℚ) / den < 2 ^ ((num.log2 : Int) - den.log2 - 52 + (52 : Nat))
    · refine ⟨(num.log2 : Int) - den.log2 - 52 - 1, ?_, ?_, ?_⟩
      · rw [exponentOf]
        exact congrArg (max (-1074)) (if_pos (hscaled.mpr hlt))
      · refine le_trans (le_of_eq ?_) hlow.le
        congr 1
        omega
      · refine lt_of_lt_of_le hlt (le_of_eq ?_)
        congr 1
        omega
    · refine ⟨(num.log2 : Int) - den.log2 - 52, ?_, ?_, ?_⟩
      · rw [exponentOf]
        exact congrArg (max (-1074)) (if_neg (hscaled.not.mpr hlt))
      · exact not_lt.mp hlt
      · refine lt_of_lt_of_le hhigh (le_of_eq ?_)
        congr 1
        omega
  obtain ⟨e, he, hl, hh⟩ := hideal
  rw [he]
  refine ⟨le_max_left _ _, lt_of_lt_of_le hh ?_, ?_⟩
  · exact zpow_le_zpow_right₀ one_le_two (by omega)
  · rcases le_total e (-1074) with h | h
    · exact .inl (max_eq_left h)
    · rw [max_eq_right h]
      exact .inr hl

/-- Rounding keeps a ratio between naturals it lies between. -/
theorem roundRatio_le {num den k : Nat} (hd : 0 < den) (h : num ≤ den * k) :
    roundRatio num den ≤ k := by
  rcases h.eq_or_lt with rfl | h
  · simp [roundRatio, Nat.mul_div_cancel_left k hd, hd]
  have hlt : num / den < k := (Nat.div_lt_iff_lt_mul hd).mpr (by rwa [Nat.mul_comm])
  dsimp only [roundRatio]
  split
  · omega
  · split
    · omega
    · split <;> omega

/-- Rounding keeps a ratio above naturals it is above. -/
theorem le_roundRatio {num den k : Nat} (hd : 0 < den) (h : den * k ≤ num) :
    k ≤ roundRatio num den := by
  have hle : k ≤ num / den := (Nat.le_div_iff_mul_le hd).mpr (by rwa [Nat.mul_comm])
  dsimp only [roundRatio]
  split
  · omega
  · split
    · omega
    · split <;> omega

/-- The significand of a ratio, one bit too long if it is rounded up to a power of two. -/
def significandOf (num den : Nat) : Nat :=
  roundRatio (num * Nat.pow 2 (-exponentOf num den).toNat)
    (den * Nat.pow 2 (exponentOf num den).toNat)

theorem ofRatio_eq (negative : Bool) {num : Nat} (den : Nat) (hn : num ≠ 0) :
    ofRatio negative num den =
      if significandOf num den = Nat.pow 2 53 then
        ofParts negative (Nat.pow 2 52) (exponentOf num den + 1)
      else ofParts negative (significandOf num den) (exponentOf num den) := by
  rw [ofRatio, if_neg hn]
  rfl

theorem scaled_den_pos {den : Nat} (hd : den ≠ 0) (e : Int) : 0 < den * Nat.pow 2 e.toNat :=
  Nat.mul_pos (Nat.pos_of_ne_zero hd) (Nat.pow_pos (by decide))

/-- The significand of a ratio has 53 bits, unless the exponent is the least one or it is rounded up
to a power of two. -/
theorem significandOf_spec {num den : Nat} (hn : num ≠ 0) (hd : den ≠ 0) :
    significandOf num den ≤ Nat.pow 2 53 ∧
      (Nat.pow 2 52 ≤ significandOf num den ∨ exponentOf num den = -1074) := by
  obtain ⟨-, hhigh, hlow⟩ := exponentOf_spec hn hd
  have hden := scaled_den_pos hd (exponentOf num den)
  refine ⟨roundRatio_le hden ((scaled_lt_iff num hd _ 53).mpr hhigh).le, ?_⟩
  rcases hlow with he | he
  · exact .inr he
  · refine .inl (le_roundRatio hden (not_lt.mp ?_))
    rw [scaled_lt_iff num hd _ 52]
    exact not_lt.mpr he

/-- The exponent of a ratio below a power of two is the least one or less than that of the power. -/
theorem exponentOf_lt {num den k : Nat} (hn : num ≠ 0) (hd : den ≠ 0) (h : num < den * 2 ^ k) :
    exponentOf num den = -1074 ∨ exponentOf num den + 52 < k := by
  have hpos : (0 : ℚ) < den := by exact_mod_cast Nat.pos_of_ne_zero hd
  have hsmall : (num : ℚ) / den < 2 ^ (k : Int) := by
    rw [div_lt_iff₀ hpos, mul_comm, zpow_natCast]
    exact_mod_cast h
  rcases (exponentOf_spec hn hd).2.2 with he | he
  · exact .inl he
  · exact .inr ((zpow_lt_zpow_iff_right₀ one_lt_two).mp (lt_of_le_of_lt he hsmall))

/-- A ratio below a power of two that is not too large rounds to a finite double, the exponent of
which is no larger than that of the power. -/
theorem exists_ofRatio_eq_finite (negative : Bool) (num : Nat) {den : Nat} (k : Nat) (hd : den ≠ 0)
    (hk : k ≤ 971) (h : num < den * 2 ^ k) :
    ∃ m e canonical, ofRatio negative num den = .finite negative m e canonical ∧ e ≤ k := by
  by_cases hn : num = 0
  · exact ⟨0, -1074, by decide, by rw [ofRatio, if_pos hn]; rfl, by omega⟩
  have hleast := (exponentOf_spec hn hd).1
  have hlarge := exponentOf_lt hn hd h
  obtain ⟨hm, hm'⟩ := significandOf_spec hn hd
  rw [ofRatio_eq negative den hn]
  split
  · have hc : Canonical (Nat.pow 2 52) (exponentOf num den + 1) :=
      ⟨by decide, by omega, by omega, .inl le_rfl⟩
    exact ⟨_, _, hc, dif_pos hc, by omega⟩
  · rename_i hne
    have hc : Canonical (significandOf num den) (exponentOf num den) :=
      ⟨lt_of_le_of_ne hm hne, hleast, by omega, hm'⟩
    exact ⟨_, _, hc, dif_pos hc, by omega⟩

/-- A finite number that does not exceed a natural has a ratio that does not. -/
theorem exists_ratio_le (negative : Bool) {m k : Nat} {e : Int} (canonical : Canonical m e)
    (h : m * Nat.pow 2 e.toNat ≤ Nat.pow 2 (-e).toNat * k) :
    ∃ num den, (Binary64.finite negative m e canonical).ratio? = some (num, den) ∧ den ≠ 0 ∧
      num.natAbs ≤ den * k := by
  refine ⟨_, _, rfl, (Nat.pow_pos (by decide)).ne', ?_⟩
  cases negative with
  | false => exact h
  | true => exact (Int.natAbs_neg _).trans_le h

/-- A negative exponent and the next one as powers in a denominator. -/
theorem exists_toNat_of_neg {e : Int} (he : e < 0) :
    ∃ n, (-e).toNat = n + 1 ∧ (-(e + 1)).toNat = n ∧ (e + 1).toNat = 0 :=
  ⟨(-(e + 1)).toNat, by omega, rfl, by omega⟩

/-- A ratio that does not exceed a natural below `2^53` rounds to a double that does not. -/
theorem exists_ofRatio_ratio_le (negative : Bool) {num den k : Nat} (hd : den ≠ 0)
    (hk : k < 2 ^ 53) (h : num ≤ den * k) :
    ∃ num' den', (ofRatio negative num den).ratio? = some (num', den') ∧ den' ≠ 0 ∧
      num'.natAbs ≤ den' * k := by
  by_cases hn : num = 0
  · rw [ofRatio, if_pos hn]
    exact exists_ratio_le negative (by decide) ((Nat.zero_mul _).trans_le (Nat.zero_le _))
  have hleast := (exponentOf_spec hn hd).1
  obtain ⟨hm, hm'⟩ := significandOf_spec hn hd
  -- A larger exponent belongs to a ratio of more bits.
  have he : exponentOf num den ≤ 0 := by
    have := exponentOf_lt hn hd
      (h.trans_lt (Nat.mul_lt_mul_of_pos_left hk (Nat.pos_of_ne_zero hd)))
    omega
  have hzero : Nat.pow 2 (exponentOf num den).toNat = 1 := by
    rw [Int.toNat_of_nonpos he]
  have hbound : significandOf num den ≤ Nat.pow 2 (-exponentOf num den).toNat * k := by
    refine roundRatio_le (scaled_den_pos hd _) ?_
    calc num * Nat.pow 2 (-exponentOf num den).toNat
        ≤ den * k * Nat.pow 2 (-exponentOf num den).toNat := Nat.mul_le_mul_right _ h
      _ = den * Nat.pow 2 (exponentOf num den).toNat *
          (Nat.pow 2 (-exponentOf num den).toNat * k) := by
        rw [hzero, mul_one, mul_assoc, mul_comm k]
  rw [ofRatio_eq negative den hn]
  split
  · next hup =>
    rw [hup] at hbound
    -- The significand is rounded up to a power of two, so that the exponent is negative.
    have hneg : exponentOf num den ≠ 0 := by
      intro hexp
      rw [hexp] at hbound
      exact absurd (hbound.trans_eq (Nat.one_mul k)) (Nat.not_le.mpr hk)
    have hc : Canonical (Nat.pow 2 52) (exponentOf num den + 1) :=
      ⟨by decide, by omega, by omega, .inl le_rfl⟩
    rw [ofParts, dif_pos hc]
    refine exists_ratio_le negative hc ?_
    obtain ⟨n, hsucc, hprev, hzero⟩ := exists_toNat_of_neg (lt_of_le_of_ne he hneg)
    rw [hsucc] at hbound
    rw [hzero, hprev]
    simp only [Nat.pow_eq, pow_zero, mul_one] at hbound ⊢
    have htwice : 2 ^ (n + 1) * k = 2 * (2 ^ n * k) := by ring
    omega
  · next hne =>
    have hc : Canonical (significandOf num den) (exponentOf num den) :=
      ⟨lt_of_le_of_ne hm hne, hleast, by omega, hm'⟩
    rw [ofParts, dif_pos hc]
    refine exists_ratio_le negative hc ?_
    rwa [hzero, mul_one]

end Binary64

end Intake
