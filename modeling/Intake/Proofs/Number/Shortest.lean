import Intake.Number.Shortest
import Mathlib.Algebra.Order.Field.Power
import Mathlib.Algebra.Order.Field.Rat
import Mathlib.Tactic.Linarith
import Mathlib.Tactic.NormNum
import Mathlib.Tactic.Positivity
import Mathlib.Tactic.Ring

/-!
# Shortest digits tell doubles apart

The reals that round to different doubles are different, and the decimal that is written for a double
is one of those that round to it. Main statement: a finite double is known by its sign and the value
of its shortest decimal. That no decimal has fewer digits is not covered.
-/

namespace Intake

namespace Decimal

/-- The value of a decimal. -/
def value (d : Decimal) : ℚ := d.digits * (10 : ℚ) ^ d.exponent

/-- Four times the significand of the lower end of what rounds to `m · 2^e`. -/
def lowEnd (m : Nat) (e : Int) : Nat :=
  if m = Nat.pow 2 52 ∧ -1074 < e then 4 * m - 1 else 4 * m - 2

/-- A number lies among those that round to `m · 2^e`, whose ends belong to an even `m`. -/
structure RoundsTo (q : ℚ) (m : Nat) (e : Int) : Prop where
  /-- The number is not below the lower end. -/
  low : lowEnd m e * (2 : ℚ) ^ (e - 2) < q ∨ (m % 2 = 0 ∧ lowEnd m e * (2 : ℚ) ^ (e - 2) = q)
  /-- The number is not above the upper end. -/
  high : q < (4 * m + 2 : ℕ) * (2 : ℚ) ^ (e - 2) ∨
    (m % 2 = 0 ∧ q = (4 * m + 2 : ℕ) * (2 : ℚ) ^ (e - 2))

/-- A power times the power that clears its denominator. -/
theorem zpow_mul_pow_toNat {b : ℚ} (hb : b ≠ 0) (i : Int) : b ^ i * b ^ (-i).toNat = b ^ i.toNat := by
  rw [← zpow_natCast, ← zpow_natCast, ← zpow_add₀ hb]
  congr 1
  omega

/-- The comparison is that of the values. -/
theorem compareScaled_spec (a : Nat) (i : Int) (n : Nat) (j : Int) :
    (compareScaled a i n j = .lt ↔ a * (10 : ℚ) ^ i < n * (2 : ℚ) ^ j) ∧
      (compareScaled a i n j = .eq ↔ a * (10 : ℚ) ^ i = n * (2 : ℚ) ^ j) ∧
      (compareScaled a i n j = .gt ↔ n * (2 : ℚ) ^ j < a * (10 : ℚ) ^ i) := by
  have hscale : (0 : ℚ) < (10 : ℚ) ^ (-i).toNat * (2 : ℚ) ^ (-j).toNat := by positivity
  have hleft : a * (10 : ℚ) ^ i * ((10 : ℚ) ^ (-i).toNat * (2 : ℚ) ^ (-j).toNat) =
      (a * Nat.pow 10 i.toNat * Nat.pow 2 (-j).toNat : ℕ) := by
    push_cast [Nat.pow_eq]
    rw [← zpow_mul_pow_toNat (by norm_num : (10 : ℚ) ≠ 0) i]
    ring
  have hright : n * (2 : ℚ) ^ j * ((10 : ℚ) ^ (-i).toNat * (2 : ℚ) ^ (-j).toNat) =
      (n * Nat.pow 2 j.toNat * Nat.pow 10 (-i).toNat : ℕ) := by
    push_cast [Nat.pow_eq]
    rw [← zpow_mul_pow_toNat (by norm_num : (2 : ℚ) ≠ 0) j]
    ring
  unfold compareScaled
  refine ⟨?_, ?_, ?_⟩
  · rw [Nat.compare_eq_lt, ← mul_lt_mul_iff_of_pos_right hscale, hleft, hright, Nat.cast_lt]
  · rw [Nat.compare_eq_eq, ← mul_left_inj' hscale.ne', hleft, hright, Nat.cast_inj]
  · rw [Nat.compare_eq_gt, ← mul_lt_mul_iff_of_pos_right hscale, hleft, hright, Nat.cast_lt]

/-- A decimal reads back exactly if it rounds to the number. -/
theorem readsBackTo_iff {d : Decimal} {m : Nat} {e : Int} :
    d.readsBackTo m e = true ↔ RoundsTo d.value m e := by
  obtain ⟨-, hleq, hlgt⟩ := compareScaled_spec d.digits d.exponent (lowEnd m e) (e - 2)
  obtain ⟨hhlt, hheq, -⟩ := compareScaled_spec d.digits d.exponent (4 * m + 2) (e - 2)
  have hbounds : d.readsBackTo m e = true ↔
      (compareScaled d.digits d.exponent (lowEnd m e) (e - 2) = .gt ∨
        m % 2 = 0 ∧ compareScaled d.digits d.exponent (lowEnd m e) (e - 2) = .eq) ∧
      (compareScaled d.digits d.exponent (4 * m + 2) (e - 2) = .lt ∨
        m % 2 = 0 ∧ compareScaled d.digits d.exponent (4 * m + 2) (e - 2) = .eq) := by
    unfold readsBackTo lowEnd
    simp only [Bool.and_eq_true, Bool.or_eq_true, beq_iff_eq]
  rw [hbounds, hlgt, hleq, hhlt, hheq, eq_comm (a := (d.digits : ℚ) * 10 ^ d.exponent)]
  exact ⟨fun h => ⟨h.1, h.2⟩, fun h => ⟨h.low, h.high⟩⟩

/-- A positive number rounds to itself. -/
theorem roundsTo_self {m : Nat} (hm : 0 < m) (e : Int) : RoundsTo (m * (2 : ℚ) ^ e) m e := by
  have hfour : (m : ℚ) * (2 : ℚ) ^ e = (4 * m : ℕ) * (2 : ℚ) ^ (e - 2) := by
    rw [zpow_sub₀ two_ne_zero]
    push_cast
    ring
  have hpos : (0 : ℚ) < (2 : ℚ) ^ (e - 2) := by positivity
  rw [hfour]
  constructor
  · refine .inl (mul_lt_mul_of_pos_right ?_ hpos)
    rw [Nat.cast_lt, lowEnd]
    split <;> omega
  · refine .inl (mul_lt_mul_of_pos_right ?_ hpos)
    rw [Nat.cast_lt]
    omega

/-- A candidate rounds to the number. -/
theorem roundsTo_of_candidate {m : Nat} {e unit : Int} {d : Decimal}
    (h : candidate? m e unit = some d) : RoundsTo d.value m e := by
  apply readsBackTo_iff.mp
  unfold candidate? at h
  dsimp only at h
  split at h
  · next hdown hup =>
    cases h
    unfold roundRatio
    dsimp only
    split
    · exact hdown
    · split
      · exact hup
      · split
        · exact hdown
        · exact hup
  · next hdown hup =>
    cases h
    exact hdown
  · next hdown hup =>
    cases h
    exact hup
  · cases h

/-- Trailing zeros count for nothing. -/
theorem value_stripZeros (fuel : Nat) (d : Decimal) : (stripZeros fuel d).value = d.value := by
  induction fuel generalizing d with
  | zero => rfl
  | succ fuel ih =>
    unfold stripZeros
    split
    · next h =>
      have hdigits : (d.digits : ℚ) = (d.digits / 10 : ℕ) * 10 := by
        have hnat : d.digits = d.digits / 10 * 10 := by omega
        exact_mod_cast hnat
      rw [ih, value, value, hdigits, zpow_add_one₀ (by norm_num)]
      ring
    · rfl

/-- The decimal that stands in where no other is found has the value itself. -/
theorem value_exact (m : Nat) (e : Int) :
    (⟨m * Nat.pow 2 e.toNat * Nat.pow 5 (-e).toNat, min e 0⟩ : Decimal).value =
      m * (2 : ℚ) ^ e := by
  unfold value
  push_cast [Nat.pow_eq]
  rcases le_total 0 e with he | he
  · obtain ⟨k, rfl⟩ := Int.eq_ofNat_of_zero_le he
    simp
  · obtain ⟨k, hk⟩ := Int.eq_ofNat_of_zero_le (Int.neg_nonneg_of_nonpos he)
    obtain rfl : e = -(k : Int) := by omega
    have hten : (10 : ℚ) ^ k = 5 ^ k * 2 ^ k := by rw [← mul_pow]; norm_num
    have hfive : (5 : ℚ) ^ k ≠ 0 := by positivity
    simp only [neg_neg, Int.toNat_natCast, Int.toNat_neg_natCast, pow_zero, mul_one,
      min_eq_left he, zpow_neg, zpow_natCast, hten, mul_inv]
    rw [mul_assoc, mul_inv_cancel_left₀ hfive]

/-- The shortest decimal of a positive number rounds to it. -/
theorem roundsTo_shortest {m : Nat} (hm : 0 < m) (e : Int) : RoundsTo (shortest m e).value m e := by
  unfold shortest
  dsimp only
  rw [value_stripZeros]
  cases hfound : (List.range 17).findSome? fun n => candidate? m e (scaleOf m e - (n + 1 : Nat)) with
  | some d =>
    obtain ⟨n, -, hn⟩ := List.exists_of_findSome?_eq_some hfound
    exact roundsTo_of_candidate hn
  | none =>
    -- The exact value stands in.
    have hself := roundsTo_self hm e
    rw [← value_exact m e] at hself
    exact hself

/-- The lower end of a number with a leading bit. -/
theorem le_lowEnd {m : Nat} {e : Int} (hm : 2 ^ 52 ≤ m) (he : -1074 < e) :
    2 ^ 54 - 1 ≤ lowEnd m e := by
  unfold lowEnd
  rw [Nat.pow_eq]
  split <;> omega

/-- What rounds to a number lies below what rounds to a larger one, up to an end that they share,
which belongs to one of them at most. -/
theorem ends_le_of_lt {m m' : Nat} {e e' : Int} (h : Binary64.Canonical m e)
    (h' : Binary64.Canonical m' e') (hlt : e < e' ∨ (e = e' ∧ m < m')) :
    ((4 * m + 2 : ℕ) : ℚ) * (2 : ℚ) ^ (e - 2) ≤ lowEnd m' e' * (2 : ℚ) ^ (e' - 2) ∧
      (((4 * m + 2 : ℕ) : ℚ) * (2 : ℚ) ^ (e - 2) = lowEnd m' e' * (2 : ℚ) ^ (e' - 2) →
        m % 2 = 1 ∨ m' % 2 = 1) := by
  have hunit : (0 : ℚ) < (2 : ℚ) ^ (e - 2) := by positivity
  obtain ⟨hm, he, -, -⟩ := h
  obtain ⟨-, -, -, hm'⟩ := h'
  simp only [Nat.pow_eq] at hm hm'
  rcases hlt with hlt | ⟨rfl, hlt⟩
  · have hlow : 2 ^ 54 - 1 ≤ lowEnd m' e' := le_lowEnd (by omega) (by omega)
    have hhigh : 4 * m + 2 ≤ (2 ^ 54 - 1) * 2 := by omega
    have hpower : 2 * (2 : ℚ) ^ (e - 2) ≤ (2 : ℚ) ^ (e' - 2) := by
      rw [← zpow_one_add₀ two_ne_zero]
      exact zpow_le_zpow_right₀ one_le_two (by omega)
    have hle : ((2 ^ 54 - 1) * 2 : ℕ) * (2 : ℚ) ^ (e - 2) ≤ lowEnd m' e' * (2 : ℚ) ^ (e' - 2) :=
      calc ((2 ^ 54 - 1) * 2 : ℕ) * (2 : ℚ) ^ (e - 2)
          = (2 ^ 54 - 1 : ℕ) * (2 * (2 : ℚ) ^ (e - 2)) := by
            rw [Nat.cast_mul, Nat.cast_two, mul_assoc]
        _ ≤ lowEnd m' e' * (2 : ℚ) ^ (e' - 2) :=
            mul_le_mul (Nat.cast_le.mpr hlow) hpower (by positivity) (Nat.cast_nonneg _)
    have hhigh' : ((4 * m + 2 : ℕ) : ℚ) * (2 : ℚ) ^ (e - 2) ≤
        ((2 ^ 54 - 1) * 2 : ℕ) * (2 : ℚ) ^ (e - 2) :=
      mul_le_mul_of_nonneg_right (Nat.cast_le.mpr hhigh) hunit.le
    refine ⟨hhigh'.trans hle, fun heq => .inl ?_⟩
    have hends : (4 * m + 2 : ℕ) = (2 ^ 54 - 1) * 2 := by
      have hcast : (((2 ^ 54 - 1) * 2 : ℕ) : ℚ) ≤ ((4 * m + 2 : ℕ) : ℚ) :=
        le_of_mul_le_mul_right (hle.trans heq.ge) hunit
      exact le_antisymm hhigh (Nat.cast_le.mp hcast)
    omega
  · have hlow : 4 * m + 2 ≤ lowEnd m' e := by
      unfold lowEnd
      split <;> omega
    refine ⟨mul_le_mul_of_nonneg_right (Nat.cast_le.mpr hlow) hunit.le, fun heq => ?_⟩
    have hends : 4 * m + 2 = lowEnd m' e := Nat.cast_injective (mul_right_cancel₀ hunit.ne' heq)
    unfold lowEnd at hends
    split at hends <;> omega

/-- A number rounds to no two numbers one of which is larger. -/
theorem not_roundsTo_of_lt {q : ℚ} {m m' : Nat} {e e' : Int} (h : Binary64.Canonical m e)
    (h' : Binary64.Canonical m' e') (hlt : e < e' ∨ (e = e' ∧ m < m')) (hq : RoundsTo q m e) :
    ¬ RoundsTo q m' e' := by
  intro hq'
  obtain ⟨hle, hodd⟩ := ends_le_of_lt h h' hlt
  rcases hq.high with hhigh | ⟨heven, hhigh⟩
  · rcases hq'.low with hlow | ⟨-, hlow⟩
    · exact absurd (hlow.trans hhigh) (not_lt.mpr hle)
    · exact absurd (hlow.trans_lt hhigh) (not_lt.mpr hle)
  · rcases hq'.low with hlow | ⟨heven', hlow⟩
    · exact absurd (hlow.trans_eq hhigh) (not_lt.mpr hle)
    · have hends := hodd (hhigh.symm.trans hlow.symm)
      omega

/-- A number rounds to one number at most. -/
theorem roundsTo_unique {q : ℚ} {m m' : Nat} {e e' : Int} (h : Binary64.Canonical m e)
    (h' : Binary64.Canonical m' e') (hq : RoundsTo q m e) (hq' : RoundsTo q m' e') :
    m = m' ∧ e = e' := by
  rcases lt_trichotomy e e' with hlt | rfl | hlt
  · exact absurd hq' (not_roundsTo_of_lt h h' (.inl hlt) hq)
  · rcases lt_trichotomy m m' with hlt | rfl | hlt
    · exact absurd hq' (not_roundsTo_of_lt h h' (.inr ⟨rfl, hlt⟩) hq)
    · exact ⟨rfl, rfl⟩
    · exact absurd hq (not_roundsTo_of_lt h' h (.inr ⟨rfl, hlt⟩) hq')
  · exact absurd hq (not_roundsTo_of_lt h' h (.inl hlt) hq')

/-- What rounds to a positive number is positive. -/
theorem pos_of_roundsTo {q : ℚ} {m : Nat} {e : Int} (hm : 0 < m) (h : RoundsTo q m e) : 0 < q := by
  have hlow : 0 < lowEnd m e := by
    unfold lowEnd
    split <;> omega
  have hpos : (0 : ℚ) < lowEnd m e * (2 : ℚ) ^ (e - 2) :=
    mul_pos (Nat.cast_pos.mpr hlow) (by positivity)
  rcases h.low with h | ⟨-, h⟩
  · exact hpos.trans h
  · exact h ▸ hpos

end Decimal

namespace Binary64

/-- The significand and the exponent are known by the value of the shortest decimal. -/
theorem parts_eq_of_shortest {m m' : Nat} {e e' : Int} (h : Canonical m e) (h' : Canonical m' e')
    (hvalue : (if m = 0 then ⟨0, 0⟩ else Decimal.shortest m e : Decimal).value =
      (if m' = 0 then ⟨0, 0⟩ else Decimal.shortest m' e' : Decimal).value) : m = m' ∧ e = e' := by
  have hzero : (⟨0, 0⟩ : Decimal).value = 0 := by simp [Decimal.value]
  split at hvalue
  · next hm =>
    split at hvalue
    · next hm' =>
      subst hm hm'
      obtain ⟨-, -, -, he⟩ := h
      obtain ⟨-, -, -, he'⟩ := h'
      simp only [Nat.pow_eq] at he he'
      omega
    · next hm' =>
      have hpos := Decimal.pos_of_roundsTo (Nat.pos_of_ne_zero hm')
        (Decimal.roundsTo_shortest (Nat.pos_of_ne_zero hm') e')
      rw [← hvalue, hzero] at hpos
      exact absurd hpos (lt_irrefl 0)
  · next hm =>
    have hq := Decimal.roundsTo_shortest (Nat.pos_of_ne_zero hm) e
    split at hvalue
    · next hm' =>
      have hpos := Decimal.pos_of_roundsTo (Nat.pos_of_ne_zero hm) hq
      rw [hvalue, hzero] at hpos
      exact absurd hpos (lt_irrefl 0)
    · next hm' =>
      rw [hvalue] at hq
      exact Decimal.roundsTo_unique h h' hq (Decimal.roundsTo_shortest (Nat.pos_of_ne_zero hm') e')

/-- A finite number is known by its sign and the value of its shortest decimal. -/
theorem eq_of_shortest {x y : Binary64} {d d' : Decimal} (hx : x.shortest? = some d)
    (hy : y.shortest? = some d') (hsign : x.isNegative = y.isNegative)
    (hvalue : d.value = d'.value) : x = y := by
  cases x with
  | infinite negative => cases hx
  | nan => cases hx
  | finite negative m e canonical =>
    cases y with
    | infinite negative => cases hy
    | nan => cases hy
    | finite negative' m' e' canonical' =>
      obtain rfl : negative = negative' := hsign
      cases hx
      cases hy
      obtain ⟨rfl, rfl⟩ := parts_eq_of_shortest canonical canonical' hvalue
      rfl

end Binary64

end Intake
