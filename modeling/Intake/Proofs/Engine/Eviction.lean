import Intake.Proofs.Number.Rounding
import Intake.Engine.Cache

/-!
# Making room in a cache

With limits that are valid a cache can always make room, as long as it is not so large that its size
is out of the range of doubles: the share of the entries that goes is a finite double. As long as
every number of entries is a double, no more go than there are. Which entries go is not covered
here.
-/

namespace Intake

/-- The limits that the settings of an engine allow. -/
structure CacheLimits.Valid (limits : CacheLimits) : Prop where
  /-- The cache holds at least one entry. -/
  maxSize : 1 ≤ limits.maxSize
  /-- Entries live for some time. -/
  lifetime : (Number.int 0).lessThan (.float limits.lifetime) = true
  /-- Some share of the entries goes. -/
  share : (Number.int 0).lessThan (.float limits.evictionShare) = true
  /-- No more than all entries go. -/
  whole : (Number.float limits.evictionShare).atMost (.int 1) = true

namespace Binary64

/-- The ratio of a finite number with a small exponent is below a power of two. -/
theorem ratio_finite_lt (negative : Bool) {m : Nat} {e : Int} (canonical : Canonical m e) {k : Nat}
    (he : e ≤ k) :
    ∃ num den, (Binary64.finite negative m e canonical).ratio? = some (num, den) ∧ den ≠ 0 ∧
      num.natAbs < 2 ^ (k + 53) := by
  refine ⟨_, _, rfl, ?_, ?_⟩
  · exact (Nat.pow_pos (by decide)).ne'
  · have hm : m < 2 ^ 53 := canonical.1
    have hpow : 2 ^ e.toNat ≤ 2 ^ k := Nat.pow_le_pow_right (by decide) (by omega)
    have hnum : m * Nat.pow 2 e.toNat < 2 ^ (k + 53) := by
      rw [Nat.pow_add, Nat.mul_comm (2 ^ k)]
      exact Nat.mul_lt_mul_of_lt_of_le hm hpow (Nat.pow_pos (by decide))
    cases negative with
    | false => exact hnum
    | true => exact lt_of_eq_of_lt (Int.natAbs_neg _) hnum

/-- A positive number that is at most one has a ratio whose numerator is at most its denominator. -/
theorem ratio_of_share {x : Binary64} (hpos : (Number.int 0).lessThan (.float x) = true)
    (h : (Number.float x).atMost (.int 1) = true) :
    ∃ num den, x.ratio? = some (num, den) ∧ den ≠ 0 ∧ num.natAbs ≤ den := by
  cases x with
  | nan => cases hpos
  | infinite negative =>
    cases negative with
    | false => cases h
    | true => cases hpos
  | finite negative m e canonical =>
    obtain ⟨num, den, hr, hd, -⟩ := ratio_finite_lt negative canonical (Int.self_le_toNat e)
    refine ⟨num, den, hr, hd, ?_⟩
    have hplace : (Number.float (.finite negative m e canonical)).place? = some (.ratio num den) := by
      rw [Number.place?, place?, hr]
      rfl
    have hzero : 0 < num := by
      unfold Number.lessThan Number.order? at hpos
      rw [hplace] at hpos
      simp [Number.place?, Extended.order] at hpos
      exact compare_lt_iff_lt.mp hpos
    have hone : num ≤ den := by
      unfold Number.atMost Number.lessThan Number.sameAs Number.order? at h
      rw [hplace] at h
      simp [Number.place?, Extended.order] at h
      rcases h with h | h
      · exact (compare_lt_iff_lt.mp h).le
      · exact h.le
    omega

end Binary64

/-- A product with a share stays below a bound of the other factor. -/
theorem natAbs_mul_lt {a c : Int} {b d bound : Nat} (hab : a.natAbs ≤ b) (hb : b ≠ 0) (hd : d ≠ 0)
    (hc : c.natAbs < bound) : (c * a).natAbs < d * b * bound := by
  rw [Int.natAbs_mul]
  calc c.natAbs * a.natAbs ≤ c.natAbs * b := Nat.mul_le_mul_left _ hab
    _ < bound * b := Nat.mul_lt_mul_of_pos_right hc (Nat.pos_of_ne_zero hb)
    _ = 1 * b * bound := by rw [Nat.one_mul, Nat.mul_comm]
    _ ≤ d * b * bound := Nat.mul_le_mul_right _ (Nat.mul_le_mul_right _ (Nat.pos_of_ne_zero hd))

/-- Room is made for one more entry with a valid share of entries that are not too many. -/
theorem exists_evictedOf {limits : CacheLimits} (h : limits.Valid) {count k : Nat}
    (hk : k + 53 ≤ 971) (hcount : count < 2 ^ k) :
    ∃ n, evictedOf limits.evictionShare count = .ok n := by
  obtain ⟨a, b, hshare, hb, hab⟩ := Binary64.ratio_of_share h.share h.whole
  -- The size of the cache as a double.
  obtain ⟨m, e, canonical, hsize, he⟩ :=
    Binary64.exists_ofRatio_eq_finite (decide ((count : Int) < 0)) count k one_ne_zero
      (by omega) (by omega)
  obtain ⟨c, d, hratio, hd, hlt⟩ :=
    Binary64.ratio_finite_lt (decide ((count : Int) < 0)) canonical he
  -- The product of the size and the share.
  have hbound : (c * a).natAbs < d * b * 2 ^ (k + 53) := natAbs_mul_lt hab hb hd hlt
  have hcountRatio : (Binary64.ofInt count).ratio? = some (c, d) := by
    rw [← hratio, ← hsize]
    rfl
  obtain ⟨m', e', canonical', hproduct, -⟩ :=
    Binary64.exists_ofRatio_eq_finite
      ((Binary64.ofInt count).isNegative != limits.evictionShare.isNegative) (c * a).natAbs
      (k + 53) (Nat.mul_ne_zero hd hb) hk hbound
  have hmul : Binary64.ofInt count * limits.evictionShare = .finite
      ((Binary64.ofInt count).isNegative != limits.evictionShare.isNegative) m' e' canonical' := by
    rw [← hproduct]
    change Binary64.mul _ _ = _
    rw [Binary64.mul, hcountRatio, hshare]
  unfold evictedOf
  rw [hmul]
  exact ⟨_, rfl⟩

/-- How many of so many entries go, from the integer part of the share. -/
theorem evictedOf_of_truncate? {share : Binary64} {count : Nat} {whole : Int}
    (h : (Binary64.ofInt count * share).truncate? = some whole) :
    evictedOf share count = .ok (max 1 whole).toNat := by
  rw [evictedOf]
  generalize Binary64.ofInt count * share = product at h
  cases product with
  | finite negative m e canonical => simp [Binary64.integerPart, h, Except.map]
  | infinite negative => cases h
  | nan => cases h

/-- At least one entry goes to make room. -/
theorem one_le_of_evictedOf {share : Binary64} {count n : Nat} (h : evictedOf share count = .ok n) :
    1 ≤ n := by
  unfold evictedOf at h
  cases hwhole : (Binary64.ofInt count * share).integerPart with
  | error failure =>
    rw [hwhole] at h
    cases h
  | ok whole =>
    rw [hwhole] at h
    obtain rfl : (max 1 whole).toNat = n := Except.ok.inj h
    omega

/-- The integer part of a valid share of entries, as long as every number of entries is a double, is
no more than all of them. -/
theorem exists_truncate?_le {limits : CacheLimits} (h : limits.Valid) {count : Nat}
    (hcount : count < 2 ^ 53) :
    ∃ whole, (Binary64.ofInt count * limits.evictionShare).truncate? = some whole ∧
      whole ≤ count := by
  obtain ⟨a, b, hshare, hb, hab⟩ := Binary64.ratio_of_share h.share h.whole
  -- The size of the cache as a double.
  obtain ⟨c, d, hsize, hd, hcd⟩ :
      ∃ c d, (Binary64.ofInt count).ratio? = some (c, d) ∧ d ≠ 0 ∧ c.natAbs ≤ d * count :=
    Binary64.exists_ofRatio_ratio_le _ one_ne_zero hcount (by omega)
  -- The product of the size and the share.
  have hbound : (c * a).natAbs ≤ d * b * count := by
    rw [Int.natAbs_mul]
    calc c.natAbs * a.natAbs ≤ d * count * b := Nat.mul_le_mul hcd hab
      _ = d * b * count := Nat.mul_right_comm d count b
  obtain ⟨num, den, hproduct, hden, hle⟩ :=
    Binary64.exists_ofRatio_ratio_le
      ((Binary64.ofInt count).isNegative != limits.evictionShare.isNegative)
      (Nat.mul_ne_zero hd hb) hcount hbound
  have hmul : (Binary64.ofInt count * limits.evictionShare).ratio? = some (num, den) := by
    rw [← hproduct]
    change (Binary64.mul _ _).ratio? = _
    rw [Binary64.mul, hsize, hshare]
  refine ⟨Int.tdiv num den, by rw [Binary64.truncate?, hmul]; rfl, ?_⟩
  have hquotient : (Int.tdiv num den).natAbs ≤ count := by
    rw [Int.natAbs_tdiv]
    exact Nat.div_le_of_le_mul hle
  omega

end Intake
