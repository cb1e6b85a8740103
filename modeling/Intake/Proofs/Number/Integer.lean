import Intake.Proofs.Number.Rounding
import Intake.Proofs.Number.Text

/-!
# Integers as doubles

A double holds an integer if it is that integer exactly. The integers that some double holds are those
of at most 53 bits before the zeros at their end, up to the range of the format; such an integer is
rounded to itself. Main statements: the double nearest to an integer is the integer if and only if
some double holds it, and the decimal text of an integer is read as the double nearest to it. How far
the nearest double is from other integers is not covered.
-/

namespace Intake

namespace Binary64

/-- A double is an integer exactly. -/
def IsInt (x : Binary64) (n : Int) : Prop :=
  ∃ num den, x.ratio? = some (num, den) ∧ den ≠ 0 ∧ num = n * den

/-- Some double holds an integer: its digits in base two are 53 at most and then zeros. -/
def HoldsInt (n : Int) : Prop :=
  ∃ m k : Nat, m < 2 ^ 53 ∧ k ≤ 971 ∧ n.natAbs = m * 2 ^ k

/-- A double is whole with an integer as its whole part if it is that integer. -/
theorem isIntegral_and_truncate_iff (x : Binary64) (n : Int) :
    x.isIntegral = true ∧ x.truncate? = some n ↔ x.IsInt n := by
  unfold isIntegral truncate? IsInt
  cases x with
  | infinite negative => simp [ratio?]
  | nan => simp [ratio?]
  | finite negative m e canonical =>
    obtain ⟨num, den, hratio, hden⟩ :
        ∃ num den, (finite negative m e canonical).ratio? = some (num, den) ∧ den ≠ 0 :=
      ⟨_, _, rfl, (Nat.pow_pos (by decide)).ne'⟩
    have hpos : (den : Int) ≠ 0 := Int.natCast_ne_zero.mpr hden
    simp only [hratio, Option.map_some, Option.some.injEq, beq_iff_eq, Prod.mk.injEq]
    constructor
    · rintro ⟨hwhole, hpart⟩
      have hdiv : (den : Int) ∣ num := Int.dvd_of_emod_eq_zero hwhole
      have hexact : Int.tdiv num den * den = num := Int.tdiv_mul_cancel hdiv
      exact ⟨num, den, ⟨rfl, rfl⟩, hden, by rw [← hpart, hexact]⟩
    · rintro ⟨num', den', ⟨rfl, rfl⟩, -, hexact⟩
      have hwhole : num % den = 0 := by rw [hexact, Int.mul_emod_left]
      have hpart : Int.tdiv num den = n := by rw [hexact, Int.mul_tdiv_cancel n hpos]
      exact ⟨hwhole, hpart⟩

/-- What a double is exactly, some double holds. -/
theorem IsInt.holdsInt {x : Binary64} {n : Int} (h : x.IsInt n) : HoldsInt n := by
  obtain ⟨num, den, hratio, -, hexact⟩ := h
  cases x with
  | infinite negative => cases hratio
  | nan => cases hratio
  | finite negative m e canonical =>
    cases hratio
    obtain ⟨hm, -, he, -⟩ := canonical
    have hsize : m * 2 ^ e.toNat = n.natAbs * 2 ^ (-e).toNat := by
      have habs := congrArg Int.natAbs hexact
      rw [Int.natAbs_mul, Int.natAbs_natCast] at habs
      refine Eq.trans ?_ habs
      cases negative with
      | false => exact (Int.natAbs_natCast _).symm
      | true => exact ((Int.natAbs_neg _).trans (Int.natAbs_natCast _)).symm
    rcases le_total 0 e with hsign | hsign
    · have hzero : (-e).toNat = 0 := by omega
      rw [hzero, pow_zero, mul_one] at hsize
      exact ⟨m, e.toNat, hm, by omega, hsize.symm⟩
    · have hzero : e.toNat = 0 := by omega
      rw [hzero, pow_zero, mul_one] at hsize
      have hle : n.natAbs ≤ m := by
        rw [hsize]
        exact Nat.le_mul_of_pos_right _ (Nat.pow_pos (by decide))
      have hlt : n.natAbs < 2 ^ 53 := lt_of_le_of_lt hle hm
      exact ⟨n.natAbs, 0, hlt, by decide, by rw [pow_zero, mul_one]⟩

/-- A quotient without a remainder is not rounded. -/
theorem roundRatio_mul (k : Nat) {den : Nat} (hd : 0 < den) : roundRatio (den * k) den = k :=
  le_antisymm (roundRatio_le hd le_rfl) (le_roundRatio hd le_rfl)

/-- A natural number of 53 bits and zeros is a multiple of the unit of its significand. -/
theorem exists_scaled_eq {num m k : Nat} (hn : num ≠ 0) (hm : m < 2 ^ 53) (h : num = m * 2 ^ k) :
    exponentOf num 1 ≤ k ∧ ∃ s, num * Nat.pow 2 (-exponentOf num 1).toNat =
      1 * Nat.pow 2 (exponentOf num 1).toNat * s := by
  have hbits : num < 1 * 2 ^ (53 + k) := by
    rw [h, one_mul, pow_add]
    exact Nat.mul_lt_mul_of_pos_right hm (Nat.pow_pos (by decide))
  have hexponent := exponentOf_lt hn one_ne_zero hbits
  have hle : exponentOf num 1 ≤ k := by omega
  refine ⟨hle, ?_⟩
  rcases le_total 0 (exponentOf num 1) with hsign | hsign
  · obtain ⟨i, hi⟩ := Int.eq_ofNat_of_zero_le hsign
    have hik : i ≤ k := by omega
    have hsplit : 2 ^ k = 2 ^ i * 2 ^ (k - i) := by rw [← pow_add, Nat.add_sub_cancel' hik]
    have hzero : (-(i : Int)).toNat = 0 := by omega
    refine ⟨m * 2 ^ (k - i), ?_⟩
    simp only [hi, hzero, Int.toNat_natCast, Nat.pow_eq, pow_zero, mul_one, one_mul]
    rw [h, hsplit]
    ring
  · have hzero : (exponentOf num 1).toNat = 0 := by omega
    exact ⟨num * Nat.pow 2 (-exponentOf num 1).toNat, by rw [hzero]; simp⟩

/-- A natural number of 53 bits and zeros is rounded to itself. -/
theorem ofRatio_one_exact (negative : Bool) {num m k : Nat} (hm : m < 2 ^ 53) (hk : k ≤ 971)
    (h : num = m * 2 ^ k) :
    ∃ s e canonical, ofRatio negative num 1 = .finite negative s e canonical ∧
      s * 2 ^ e.toNat = num * 2 ^ (-e).toNat := by
  by_cases hn : num = 0
  · refine ⟨0, -1074, by decide, by rw [ofRatio, if_pos hn]; rfl, ?_⟩
    rw [hn, zero_mul, zero_mul]
  obtain ⟨hle, s, hs⟩ := exists_scaled_eq hn hm h
  have hden : 0 < 1 * Nat.pow 2 (exponentOf num 1).toNat := scaled_den_pos one_ne_zero _
  have hsignificand : significandOf num 1 = s := by
    rw [significandOf, hs, roundRatio_mul s hden]
  have hspec := exponentOf_spec hn one_ne_zero
  have hsmall : s < 2 ^ 53 := by
    have hscaled := (scaled_lt_iff num one_ne_zero _ 53).mpr hspec.2.1
    rw [hs] at hscaled
    exact Nat.lt_of_mul_lt_mul_left hscaled
  have hbits := (significandOf_spec hn one_ne_zero).2
  rw [hsignificand] at hbits
  have hcanonical : Canonical s (exponentOf num 1) := ⟨hsmall, hspec.1, by omega, hbits⟩
  refine ⟨s, exponentOf num 1, hcanonical, ?_, ?_⟩
  · have hkept : s ≠ Nat.pow 2 53 := ne_of_lt hsmall
    rw [ofRatio_eq negative 1 hn, hsignificand, if_neg hkept]
    exact dif_pos hcanonical
  · rw [one_mul, mul_comm _ s] at hs
    exact hs.symm

/-- The double nearest to an integer is the integer if and only if some double holds it. -/
theorem isInt_ofInt_iff (n : Int) : (ofInt n).IsInt n ↔ HoldsInt n := by
  refine ⟨IsInt.holdsInt, ?_⟩
  rintro ⟨m, k, hm, hk, hsize⟩
  obtain ⟨s, e, canonical, hround, hexact⟩ := ofRatio_one_exact (decide (n < 0)) hm hk hsize
  have hden : 2 ^ (-e).toNat ≠ 0 := (Nat.pow_pos (by decide)).ne'
  have hcast : ((s * 2 ^ e.toNat : Nat) : Int) = (n.natAbs : Int) * (2 ^ (-e).toNat : Nat) := by
    rw [hexact, Nat.cast_mul]
  refine ⟨_, _, by rw [ofInt, ofQuotient, hround]; rfl, hden, ?_⟩
  simp only [Nat.pow_eq, decide_eq_true_eq]
  rw [hcast]
  split
  · next hneg => rw [Int.ofNat_natAbs_of_nonpos hneg.le, Int.neg_mul, Int.neg_neg]
  · next hneg => rw [Int.natAbs_of_nonneg (Int.not_lt.mp hneg)]

/-- Digits without a point and an exponent stand for the double nearest to their number. -/
theorem ofDecimal_zero_exponent (negative : Bool) (n : Nat) :
    ofDecimal negative n 0 = ofRatio negative n 1 := by
  have hsize : ¬ ((n.log2 : Int) / 3 + 1 + 0 < -400) := by omega
  unfold ofDecimal
  dsimp only
  by_cases hn : n = 0
  · rw [if_pos hn, hn]
    rfl
  · rw [if_neg hn, if_neg (by decide), if_neg hsize]
    change ofRatio negative (n * 1) 1 = ofRatio negative n 1
    rw [Nat.mul_one]

end Binary64

/-- What holds of the minus sign and of the ten digits holds of the text of an integer. -/
theorem forall_mem_integerText {P : Char → Prop} (hminus : P '-')
    (hdigit : ∀ d < 10, P (digitCharacter d)) (n : Int) : ∀ c ∈ integerText n, P c := by
  have hdigits : ∀ c ∈ naturalText n.natAbs, P c := by
    intro c hc
    obtain ⟨d, hd, rfl⟩ := List.mem_map.mp hc
    exact hdigit d (lt_ten_of_mem_digitsOnto n.natAbs d hd)
  unfold integerText
  split
  · exact List.forall_mem_cons.mpr ⟨hminus, hdigits⟩
  · exact hdigits

/-- The text of an integer has ASCII digits only. -/
theorem toAsciiDigits_integerText (n : Int) : toAsciiDigits (integerText n) = integerText n := by
  have hsame := forall_mem_integerText (P := fun c => toAsciiDigits [c] = [c])
    (by decide) (by decide) n
  have hmap := List.map_congr_left fun c hc => List.singleton_inj.mp (hsame c hc)
  exact hmap.trans (List.map_id' _)

/-- The text of an integer has no blanks to trim. -/
theorem trimAsciiBlanks_integerText (n : Int) : trimAsciiBlanks (integerText n) = integerText n := by
  have hblank := forall_mem_integerText (P := fun c => isAsciiBlank c = false) (by decide) (by decide) n
  have hdrop (cs : List Char) (h : ∀ c ∈ cs, isAsciiBlank c = false) :
      cs.dropWhile isAsciiBlank = cs := by
    cases cs with
    | nil => rfl
    | cons c rest => exact List.dropWhile_cons_of_neg (by simp [h c List.mem_cons_self])
  have hreverse : ∀ c ∈ (integerText n).reverse, isAsciiBlank c = false :=
    fun c hc => hblank c (List.mem_reverse.mp hc)
  rw [trimAsciiBlanks, hdrop _ hblank, hdrop _ hreverse, List.reverse_reverse]

/-- A text without underscores has none to drop. -/
theorem dropUnderscores?_of_forall {cs : List Char} (h : ∀ c ∈ cs, c ≠ '_') (afterDigit : Bool) :
    dropUnderscores? afterDigit cs = some cs := by
  induction cs generalizing afterDigit with
  | nil => rfl
  | cons c rest ih =>
    have hc : c ≠ '_' := h c List.mem_cons_self
    have hrest := ih (fun other hm => h other (List.mem_cons_of_mem _ hm)) c.isDigit
    rw [dropUnderscores?, hrest]
    · rfl
    · exact fun heq => hc heq

/-- The digits of a natural number are read as the double nearest to it. -/
theorem readUnsigned?_naturalText (n : Nat) :
    readUnsigned? (naturalText n) = some ⟨digitsOnto n [], 0⟩ := by
  have hspan := spanDigits_naturalText n
  have hne := digitsOnto_ne_nil n
  simp [readUnsigned?, hspan, hne, readExponent?]

/-- The digits of a natural number are none of the words for infinity and for no number. -/
theorem lower_naturalText_ne (word : String) {c : Char} (hc : c ∈ word.toList)
    (hword : ∀ d < 10, (digitCharacter d).toLower ≠ c) (n : Nat) :
    String.ofList ((naturalText n).map Char.toLower) ≠ word := by
  intro heq
  rw [← heq, String.toList_ofList] at hc
  obtain ⟨digit, hm, hlower⟩ := List.mem_map.mp hc
  obtain ⟨d, hd, rfl⟩ := List.mem_map.mp hm
  exact hword d (lt_ten_of_mem_digitsOnto n d hd) hlower

/-- A sign and the digits of a natural number are read as a double. -/
theorem readDouble?_of_spanSign {negative : Bool} {cs : List Char} {n : Nat}
    (hsign : spanSign cs = (negative, naturalText n)) :
    readDouble? cs = some (Binary64.ofRatio negative n 1) := by
  have hinf := lower_naturalText_ne "inf" (c := 'i') (by decide) (by decide) n
  have hinfinity := lower_naturalText_ne "infinity" (c := 'i') (by decide) (by decide) n
  have hnan := lower_naturalText_ne "nan" (c := 'n') (by decide) (by decide) n
  unfold readDouble?
  rw [hsign]
  dsimp only
  rw [if_neg (not_or.mpr ⟨hinf, hinfinity⟩), if_neg hnan, readUnsigned?_naturalText, Option.map_some,
    DecimalLiteral.toBinary64, ofDigits_digitsOnto, Binary64.ofDecimal_zero_exponent]

/-- The sign of an integer stands before the digits of its size. -/
theorem spanSign_integerText (n : Int) :
    spanSign (integerText n) = (decide (n < 0), naturalText n.natAbs) := by
  unfold integerText
  split
  · next hneg =>
    rw [decide_eq_true hneg]
    rfl
  · next hneg =>
    obtain ⟨c, rest, hc, hdigit⟩ := exists_naturalText_eq_cons n.natAbs
    have hminus : c ≠ '-' := by
      rintro rfl
      cases hdigit
    have hplus : c ≠ '+' := by
      rintro rfl
      cases hdigit
    rw [decide_eq_false hneg, hc]
    unfold spanSign
    split
    · next heq => exact absurd (List.cons.inj heq).1 hminus
    · next heq => exact absurd (List.cons.inj heq).1 hplus
    · rfl

/-- The decimal text of an integer is read as the double nearest to the integer. -/
theorem readLooseDouble?_integerText (n : Int) :
    readLooseDouble? (String.ofList (integerText n)) = some (Binary64.ofInt n) := by
  have hplain := forall_mem_integerText (P := fun c => c ≠ '_') (by decide) (by decide) n
  have hread := readDouble?_of_spanSign (spanSign_integerText n)
  rw [readLooseDouble?, String.toList_ofList, toAsciiDigits_integerText, trimAsciiBlanks_integerText,
    dropUnderscores?_of_forall hplain, Option.bind_some, hread]
  rfl

end Intake
