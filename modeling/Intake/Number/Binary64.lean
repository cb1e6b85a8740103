/-!
# Double-precision numbers, exactly

A double-precision number is kept as the sign, significand and exponent of its standard
representation, so that its value is an exact ratio of integers. Every arithmetic operation takes
the exact result and rounds it once, to the nearest representable number, a tie going to the even
significand. Text is covered by `Intake.Number.Shortest` and `Intake.Number.Layout`.
-/

namespace Intake

/-- A significand and exponent that stand for `significand · 2^exponent` in the standard form: 53
bits, the leading one set unless the exponent is the least one. -/
def Binary64.Canonical (significand : Nat) (exponent : Int) : Prop :=
  significand < Nat.pow 2 53 ∧ -1074 ≤ exponent ∧ exponent ≤ 971 ∧
    (Nat.pow 2 52 ≤ significand ∨ exponent = -1074)

instance (significand : Nat) (exponent : Int) :
    Decidable (Binary64.Canonical significand exponent) :=
  inferInstanceAs (Decidable (_ ∧ _))

/-- A double-precision number. -/
inductive Binary64 where
  /-- The number `± significand · 2^exponent`; zero has a sign too. -/
  | finite (negative : Bool) (significand : Nat) (exponent : Int)
      (canonical : Binary64.Canonical significand exponent)
  /-- One of the two infinities. -/
  | infinite (negative : Bool)
  /-- The value that is no number. -/
  | nan
  deriving DecidableEq

/-- The integer nearest to `num / den`, the even one of two equally near. -/
def roundRatio (num den : Nat) : Nat :=
  let quotient := num / den
  let twice := 2 * (num % den)
  if twice < den then quotient
  else if den < twice then quotient + 1
  else if quotient % 2 = 0 then quotient else quotient + 1

/-- The rounded quotient is within half a unit of the exact one. -/
theorem roundRatio_near (num den : Nat) (positive : 0 < den) :
    2 * (roundRatio num den * den) ≤ 2 * num + den ∧
      2 * num ≤ 2 * (roundRatio num den * den) + den := by
  have whole : den * (num / den) + num % den = num := Nat.div_add_mod num den
  have small : num % den < den := Nat.mod_lt _ positive
  have next : (num / den + 1) * den = den * (num / den) + den := by
    rw [Nat.add_mul, Nat.mul_comm, Nat.one_mul]
  have same : num / den * den = den * (num / den) := Nat.mul_comm ..
  dsimp only [roundRatio]
  split
  · omega
  · split
    · omega
    · split <;> omega

namespace Binary64

/-- The zero of either sign. -/
def zero (negative : Bool) : Binary64 :=
  .finite negative 0 (-1074) (by decide)

instance : Inhabited Binary64 := ⟨zero false⟩

/-- The finite number of a standard representation, and infinity beyond the largest one. -/
def ofParts (negative : Bool) (significand : Nat) (exponent : Int) : Binary64 :=
  if canonical : Canonical significand exponent then
    .finite negative significand exponent canonical
  else .infinite negative

/-- `num / den` as a power of two times a ratio: the exponent that leaves a significand of 53 bits,
or the least exponent. -/
def exponentOf (num den : Nat) : Int :=
  let estimate : Int := (num.log2 : Int) - (den.log2 : Int) - 52
  let scaled := fun (e : Int) => (num * Nat.pow 2 (-e).toNat, den * Nat.pow 2 e.toNat)
  let (n, d) := scaled estimate
  max (-1074) (if n < d * Nat.pow 2 52 then estimate - 1 else estimate)

/-- The double nearest to `± num / den`. -/
def ofRatio (negative : Bool) (num den : Nat) : Binary64 :=
  if num = 0 then zero negative
  else
    let e := exponentOf num den
    let m := roundRatio (num * Nat.pow 2 (-e).toNat) (den * Nat.pow 2 e.toNat)
    if m = Nat.pow 2 53 then ofParts negative (Nat.pow 2 52) (e + 1) else ofParts negative m e

/-- The double nearest to a quotient of integers. -/
def ofQuotient (num : Int) (den : Nat) : Binary64 :=
  ofRatio (decide (num < 0)) num.natAbs den

/-- The double nearest to an integer, infinite when the integer is too large for the format. -/
def ofInt (n : Int) : Binary64 := ofQuotient n 1

/-- The double nearest to `± digits · 10^exponent`. A power of ten so large or so small that it
settles the answer is not computed. -/
def ofDecimal (negative : Bool) (digits : Nat) (exponent : Int) : Binary64 :=
  let size : Int := (digits.log2 : Int) / 3 + 1 + exponent
  if digits = 0 then zero negative
  else if 400 < exponent then .infinite negative
  else if size < -400 then zero negative
  else ofRatio negative (digits * Nat.pow 10 exponent.toNat) (Nat.pow 10 (-exponent).toNat)

/-- The exact value of a finite number, as a numerator and a positive denominator. -/
def ratio? : Binary64 → Option (Int × Nat)
  | .finite negative m e _ =>
    let num : Int := (m * Nat.pow 2 e.toNat : Nat)
    some (if negative then -num else num, Nat.pow 2 (-e).toNat)
  | .infinite _ => none
  | .nan => none

/-- The sign, which zeros and infinities have too. -/
def isNegative : Binary64 → Bool
  | .finite negative _ _ _ => negative
  | .infinite negative => negative
  | .nan => false

/-- Neither infinite nor no number. -/
def isFinite : Binary64 → Bool
  | .finite .. => true
  | _ => false

/-- Whether the number is zero, of either sign. -/
def isZero : Binary64 → Bool
  | .finite _ m _ _ => m == 0
  | _ => false

/-- The number with the other sign. -/
def neg : Binary64 → Binary64
  | .finite negative m e canonical => .finite (!negative) m e canonical
  | .infinite negative => .infinite (!negative)
  | .nan => .nan

/-- The sum, rounded once. A sum of zeros is negative only if both are. -/
def add (x y : Binary64) : Binary64 :=
  match x.ratio?, y.ratio? with
  | some (a, b), some (c, d) =>
    let num := a * d + c * b
    if num = 0 then zero (x.isNegative && y.isNegative) else ofQuotient num (b * d)
  | some _, none => y
  | none, some _ => x
  | none, none => if x = y then x else .nan

/-- The difference, rounded once. -/
def sub (x y : Binary64) : Binary64 := x.add y.neg

/-- The product, rounded once. -/
def mul (x y : Binary64) : Binary64 :=
  let negative := x.isNegative != y.isNegative
  match x.ratio?, y.ratio? with
  | some (a, b), some (c, d) => ofRatio negative (a * c).natAbs (b * d)
  | _, _ =>
    if x = .nan || y = .nan || x.isZero || y.isZero then .nan else .infinite negative

/-- The quotient, rounded once. -/
def div (x y : Binary64) : Binary64 :=
  let negative := x.isNegative != y.isNegative
  match x.ratio?, y.ratio? with
  | some (a, b), some (c, d) =>
    if c = 0 then (if a = 0 then .nan else .infinite negative)
    else ofRatio negative (a.natAbs * d) (b * c.natAbs)
  | some _, none => if y = .nan then .nan else zero negative
  | none, some _ => if x = .nan then .nan else .infinite negative
  | none, none => .nan

instance : Add Binary64 := ⟨add⟩
instance : Sub Binary64 := ⟨sub⟩
instance : Mul Binary64 := ⟨mul⟩
instance : Div Binary64 := ⟨div⟩
instance : Neg Binary64 := ⟨neg⟩

/-- The number rounded toward zero, for a finite number. -/
def truncate? (x : Binary64) : Option Int :=
  x.ratio?.map fun (num, den) => Int.tdiv num den

/-- The greatest integer below a finite number, the number itself included. -/
def floor? (x : Binary64) : Option Int :=
  x.ratio?.map fun (num, den) => Int.fdiv num den

/-- The least integer above a finite number, the number itself included. -/
def ceil? (x : Binary64) : Option Int :=
  x.ratio?.map fun (num, den) => -(Int.fdiv (-num) den)

/-- Whether the number is finite and whole. -/
def isIntegral (x : Binary64) : Bool :=
  match x.ratio? with
  | some (num, den) => num % den == 0
  | none => false

end Binary64

end Intake
