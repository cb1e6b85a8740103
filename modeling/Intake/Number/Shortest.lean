import Intake.Number.Binary64

/-!
# The fewest digits that identify a double

The reals that round to a given double form an interval: it reaches halfway to each neighbour, ends
included exactly when the significand is even. The selected decimal is the one with the fewest
digits in that interval; of two with equally few, the nearer one, and of two equally near the one
with the even last digit.
-/

namespace Intake

/-- The decimal number `digits · 10^exponent`. -/
structure Decimal where
  /-- The digits, read as one natural number. -/
  digits : Nat
  /-- The power of ten of the last digit. -/
  exponent : Int
  deriving DecidableEq

namespace Decimal

/-- Compare `a · 10^i` with `n · 2^j`, exactly. -/
def compareScaled (a : Nat) (i : Int) (n : Nat) (j : Int) : Ordering :=
  compare (a * Nat.pow 10 i.toNat * Nat.pow 2 (-j).toNat)
    (n * Nat.pow 2 j.toNat * Nat.pow 10 (-i).toNat)

/-- The decimal lies among the reals that round to `m · 2^e`. The gap below a power of two is half
the gap above it, except at the least exponent. -/
def readsBackTo (d : Decimal) (m : Nat) (e : Int) : Bool :=
  let low := if m = Nat.pow 2 52 ∧ -1074 < e then 4 * m - 1 else 4 * m - 2
  let high := 4 * m + 2
  let even := m % 2 == 0
  let below := compareScaled d.digits d.exponent low (e - 2)
  let above := compareScaled d.digits d.exponent high (e - 2)
  (below == .gt || (even && below == .eq)) && (above == .lt || (even && above == .eq))

/-- The least `k` with `m · 2^e < 10^k`, found from an estimate by the binary logarithm. -/
def scaleOf (m : Nat) (e : Int) : Int :=
  let estimate : Int := Int.fdiv (((m.log2 : Int) + e) * 30103) 100000
  if compareScaled 1 estimate m e == .gt then estimate
  else if compareScaled 1 (estimate + 1) m e == .gt then estimate + 1
  else estimate + 2

/-- The better of the two neighbours of `m · 2^e` on the grid of multiples of `10^unit`, if one of
them reads back. -/
def candidate? (m : Nat) (e unit : Int) : Option Decimal :=
  let num := m * Nat.pow 2 e.toNat * Nat.pow 10 (-unit).toNat
  let den := Nat.pow 2 (-e).toNat * Nat.pow 10 unit.toNat
  let down : Decimal := ⟨num / den, unit⟩
  let up : Decimal := ⟨num / den + 1, unit⟩
  match down.readsBackTo m e, up.readsBackTo m e with
  | true, true => some ⟨roundRatio num den, unit⟩
  | true, false => some down
  | false, true => some up
  | false, false => none

/-- Trailing zeros moved into the exponent, at most as many as the fuel. -/
def stripZeros : Nat → Decimal → Decimal
  | 0, d => d
  | fuel + 1, d =>
    if d.digits ≠ 0 ∧ d.digits % 10 = 0 then stripZeros fuel ⟨d.digits / 10, d.exponent + 1⟩ else d

/-- The decimal of the fewest digits that reads back to `m · 2^e`, for a positive `m`. Seventeen
digits always suffice; the exact value stands in for the case that they did not. -/
def shortest (m : Nat) (e : Int) : Decimal :=
  let scale := scaleOf m e
  let found := (List.range 17).findSome? fun n => candidate? m e (scale - (n + 1 : Nat))
  let exact : Decimal := ⟨m * Nat.pow 2 e.toNat * Nat.pow 5 (-e).toNat, min e 0⟩
  let chosen := found.getD exact
  stripZeros (chosen.digits.log2 + 1) chosen

end Decimal

namespace Binary64

/-- The decimal of the fewest digits that reads back to the magnitude of a finite number. -/
def shortest? : Binary64 → Option Decimal
  | .finite _ m e _ => some (if m = 0 then ⟨0, 0⟩ else Decimal.shortest m e)
  | _ => none

/-- How many decimal places the shortest decimal of a number has. -/
def decimalPlaces (x : Binary64) : Nat :=
  if x.isIntegral then 0
  else
    match x.shortest? with
    | some d => (-d.exponent).toNat
    | none => 0

end Binary64

end Intake
