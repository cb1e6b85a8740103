import Intake.Number.Shortest

/-!
# How numbers are written

Integers are written in decimal. A finite double is written with its shortest digits: positionally
while its leading digit stands between the fourth place after the point and the sixteenth before
it, otherwise with a signed exponent of at least two digits. The words for the other values belong
to the layout.
-/

namespace Intake

/-- The decimal digits of a natural number put in front of a list. -/
def digitsOnto (n : Nat) (rest : List Nat) : List Nat :=
  if n < 10 then n :: rest else digitsOnto (n / 10) (n % 10 :: rest)
termination_by n
decreasing_by omega

/-- The decimal digit of a number below ten. -/
def digitCharacter (d : Nat) : Char := Char.ofNat (48 + d)

/-- A natural number in decimal. -/
def naturalText (n : Nat) : List Char :=
  (digitsOnto n []).map digitCharacter

/-- An integer in decimal. -/
def integerText (n : Int) : List Char :=
  if n < 0 then '-' :: naturalText n.natAbs else naturalText n.natAbs

/-- The digits put in front of a list come before all of it. -/
theorem digitsOnto_append (n : Nat) (rest : List Nat) :
    digitsOnto n rest = digitsOnto n [] ++ rest := by
  induction n using Nat.strongRecOn generalizing rest with
  | ind n ih =>
    rw [digitsOnto, digitsOnto.eq_1 n []]
    by_cases small : n < 10
    · simp [small]
    · simp only [if_neg small]
      rw [ih (n / 10) (by omega) (n % 10 :: rest), ih (n / 10) (by omega) [n % 10]]
      simp

/-- The words of a format for the doubles that have no digits. -/
structure Layout where
  /-- The word for the value that is no number. -/
  nan : String
  /-- The word for infinity, a sign apart. -/
  infinity : String

namespace Decimal

/-- The positional or exponent form of a decimal. -/
def layOut (d : Decimal) : List Char :=
  let digits := naturalText d.digits
  let lead : Int := d.exponent + digits.length - 1
  if -4 ≤ lead ∧ lead < 16 then
    if 0 ≤ d.exponent then
      digits ++ List.replicate d.exponent.toNat '0' ++ ['.', '0']
    else if 0 ≤ lead then
      digits.take (lead.toNat + 1) ++ '.' :: digits.drop (lead.toNat + 1)
    else
      '0' :: '.' :: List.replicate (-lead - 1).toNat '0' ++ digits
  else
    let fraction := if digits.length = 1 then [] else '.' :: digits.drop 1
    let size := naturalText lead.natAbs
    let power := if size.length < 2 then '0' :: size else size
    digits.take 1 ++ fraction ++ 'e' :: (if lead < 0 then '-' else '+') :: power

end Decimal

/-- The text of a double in a layout. -/
def Binary64.text (layout : Layout) (x : Binary64) : List Char :=
  let sign := if x.isNegative then ['-'] else []
  match x.shortest? with
  | some d => sign ++ d.layOut
  | none => if x = .nan then layout.nan.toList else sign ++ layout.infinity.toList

end Intake
