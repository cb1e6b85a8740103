import Intake.Number.Layout

/-!
# Numbers

A number is an integer of any size or a double. Numbers of the two kinds are compared by their
exact values; `5` and `5.0` are equal and yet different values. What is no number is below, above
and equal to nothing.
-/

namespace Intake

/-- An integer of any size, or a double. -/
inductive Number where
  /-- An integer. -/
  | int (n : Int)
  /-- A double-precision number. -/
  | float (x : Binary64)
  deriving DecidableEq

/-- A place on the extended line: an exact ratio with a positive denominator, or one of the ends. -/
inductive Extended where
  /-- Below every number. -/
  | bottom
  /-- The ratio of an integer and a positive natural number. -/
  | ratio (num : Int) (den : Nat)
  /-- Above every number. -/
  | top

/-- The order of two places, ratios by cross-multiplication. -/
def Extended.order : Extended → Extended → Ordering
  | .bottom, .bottom => .eq
  | .bottom, _ => .lt
  | _, .bottom => .gt
  | .top, .top => .eq
  | .top, _ => .gt
  | _, .top => .lt
  | .ratio a b, .ratio c d => compare (a * d) (c * b)

namespace Binary64

/-- The place of a double on the extended line; none for the value that is no number. -/
def place? (x : Binary64) : Option Extended :=
  match x with
  | .nan => none
  | .infinite negative => some (if negative then .bottom else .top)
  | .finite .. => x.ratio?.map fun (num, den) => .ratio num den

end Binary64

namespace Number

instance : Inhabited Number := ⟨.int 0⟩

/-- The place of a number on the extended line. -/
def place? : Number → Option Extended
  | .int n => some (.ratio n 1)
  | .float x => x.place?

/-- How two numbers compare by exact value; none if one of them is no number. -/
def order? (a b : Number) : Option Ordering :=
  match a.place?, b.place? with
  | some p, some q => some (p.order q)
  | _, _ => none

/-- Equal in exact value. -/
def sameAs (a b : Number) : Bool := a.order? b == some .eq

/-- Less in exact value. -/
def lessThan (a b : Number) : Bool := a.order? b == some .lt

/-- Less or equal in exact value. -/
def atMost (a b : Number) : Bool := a.lessThan b || a.sameAs b

/-- The nearest double; none for an integer beyond the range of doubles. -/
def toBinary64? : Number → Option Binary64
  | .int n => let x := Binary64.ofInt n; if x.isFinite then some x else none
  | .float x => some x

/-- The exact ratio of a finite number. -/
def ratio? : Number → Option (Int × Nat)
  | .int n => some (n, 1)
  | .float x => x.ratio?

/-- An integer, or a double that is finite and whole. -/
def isIntegral : Number → Bool
  | .int _ => true
  | .float x => x.isIntegral

/-- Neither infinite nor no number. -/
def isFinite : Number → Bool
  | .int _ => true
  | .float x => x.isFinite

/-- Zero, of either kind and sign. -/
def isZero : Number → Bool
  | .int n => n == 0
  | .float x => x.isZero

/-- How many decimal places the text of a number needs. -/
def decimalPlaces : Number → Nat
  | .int _ => 0
  | .float x => x.decimalPlaces

/-- The text of a number in a layout. -/
def text (layout : Layout) : Number → List Char
  | .int n => integerText n
  | .float x => x.text layout

end Number

end Intake
