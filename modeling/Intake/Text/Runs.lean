/-!
# Sets of characters by run lengths

A character property is a set of code points. It is stored as the lengths of the alternating runs
outside and inside the set, from code point zero; what follows the last run is outside. Long tables
are written as lines of decimal numbers.
-/

namespace Intake

/-- The lengths of the alternating runs outside and inside a set of code points. -/
structure Runs where
  /-- The first length is that of a run outside the set. -/
  lengths : List Nat

namespace Runs

/-- Whether the position `offset` of the remaining runs lies inside, the first of them being inside
or not as `inside` says. -/
def containsFrom (inside : Bool) : List Nat → Nat → Bool
  | [], _ => false
  | length :: rest, offset =>
    if offset < length then inside else containsFrom (!inside) rest (offset - length)

/-- Whether a code point is in the set. -/
def contains (runs : Runs) (code : Nat) : Bool :=
  containsFrom false runs.lengths code

/-- A character within the first run is outside the set. -/
theorem contains_eq_false_of_lt {length : Nat} {rest : List Nat} {code : Nat}
    (h : code < length) : (Runs.mk (length :: rest)).contains code = false := by
  simp only [contains, containsFrom, if_pos h]

end Runs

/-- The decimal numbers in a text, separated by anything that is no digit; `current` is the number
being read. -/
def readNumbers : Option Nat → List Char → List Nat
  | current, [] => current.toList
  | current, c :: rest =>
    if c.isDigit then readNumbers (some (current.getD 0 * 10 + (c.toNat - 48))) rest
    else current.toList ++ readNumbers none rest

/-- All numbers of a table written in lines. -/
def readTable (rows : List String) : List Nat :=
  rows.flatMap fun row => readNumbers none row.toList

/-- The numbers of a table whose entries end in a semicolon, entry by entry. -/
def readEntries (rows : List String) : List (List Nat) :=
  rows.flatMap fun row =>
    ((row.splitOn ";").map fun entry => readNumbers none entry.toList).filter (!·.isEmpty)

end Intake
