import Intake.Text.Runs

/-!
# Tables of character names

Characters that follow each other mostly have names that start with the same words. So a table tells
names in the order of the code points, each by the number of words that it shares with the name before
it and by the words after those; where code points are left out, it tells the place of the next name.
Main statement: a name that is told in full is found at its place.
-/

namespace Intake

/-- An entry of a table of names. -/
inductive NameEntry where
  /-- The code point of the next name. -/
  | place (code : Nat)
  /-- A name: how many words it shares with the one before, and its own words after them. -/
  | name (shared : Nat) (own : List String)

namespace NameEntry

/-- The words of a name or of a part of one. -/
def wordsOf (s : List Char) : List String :=
  if s.isEmpty then [] else (String.ofList s).splitOn " "

/-- Reads an entry: a place is a number after a sign, the words of a name follow a digit. -/
def read (entry : String) : NameEntry :=
  match entry.toList with
  | '@' :: digits => .place ((readNumbers none digits).headD 0)
  | shared :: own => .name (shared.toNat - 48) (wordsOf own)
  | [] => .name 0 []

end NameEntry

/-- The code point of a name among entries; the first of them is at a code point, after a name. -/
def placeOf? (words : List String) : Nat → List String → List NameEntry → Option Nat
  | _, _, [] => none
  | _, before, .place code :: rest => placeOf? words code before rest
  | code, before, .name shared own :: rest =>
    let name := before.take shared ++ own
    if name = words then some code else placeOf? words (code + 1) name rest

/-- The code point of a name in a table, whose entries end in semicolons or with a row. -/
def codeNamed? (rows : List String) (words : List String) : Option Nat :=
  placeOf? words 0 [] (rows.flatMap fun row => (row.splitOn ";").map NameEntry.read)

/-- A name that is told in full is found at its place. -/
theorem placeOf?_name (words before : List String) (code : Nat) (rest : List NameEntry) :
    placeOf? words code before (.name 0 words :: rest) = some code := by
  simp [placeOf?]

end Intake
