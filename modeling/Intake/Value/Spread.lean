import Intake.Text.Ends
import Intake.Value.Display

/-!
# Values spread over lines

A value that is too long for a line is spread over several: the items of a list and the entries of a
record get lines of their own, one column further in, and a long text is cut before words. Main
statement: a value that fits into its line is shown on it in full.
-/

namespace Intake

/-- How many columns a line has. -/
def lineWidth : Nat := 72

/-- Spaces. -/
def spaces (count : Nat) : List Char := List.replicate count ' '

/-- A character that ends a line of a text. -/
def endsLine (c : Char) : Bool :=
  let n := c.toNat
  (10 ≤ n && n ≤ 13) || (28 ≤ n && n ≤ 30) || n == 0x85 || n == 0x2028 || n == 0x2029

/-- A character put before the first of several stretches. -/
def consFirst (c : Char) : List (List Char) → List (List Char)
  | [] => [[c]]
  | first :: rest => (c :: first) :: rest

/-- The lines of a text, each with its end. -/
def splitLines : List Char → List (List Char)
  | [] => []
  | '\r' :: '\n' :: rest => ['\r', '\n'] :: splitLines rest
  | c :: rest => if endsLine c then [c] :: splitLines rest else consFirst c (splitLines rest)

/-- The words of a text, each with the blanks after it. -/
def splitWords : List Char → List (List Char)
  | [] => []
  | [c] => [[c]]
  | c :: d :: rest =>
    if isBlank c && !isBlank d then [c] :: splitWords (d :: rest)
    else consFirst c (splitWords (d :: rest))

/-- The columns that a text takes in quotes. -/
def quotedWidth (cs : List Char) : Nat := (quoteText (String.ofList cs)).length

/-- Words put together as long as they fit into a width, of which the last word has to leave some
room. -/
def fillLines (width room : Int) (current : List Char) : List (List Char) → List (List Char)
  | [] => if current.isEmpty then [] else [current]
  | word :: rest =>
    let width := if rest.isEmpty then width - room else width
    if width < quotedWidth (current ++ word) then
      (if current.isEmpty then [] else [current]) ++ fillLines width room word rest
    else fillLines width room (current ++ word) rest

/-- The stretches into which lines are cut for a width, of which the last line has to leave some
room. -/
def cutLines (width room : Int) : List (List Char) → List (List Char)
  | [] => []
  | line :: rest =>
    let left := if rest.isEmpty then room else 0
    (if (quotedWidth line : Int) ≤ width - left then [line]
      else fillLines width left [] (splitWords line)) ++ cutLines width room rest

/-- Stretches of a text, each in quotes on a line of its own. -/
def stackQuoted (indent : Nat) (stretches : List (List Char)) : List Char :=
  joinTexts ('\n' :: spaces indent) (stretches.map fun s => (quoteText (String.ofList s)).toList)

/-- A long text, cut; one that does not stand inside a list or a record gets brackets. -/
def spreadText (outermost : Bool) (indent room : Nat) (s : String) : List Char :=
  let extra := if outermost then 1 else 0
  let width : Int := lineWidth - (indent + extra : Nat)
  match cutLines width (room + extra : Nat) (splitLines s.toList) with
  | [] | [_] => (quoteText s).toList
  | stretches =>
    let stacked := stackQuoted (indent + extra) stretches
    if outermost then '(' :: stacked ++ [')'] else stacked

namespace Value

mutual

/-- A value that starts at a column and has to leave some room after it on its last line. -/
def spreadAt (outermost : Bool) (indent room : Nat) (v : Value) : List Char :=
  if v.inFull.length + indent + room ≤ lineWidth then v.inFull
  else
    match v with
    | .text s => spreadText outermost indent room s
    | .list items => '[' :: spreadItems (indent + 1) (room + 1) items ++ [']']
    | .record entries => '\x7b' :: spreadEntries (indent + 1) (room + 1) entries ++ ['\x7d']
    | v => v.inFull

/-- The items of a list on lines of their own. -/
def spreadItems (indent room : Nat) (items : List Value) : List Char :=
  match items with
  | [] => []
  | [item] => spreadAt false indent room item
  | item :: rest =>
    spreadAt false indent 1 item ++ ',' :: '\n' :: spaces indent ++ spreadItems indent room rest

/-- The entries of a record on lines of their own. -/
def spreadEntries (indent room : Nat) (entries : List (String × Value)) : List Char :=
  match entries with
  | [] => []
  | [(key, value)] =>
    let name := (quoteText key).toList
    name ++ ':' :: ' ' :: spreadAt false (indent + name.length + 2) room value
  | (key, value) :: rest =>
    let name := (quoteText key).toList
    name ++ ':' :: ' ' :: spreadAt false (indent + name.length + 2) 1 value ++
      ',' :: '\n' :: spaces indent ++ spreadEntries indent room rest

end

/-- A value spread over lines. -/
def spread (v : Value) : List Char := spreadAt true 0 0 v

/-- A value that fits into its line is shown on it in full. -/
theorem spread_of_fits {v : Value} (fits : v.inFull.length ≤ lineWidth) : v.spread = v.inFull := by
  cases v <;> simp [spread, spreadAt, fits]

end Value

end Intake
