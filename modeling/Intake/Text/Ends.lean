/-!
# Ends of texts

Signs, schemes and names are told by what a text starts with, and blanks are trimmed at both ends of
a text. The characters that count as blank are those that separate words or lines, the four
information separators included. Main statement: a start and what follows it make up the text.
-/

namespace Intake

/-- What follows a start of a text; none if the text starts otherwise. -/
def afterStart? : List Char → List Char → Option (List Char)
  | [], cs => some cs
  | _ :: _, [] => none
  | s :: start, c :: rest => if s = c then afterStart? start rest else none

/-- What follows a start is the text without it. -/
theorem append_of_afterStart? {start cs rest : List Char} (h : afterStart? start cs = some rest) :
    start ++ rest = cs := by
  induction start generalizing cs with
  | nil => simpa [afterStart?] using h.symm
  | cons s start ih =>
    cases cs with
    | nil => simp [afterStart?] at h
    | cons c cs =>
      by_cases same : s = c
      · simp only [afterStart?, if_pos same] at h
        simp [same, ih h]
      · simp [afterStart?, same] at h

/-- A blank character. -/
def isBlank (c : Char) : Bool :=
  let n := c.toNat
  (9 ≤ n && n ≤ 13) || (28 ≤ n && n ≤ 32) || n == 0x85 || n == 0xA0 || n == 0x1680 ||
    (0x2000 ≤ n && n ≤ 0x200A) || n == 0x2028 || n == 0x2029 || n == 0x202F || n == 0x205F ||
    n == 0x3000

/-- A text without the blanks at its start. -/
def trimStart (cs : List Char) : List Char :=
  cs.dropWhile isBlank

/-- A text without the blanks at its two ends. -/
def trimBlanks (cs : List Char) : List Char :=
  (trimStart (trimStart cs).reverse).reverse

/-- A text without the blanks at its two ends. -/
def trimText (s : String) : String :=
  String.ofList (trimBlanks s.toList)

/-- What is left after trimming at the start does not start with a blank. -/
theorem head_trimStart {cs : List Char} {c : Char} {rest : List Char}
    (h : trimStart cs = c :: rest) : isBlank c = false := by
  induction cs with
  | nil => simp [trimStart] at h
  | cons d ds ih =>
    by_cases blank : isBlank d = true
    · exact ih (by simpa [trimStart, List.dropWhile_cons, blank] using h)
    · simp only [trimStart, List.dropWhile_cons, blank] at h
      cases h
      simpa using blank

end Intake
