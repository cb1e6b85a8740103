import Intake.Number.Binary64
import Intake.Number.Layout
import Intake.Text.Ends
import Intake.Text.Casing
import Intake.Text.Digit

/-!
# Reading numbers

A decimal literal is a sign, digits with at most one point among them, and an exponent. The readers
here differ in what they accept around it: blanks, digits of other scripts, underscores between
digits, and the words for infinity and for no number.
-/

namespace Intake

/-- Split off the digits at the start of a text. -/
def spanDigits (cs : List Char) : List Nat × List Char :=
  match cs with
  | [] => ([], [])
  | c :: rest =>
    match asciiDigit? c with
    | some d => let (digits, tail) := spanDigits rest; (d :: digits, tail)
    | none => ([], c :: rest)

/-- Split off a sign; true for a minus. -/
def spanSign : List Char → Bool × List Char
  | '-' :: rest => (true, rest)
  | '+' :: rest => (false, rest)
  | cs => (false, cs)

/-- A decimal literal without its sign: the number `digits · 10^exponent`. -/
structure DecimalLiteral where
  /-- The digits before and after the point. -/
  digits : List Nat
  /-- The exponent of the last digit. -/
  exponent : Int

/-- The exponent part of a literal, which must be the whole of the text; nothing counts as zero. -/
def readExponent? : List Char → Option Int
  | [] => some 0
  | c :: rest =>
    if c = 'e' ∨ c = 'E' then
      let (negative, afterSign) := spanSign rest
      match spanDigits afterSign with
      | ([], _) => none
      | (digits, []) =>
        let size : Int := ofDigits digits
        some (if negative then -size else size)
      | _ => none
    else none

/-- A decimal literal of ASCII digits without a sign, at least one digit before the exponent. -/
def readUnsigned? (cs : List Char) : Option DecimalLiteral :=
  let (whole, afterWhole) := spanDigits cs
  let (fraction, tail) := match afterWhole with
    | '.' :: rest => spanDigits rest
    | other => ([], other)
  if whole.isEmpty && fraction.isEmpty then none
  else (readExponent? tail).map fun e => ⟨whole ++ fraction, e - fraction.length⟩

/-- The double nearest to a literal. -/
def DecimalLiteral.toBinary64 (negative : Bool) (literal : DecimalLiteral) : Binary64 :=
  Binary64.ofDecimal negative (ofDigits literal.digits) literal.exponent

/-- The double that a signed literal or one of the words `inf`, `infinity` and `nan` stands for, in
letters of either case. -/
def readDouble? (cs : List Char) : Option Binary64 :=
  let (negative, rest) := spanSign cs
  let word := String.ofList (rest.map Char.toLower)
  if word = "inf" ∨ word = "infinity" then some (.infinite negative)
  else if word = "nan" then some .nan
  else (readUnsigned? rest).map (·.toBinary64 negative)

/-- A text without the underscores that stand between two digits; none if another one is there. -/
def dropUnderscores? (afterDigit : Bool) : List Char → Option (List Char)
  | [] => some []
  | '_' :: rest =>
    match rest with
    | c :: _ => if afterDigit ∧ c.isDigit then dropUnderscores? false rest else none
    | [] => none
  | c :: rest => (dropUnderscores? c.isDigit rest).map (c :: ·)

/-- Digits of any script as ASCII digits, and blanks beyond ASCII as spaces; other characters
stay. -/
def toAsciiDigits (cs : List Char) : List Char :=
  cs.map fun c =>
    match digitValue? c with
    | some d => Char.ofNat (48 + d)
    | none => if 127 ≤ c.toNat && isBlank c then ' ' else c

/-- A space or one of the five controls that move to another place of the page. -/
def isAsciiBlank (c : Char) : Bool :=
  c == ' ' || (9 ≤ c.toNat && c.toNat ≤ 13)

/-- A text without the ASCII blanks at its two ends. -/
def trimAsciiBlanks (cs : List Char) : List Char :=
  ((cs.dropWhile isAsciiBlank).reverse.dropWhile isAsciiBlank).reverse

/-- The greatest number of digits of an integer that is read from text. -/
def maxIntegerDigits : Nat := 4300

/-- Why an integer of so many digits is not read. -/
def tooManyDigitsMessage (count : Nat) : String :=
  "Exceeds the limit (4300 digits) for integer string conversion: value has " ++
    String.ofList (naturalText count) ++
    " digits; use sys.set_int_max_str_digits() to increase the limit"

/-- The sign and the digits of an integer written in a text, blanks around it, digits of any script
and underscores between digits being allowed. -/
def looseDigits? (s : String) : Option (Bool × List Nat) := do
  let cs ← dropUnderscores? false (trimAsciiBlanks (toAsciiDigits s.toList))
  let (negative, rest) := spanSign cs
  match spanDigits rest with
  | ([], _) => none
  | (digits, []) => some (negative, digits)
  | _ => none

/-- The integer written in a text, if it has not too many digits. -/
def readLooseInteger? (s : String) : Option Int := do
  let (negative, digits) ← looseDigits? s
  if maxIntegerDigits < digits.length then none
  else some (if negative then -(ofDigits digits : Int) else ofDigits digits)

/-- The double written in a text, blanks around it, digits of any script and underscores between
digits being allowed. -/
def readLooseDouble? (s : String) : Option Binary64 :=
  (dropUnderscores? false (trimAsciiBlanks (toAsciiDigits s.toList))).bind readDouble?

end Intake
