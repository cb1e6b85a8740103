import Intake.Number.Literal
import Intake.Value.Basic

/-!
# Reading JSON text

The whole of a text must be one JSON value with blanks around it. Beyond the standard, the words
`NaN`, `Infinity` and `-Infinity` are numbers. A number without point and exponent is an integer of
any size up to 4300 digits. Of several entries under one key the last one counts.
-/

namespace Intake

namespace Json

/-- A blank between the tokens of JSON text. -/
def isSpace (c : Char) : Bool :=
  c == ' ' || c == '\t' || c == '\n' || c == '\r'

/-- The text after its leading blanks. -/
def skipSpace (cs : List Char) : List Char := cs.dropWhile isSpace

/-- The unit of 16 bits that four hexadecimal digits stand for. -/
def readUnit? : List Char → Option (Nat × List Char)
  | a :: b :: c :: d :: rest => do
    let a ← hexValue? a
    let b ← hexValue? b
    let c ← hexValue? c
    let d ← hexValue? d
    return (((a * 16 + b) * 16 + c) * 16 + d, rest)
  | _ => none

/-- The low unit of a pair, if an escape of one follows. -/
def readLowUnit? : List Char → Option (Nat × List Char)
  | '\\' :: 'u' :: rest =>
    match readUnit? rest with
    | some (unit, tail) => if 0xDC00 ≤ unit ∧ unit < 0xE000 then some (unit, tail) else none
    | none => none
  | _ => none

/-- A character given by the escape of one unit, or of two that make a pair; half a pair is read as
the replacement character. -/
def readEscapedUnit? (cs : List Char) : Option (Char × List Char) := do
  let (unit, rest) ← readUnit? cs
  if 0xD800 ≤ unit ∧ unit < 0xDC00 then
    match readLowUnit? rest with
    | some (low, tail) =>
      return (Char.ofNat (0x10000 + (unit - 0xD800) * 0x400 + (low - 0xDC00)), tail)
    | none => return (Char.ofNat 0xFFFD, rest)
  else if 0xDC00 ≤ unit ∧ unit < 0xE000 then return (Char.ofNat 0xFFFD, rest)
  else return (Char.ofNat unit, rest)

/-- The character that a letter after a backslash stands for. -/
def simpleEscape? (c : Char) : Option Char :=
  if c = '"' ∨ c = '\\' ∨ c = '/' then some c
  else if c = 'b' then some (Char.ofNat 8)
  else if c = 'f' then some (Char.ofNat 12)
  else if c = 'n' then some '\n'
  else if c = 'r' then some '\r'
  else if c = 't' then some '\t'
  else none

/-- The characters of a string up to its closing quote; the fuel bounds their number. -/
def readStringTail? : Nat → List Char → Option (List Char × List Char)
  | 0, _ => none
  | _ + 1, [] => none
  | fuel + 1, c :: rest =>
    if c = '"' then some ([], rest)
    else if c = '\\' then
      match rest with
      | [] => none
      | e :: tail => do
        let (c, tail) ← if e = 'u' then readEscapedUnit? tail
          else (simpleEscape? e).map (·, tail)
        let (cs, tail) ← readStringTail? fuel tail
        return (c :: cs, tail)
    else if c.toNat < 32 then none
    else do
      let (cs, tail) ← readStringTail? fuel rest
      return (c :: cs, tail)

/-- A string after its opening quote. -/
def readString? (cs : List Char) : Option (String × List Char) :=
  (readStringTail? (cs.length + 1) cs).map fun (s, rest) => (String.ofList s, rest)

/-- The digits before the point: a zero alone, or digits that do not start with one. -/
def readWhole? (cs : List Char) : Option (List Nat × List Char) :=
  match cs with
  | '0' :: rest => some ([0], rest)
  | _ =>
    match spanDigits cs with
    | ([], _) => none
    | found => some found

/-- The digits after a point, if a point and a digit follow. -/
def readFraction (cs : List Char) : List Nat × List Char :=
  match cs with
  | '.' :: rest =>
    match spanDigits rest with
    | ([], _) => ([], cs)
    | found => found
  | _ => ([], cs)

/-- The exponent, if its letter, a sign or none and a digit follow. -/
def readPower? (cs : List Char) : Option (Int × List Char) :=
  match cs with
  | c :: rest =>
    if c = 'e' ∨ c = 'E' then
      let (negative, afterSign) := spanSign rest
      match spanDigits afterSign with
      | ([], _) => none
      | (digits, tail) =>
        let size : Int := ofDigits digits
        some (if negative then -size else size, tail)
    else none
  | [] => none

/-- A number after its sign. -/
def readNumber? (negative : Bool) (cs : List Char) : Option (Value × List Char) := do
  let (whole, afterWhole) ← readWhole? cs
  let (fraction, afterFraction) := readFraction afterWhole
  match fraction, readPower? afterFraction with
  | [], none =>
    if maxIntegerDigits < whole.length then none
    else
      let n : Int := ofDigits whole
      return (.int (if negative then -n else n), afterWhole)
  | _, power =>
    let (e, tail) := power.getD (0, afterFraction)
    let literal : DecimalLiteral := ⟨whole ++ fraction, e - fraction.length⟩
    return (.float (literal.toBinary64 negative), tail)

/-- The text after a word, if it starts with it. -/
def afterWord? : List Char → List Char → Option (List Char)
  | [], cs => some cs
  | w :: ws, c :: cs => if w = c then afterWord? ws cs else none
  | _ :: _, [] => none

/-- The words that are values. -/
def words : List (List Char × Value) :=
  [("null".toList, .null), ("true".toList, .bool true), ("false".toList, .bool false),
    ("NaN".toList, .float .nan), ("Infinity".toList, .float (.infinite false)),
    ("-Infinity".toList, .float (.infinite true))]

/-- A word or number. -/
def readScalar? (cs : List Char) : Option (Value × List Char) :=
  match words.findSome? fun (word, v) => (afterWord? word cs).map (v, ·) with
  | some found => some found
  | none =>
    match cs with
    | '-' :: rest => readNumber? true rest
    | _ => readNumber? false cs

mutual

/-- A value at the start of a text; the fuel bounds the depth and length of what is read. -/
def readValue? (fuel : Nat) (cs : List Char) : Option (Value × List Char) :=
  match fuel with
  | 0 => none
  | fuel + 1 =>
    match cs with
    | '"' :: rest => (readString? rest).map fun (s, tail) => (.text s, tail)
    | '[' :: rest =>
      match skipSpace rest with
      | ']' :: tail => some (.list [], tail)
      | items => (readItems? fuel items).map fun (vs, tail) => (.list vs, tail)
    | '\x7b' :: rest =>
      match skipSpace rest with
      | '\x7d' :: tail => some (.record [], tail)
      | entries =>
        (readEntries? fuel entries).map fun (es, tail) => (.record (keepLast es), tail)
    | _ => readScalar? cs

/-- The items of a list up to its closing bracket. -/
def readItems? (fuel : Nat) (cs : List Char) : Option (List Value × List Char) :=
  match fuel with
  | 0 => none
  | fuel + 1 => do
    let (v, rest) ← readValue? fuel cs
    match skipSpace rest with
    | ']' :: tail => return ([v], tail)
    | ',' :: tail => (readItems? fuel (skipSpace tail)).map fun (vs, end_) => (v :: vs, end_)
    | _ => none

/-- The entries of a record up to its closing brace. -/
def readEntries? (fuel : Nat) (cs : List Char) : Option (List (String × Value) × List Char) :=
  match fuel with
  | 0 => none
  | fuel + 1 =>
    match cs with
    | '"' :: rest => do
      let (key, afterKey) ← readString? rest
      match skipSpace afterKey with
      | ':' :: body =>
        let (v, afterValue) ← readValue? fuel (skipSpace body)
        match skipSpace afterValue with
        | '\x7d' :: tail => return ([(key, v)], tail)
        | ',' :: tail =>
          (readEntries? fuel (skipSpace tail)).map fun (es, end_) => ((key, v) :: es, end_)
        | _ => none
      | _ => none
    | _ => none

end

/-- The value that a text is the JSON form of. -/
def read? (s : String) : Option Value :=
  let cs := s.toList
  match readValue? (2 * cs.length + 2) (skipSpace cs) with
  | some (v, rest) => if (skipSpace rest).isEmpty then some v else none
  | none => none

end Json

end Intake
