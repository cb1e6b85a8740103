import Intake.Condition.Basic
import Intake.Text.Ends
import Intake.Text.Digit

/-!
# The tokens of conditions

A condition is written in numbers, quoted texts, names with dots in them, signs, and the words for
negation, conjunction and disjunction, with blanks between them. The words have signs of their own,
and two comparisons have a longer sign that means the same. Main statements: a token takes up at
least one character, and a name or number takes up the characters it is made of.
-/

namespace Intake

/-- What a token says. -/
inductive Lexeme where
  /-- A number as it is written. -/
  | number (text : List Char)
  /-- A text with its quotes. -/
  | quoted (text : List Char)
  /-- A name, parts of which are separated by dots. -/
  | name (text : List Char)
  /-- A comparison. -/
  | comparison (how : Comparison)
  /-- An opening parenthesis. -/
  | opening
  /-- A closing parenthesis. -/
  | closing
  /-- The sign of a conjunction. -/
  | both
  /-- The sign of a disjunction. -/
  | either
  /-- The sign of a negation. -/
  | negated
  /-- The end of the condition. -/
  | finish
  deriving DecidableEq

namespace Lexeme

/-- The kind of a token. -/
def kind : Lexeme → String
  | .number _ => "number"
  | .quoted _ => "string"
  | .name _ => "name"
  | .comparison _ | .opening | .closing => "op"
  | .both | .either | .negated => "keyword"
  | .finish => "end"

/-- The text of a token, the longer spellings shortened and signs of words as words. -/
def text : Lexeme → String
  | .number text | .quoted text | .name text => String.ofList text
  | .comparison how => how.sign
  | .opening => "("
  | .closing => ")"
  | .both => "and"
  | .either => "or"
  | .negated => "not"
  | .finish => ""

end Lexeme

/-- A token and where it starts. -/
structure Token where
  /-- What the token says. -/
  lexeme : Lexeme
  /-- How many characters stand before it. -/
  position : Nat
  deriving DecidableEq

/-- A character that no token starts with at its place. -/
structure StrayCharacter where
  /-- The character. -/
  character : Char
  /-- How many characters stand before it. -/
  position : Nat
  deriving DecidableEq

namespace Token

/-- The signs with their meaning, longer ones first. -/
def signs : List (List Char × Lexeme) :=
  [(['=', '=', '='], .comparison .equal), (['!', '=', '='], .comparison .unequal),
   (['=', '='], .comparison .equal), (['!', '='], .comparison .unequal),
   (['<', '='], .comparison .atMost), (['>', '='], .comparison .atLeast),
   (['&', '&'], .both), (['|', '|'], .either), (['<'], .comparison .less),
   (['>'], .comparison .greater), (['!'], .negated), (['('], .opening), ([')'], .closing)]

/-- The first sign that a text starts with, and how long it is. -/
def sign? (cs : List Char) : Option (Lexeme × Nat) :=
  signs.findSome? fun (start, lexeme) => (afterStart? start cs).map fun _ => (lexeme, start.length)

/-- How many digits a text starts with. -/
def digitCount (cs : List Char) : Nat := (cs.takeWhile isDecimalDigit).length

/-- How many characters at the start of a text are a point and digits. -/
def fractionCount : List Char → Nat
  | '.' :: rest => if digitCount rest = 0 then 0 else 1 + digitCount rest
  | _ => 0

/-- How many characters at the start of a text are an exponent. -/
def exponentCount : List Char → Nat
  | c :: rest =>
    if c = 'e' ∨ c = 'E' then
      match rest with
      | '+' :: tail | '-' :: tail => if digitCount tail = 0 then 0 else 2 + digitCount tail
      | tail => if digitCount tail = 0 then 0 else 1 + digitCount tail
    else 0
  | [] => 0

/-- How many characters at the start of a text are a number without a sign. -/
def unsignedCount (cs : List Char) : Nat :=
  let whole := digitCount cs
  if whole = 0 then 0
  else
    let fraction := fractionCount (cs.drop whole)
    whole + fraction + exponentCount (cs.drop (whole + fraction))

/-- How many characters at the start of a text are a number. -/
def numberCount : List Char → Nat
  | '-' :: rest => if unsignedCount rest = 0 then 0 else 1 + unsignedCount rest
  | cs => unsignedCount cs

/-- How many characters there are up to and with the closing quote; none if it is missing. A
backslash escapes the character after it, which may be no line feed. -/
def quotedCount? (quote : Char) : List Char → Option Nat
  | [] => none
  | '\\' :: rest =>
    match rest with
    | c :: tail => if c = '\n' then none else (quotedCount? quote tail).map (2 + ·)
    | [] => none
  | c :: rest => if c = quote then some 1 else (quotedCount? quote rest).map (1 + ·)

/-- A character that a part of a name may start with. -/
def startsName (c : Char) : Bool := c.isAlpha || c == '_'

/-- A character that a part of a name may go on with. -/
def continuesName (c : Char) : Bool := c.isAlphanum || c == '_'

/-- How many characters at the start of a text belong to a name; `fresh` says that a part of it
must start here. -/
def nameCount (fresh : Bool) : List Char → Nat
  | [] => 0
  | '.' :: rest =>
    match rest with
    | c :: _ => if !fresh && startsName c then 1 + nameCount true rest else 0
    | [] => 0
  | c :: rest =>
    if if fresh then startsName c else continuesName c then 1 + nameCount false rest else 0

/-- What a name says: some names are words for connectives. -/
def ofName (text : List Char) : Lexeme :=
  if text = ['a', 'n', 'd'] then .both
  else if text = ['o', 'r'] then .either
  else if text = ['n', 'o', 't'] then .negated
  else .name text

/-- The token at the start of a text, blanks aside, and how many characters it takes up beyond the
first. -/
def first? (c : Char) (rest : List Char) : Option (Lexeme × Nat) :=
  let cs := c :: rest
  if numberCount cs ≠ 0 then some (.number (cs.take (numberCount cs)), numberCount cs - 1)
  else if c = '"' ∨ c = '\'' then
    (quotedCount? c rest).map fun n => (.quoted (cs.take (n + 1)), n)
  else
    match sign? cs with
    | some (lexeme, n) => some (lexeme, n - 1)
    | none =>
      if nameCount true cs ≠ 0 then some (ofName (cs.take (nameCount true cs)), nameCount true cs - 1)
      else none

/-- The tokens of a text, so many characters of which were read before. -/
def scanFrom (position : Nat) (cs : List Char) : Except StrayCharacter (List Token) :=
  match cs with
  | [] => .ok [⟨.finish, position⟩]
  | c :: rest =>
    if isBlank c then scanFrom (position + 1) rest
    else
      match first? c rest with
      | none => .error ⟨c, position⟩
      | some (lexeme, more) =>
        (scanFrom (position + 1 + more) (rest.drop more)).map (⟨lexeme, position⟩ :: ·)
termination_by cs.length
decreasing_by
  · simp
  · simp only [List.length_drop, List.length_cons]
    omega

/-- The tokens of a text. -/
def scan (text : String) : Except StrayCharacter (List Token) := scanFrom 0 text.toList

end Token

end Intake
