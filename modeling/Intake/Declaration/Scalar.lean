import Intake.Declaration.Reading
import Intake.Number.Literal

/-!
# Reading the parts of declarations

Texts are read from texts only. Integers, doubles and truth values are also read from each other and
from texts, wherever nothing is lost. Main statement: an integer is read from itself.
-/

namespace Intake

/-!
## Integers written in declarations

An integer is written plainly, with a minus and without leading zeros; or with a plus, leading zeros,
a fraction of zeros, or single underscores between its digits, and then brought to its plain form
first. Main statement: zero is a plain integer.
-/

/-- A blank that may stand around a number in a text. -/
def isOuterBlank (c : Char) : Bool :=
  isBlank c && !(28 ≤ c.toNat && c.toNat ≤ 31)

/-- A text without the blanks around it. -/
def trimOuter (cs : List Char) : List Char :=
  ((cs.dropWhile isOuterBlank).reverse.dropWhile isOuterBlank).reverse

/-- The integer that a text is the plain form of: a minus if it is negative, and digits of which the
first is zero only if it is the only one. Too many digits are told from other faults even if more
than digits follow. -/
def plainInteger (cs : List Char) : Except FaultKind Int :=
  let negative := cs.head? == some '-'
  let unsigned := if negative then cs.drop 1 else cs
  let digits := unsigned.takeWhile Char.isDigit
  if unsigned == ['0'] then .ok 0
  else if digits.isEmpty || digits.head? == some '0' then .error .intParsing
  else if maxIntegerDigits < cs.length - unsigned.length + digits.length then
    .error .intParsingSize
  else if digits.length < unsigned.length then .error .intParsing
  else
    let size : Int := ofDigits (digits.filterMap asciiDigit?)
    .ok (if negative then -size else size)

/-- What follows the zeros and underscores after a leading zero: digits that start with another one,
a minus, a point with the character before it, or the last character if there is nothing else. -/
def afterZeros? (last : Char) : List Char → Option (List Char)
  | [] => some [last]
  | c :: rest =>
    if c = '0' ∨ c = '_' then afterZeros? c rest
    else if c.isDigit ∨ c = '-' then some (c :: rest)
    else if c = '.' then some (last :: c :: rest)
    else none

/-- A text without the zeros that lead it. -/
def dropLeadingZeros? : List Char → Option (List Char)
  | '0' :: rest => afterZeros? '0' rest
  | c :: rest => if c.isDigit ∨ c = '-' then some (c :: rest) else none
  | [] => none

/-- A text without a point that only zeros, at least one, follow. -/
def dropZeroFraction (cs : List Char) : List Char :=
  let whole := cs.takeWhile (· != '.')
  let fraction := cs.drop (whole.length + 1)
  if !fraction.isEmpty && fraction.all (· == '0') then whole else cs

/-- A text without single underscores that stand neither at its ends nor beside each other. -/
def dropSingleUnderscores? (cs : List Char) : Option (List Char) :=
  let rec go : List Char → Option (List Char)
    | [] => some []
    | ['_'] => none
    | '_' :: '_' :: _ => none
    | '_' :: rest => go rest
    | c :: rest => (go rest).map (c :: ·)
  if cs.head? = some '_' then none else go cs

/-- The plain form of an integer that is written with a plus, leading zeros, a fraction of zeros or
underscores between digits. -/
def plainForm? (cs : List Char) : Option (List Char) :=
  let unsigned := if cs.head? == some '+' then cs.drop 1 else cs
  let negative := unsigned.head? == some '-'
  if negative && unsigned.length < cs.length then none
  else do
    let digits ← dropLeadingZeros? (if negative then unsigned.drop 1 else unsigned)
    let digits ← dropSingleUnderscores? (dropZeroFraction digits)
    return if negative then '-' :: digits else digits

/-- The integer that a text stands for. -/
def writtenInteger (s : String) : Reading Int :=
  let cs := trimOuter s.toList
  match plainInteger cs with
  | .ok n => .read n
  | .error .intParsing =>
    match (plainForm? cs).map plainInteger with
    | some (.ok n) => .read n
    | _ => .fault .intParsing
  | .error kind => .fault kind

/-- Zero is a plain integer. -/
theorem plainInteger_zero : plainInteger ['0'] = .ok 0 := rfl

/-! ## Reading the parts of declarations -/

namespace Reader

/-- A text. -/
def text : Reader String
  | .text s => .read s
  | _ => .fault .stringType

/-- Any value. -/
def any : Reader Value := .read

/-- A name of a choice. -/
def choice {α : Type} (ofName? : String → Option α) : Reader α
  | .text s =>
    match ofName? s with
    | some value => .read value
    | none => .fault .choice
  | _ => .fault .choice

/-- The truth values that texts stand for, in letters of either case. -/
def truthWords : List (String × Bool) :=
  [("0", false), ("off", false), ("f", false), ("false", false), ("n", false), ("no", false),
   ("1", true), ("on", true), ("t", true), ("true", true), ("y", true), ("yes", true)]

/-- The truth value that zero and one stand for. -/
def truthOfInt (n : Int) : Reading Bool :=
  if n = 0 then .read false else if n = 1 then .read true else .fault .boolParsing

/-- Whether an integer has 64 bits, one of them the sign. -/
def isWordSized (n : Int) : Bool := -0x8000000000000000 ≤ n && n < 0x8000000000000000

/-- Whether an integer lies between the least and the greatest bounds of 64 bits; a double is taken as
an integer only if it does. -/
def isWithinWord (n : Int) : Bool := -0x8000000000000000 < n && n < 0x8000000000000000

/-- A truth value, a word for one, or zero or one. -/
def bool : Reader Bool
  | .bool b => .read b
  | .text s =>
    match truthWords.lookup (s.map Char.toLower) with
    | some b => .read b
    | none => .fault .boolParsing
  | .number (.int n) => if isWordSized n then truthOfInt n else .fault .boolType
  | .number (.float x) =>
    match if x.isIntegral then x.truncate? else none with
    | some n => if isWithinWord n then truthOfInt n else .fault .boolType
    | none => .fault .boolType
  | _ => .fault .boolType

/-- An integer, a double without a fraction, a truth value or the text of an integer. -/
def int : Reader Int
  | .number (.int n) => .read n
  | .bool b => .read (if b then 1 else 0)
  | .number (.float x) =>
    if !x.isFinite then .fault .finiteNumber
    else if !x.isIntegral then .fault .intFromFloat
    else
      match x.truncate? with
      | some n => if isWithinWord n then .read n else .fault .intParsingSize
      | none => .fault .finiteNumber
  | .text s => writtenInteger s
  | _ => .fault .intType

/-- The double that a text stands for. -/
def floatOfText (s : String) : Reading Binary64 :=
  match readDouble? (trimOuter s.toList) with
  | some x => .read x
  | none =>
    match (dropSingleUnderscores? s.toList).bind readDouble? with
    | some x => .read x
    | none => .fault .floatParsing

/-- A double, an integer within the range of doubles, a truth value or the text of a double. -/
def float : Reader Binary64
  | .number n =>
    match n.toBinary64? with
    | some x => .read x
    | none => .fault .floatType
  | .bool b => .read (Binary64.ofInt (if b then 1 else 0))
  | .text s => floatOfText s
  | _ => .fault .floatType

/-- The items of a list from an index on. -/
def itemsFrom {α : Type} (item : Reader α) : Nat → List Value → List (Reading α)
  | _, [] => []
  | i, v :: rest => (item v).under (.index i) :: itemsFrom item (i + 1) rest

/-- A list. -/
def list {α : Type} (item : Reader α) : Reader (List α)
  | .list items => .sequence (itemsFrom item 0 items)
  | _ => .fault .tupleType

/-- A record of values that may be anything. -/
def anyRecord : Reader (List (String × Value))
  | .record entries => .read entries
  | _ => .fault .dictType

/-- Values by name, all read alike. -/
def record {α : Type} (entry : Reader α) : Reader (List (String × α))
  | .record entries =>
    .sequence (entries.map fun (name, v) => ((entry v).map (name, ·)).under (.key name))
  | _ => .fault .dictType

/-- An integer is read from itself. -/
theorem int_int (n : Int) : int (.int n) = .read n := rfl

end Reader

end Intake
