import Intake.Calendar.Basic
import Intake.Number.Layout

/-!
# ISO text of dates and times

Writing uses the extended form: `2024-06-01`, `12:30:45.123456`, `+02:00`. Fractions of a second,
and seconds of an offset, are written only if they are not zero. Reading is more liberal: the basic
form, week dates, any one character between date and time, a comma for the point, and digits beyond
the microsecond are accepted. It works on the bytes of the text; a byte of zero ends a part.
-/

namespace Intake

/-- A number in decimal, padded with zeros to a width. -/
def paddedText (width n : Nat) : List Char :=
  let digits := naturalText n
  List.replicate (width - digits.length) '0' ++ digits

/-- The ISO form of a date. -/
def Date.isoText (d : Date) : List Char :=
  paddedText 4 d.year ++ '-' :: paddedText 2 d.month ++ '-' :: paddedText 2 d.day

/-- The fraction of a second after its point, if it is not zero. -/
def fractionText (microsecond : Nat) : List Char :=
  if microsecond = 0 then [] else '.' :: paddedText 6 microsecond

/-- The ISO form of an offset in microseconds. -/
def offsetText (offset : Int) : List Char :=
  let size := offset.natAbs
  let seconds := size / 1000000
  let part := size % 1000000
  (if offset < 0 then '-' else '+') :: paddedText 2 (seconds / 3600) ++
    ':' :: paddedText 2 (seconds / 60 % 60) ++
    (if seconds % 60 = 0 ∧ part = 0 then [] else
      ':' :: paddedText 2 (seconds % 60) ++ fractionText part)

/-- The ISO form of a time of day. -/
def ClockTime.isoText (t : ClockTime) : List Char :=
  paddedText 2 t.hour ++ ':' :: paddedText 2 t.minute ++ ':' :: paddedText 2 t.second ++
    fractionText t.microsecond ++ (t.offset.map offsetText).getD []

/-- The ISO form of a point in time, with a character between date and time. -/
def DateTime.isoTextWith (separator : Char) (t : DateTime) : List Char :=
  t.date.isoText ++ separator :: t.time.isoText

/-- The ISO form of a point in time. -/
def DateTime.isoText (t : DateTime) : List Char := t.isoTextWith 'T'

/-- An offset in microseconds in whole seconds; a half goes to the even neighbour. -/
def wholeSeconds (offset : Int) : Int :=
  let below := Int.fdiv offset 1000000
  let rest := Int.fmod offset 1000000
  if 500000 < rest ∨ (rest = 500000 ∧ below % 2 = 1) then below + 1 else below

/-- The offset of a wire form: universal time is `Z`, seconds are left out. -/
def wireOffsetText (offset : Int) : List Char :=
  let offset := wholeSeconds offset
  let minutes := offset.natAbs / 60
  if offset = 0 then ['Z']
  else (if offset < 0 then '-' else '+') :: paddedText 2 (minutes / 60) ++
    ':' :: paddedText 2 (minutes % 60)

/-- The wire form of a time of day. -/
def ClockTime.wireText (t : ClockTime) : List Char :=
  paddedText 2 t.hour ++ ':' :: paddedText 2 t.minute ++ ':' :: paddedText 2 t.second ++
    fractionText t.microsecond ++ (t.offset.map wireOffsetText).getD []

/-- The wire form of a point in time. -/
def DateTime.wireText (t : DateTime) : List Char :=
  t.date.isoText ++ 'T' :: t.time.wireText

namespace IsoReader

/-- The byte at the start of a text, zero at its end. -/
def peek : List UInt8 → UInt8
  | [] => 0
  | b :: _ => b

/-- The value of a byte that is a digit. -/
def digit? (b : UInt8) : Option Nat :=
  if 48 ≤ b ∧ b ≤ 57 then some (b.toNat - 48) else none

/-- A number of exactly so many digits at the start of a text, after a number already read. -/
def takeDigits? (n : Nat) : Nat → List UInt8 → Option (Nat × List UInt8)
  | 0, rest => some (n, rest)
  | _ + 1, [] => none
  | count + 1, b :: rest => (digit? b).bind fun d => takeDigits? (n * 10 + d) count rest

/-- The byte of a character. -/
def byte (c : Char) : UInt8 := c.toNat.toUInt8

/-- A date at the start of a text of a given length; what follows a calendar date is not looked
at. -/
def date? (length : Nat) (text : List UInt8) : Option Date := do
  let (year, afterYear) ← takeDigits? 0 4 text
  let dashed := peek afterYear == byte '-'
  let body := if dashed then afterYear.drop 1 else afterYear
  let skipDash := fun (rest : List UInt8) =>
    if dashed then (if peek rest == byte '-' then some (rest.drop 1) else none) else some rest
  if peek body == byte 'W' then
    let (week, afterWeek) ← takeDigits? 0 2 (body.drop 1)
    if text.length - afterWeek.length < length then
      let (weekday, _) ← takeDigits? 0 1 (← skipDash afterWeek)
      Date.ofWeek? year week weekday
    else Date.ofWeek? year week 1
  else
    let (month, afterMonth) ← takeDigits? 0 2 body
    let (day, _) ← takeDigits? 0 2 (← skipDash afterMonth)
    Date.of? year month day

/-- Hour, minute, second and microsecond as they are read, and whether anything is left over. -/
structure Reading where
  /-- The numbers read so far, the hour first. -/
  parts : List Nat
  /-- The fraction of a second, in microseconds. -/
  microsecond : Nat
  /-- Whether something follows that was not read. -/
  leftover : Bool

/-- The fraction of a second: up to six digits, then digits that are dropped. -/
def fraction? (parts : List Nat) (text following : List UInt8) : Option Reading := do
  let count := min 6 text.length
  let (n, rest) ← takeDigits? 0 count text
  let tail := rest.dropWhile fun b => (digit? b).isSome
  return ⟨parts, n * Nat.pow 10 (6 - count), peek (tail ++ following) != 0⟩

/-- The parts of a time of day, of which so many are still allowed; `colons` says whether the first
two were separated by a colon. The text ends where `following` starts. -/
def parts? (following : List UInt8) (colons : Bool) (parts : List Nat) :
    Nat → List UInt8 → Option Reading
  | 0, text => fraction? parts text following
  | count + 1, text => do
    let (n, rest) ← takeDigits? 0 2 text
    let parts := parts ++ [n]
    let next := peek (rest ++ following)
    let colons := if parts.length = 1 then next == byte ':' else colons
    if rest.length ≤ 1 then return ⟨parts, 0, next != 0⟩
    else if colons && next == byte ':' then
      parts? following colons parts count (rest.drop 1)
    else if next == byte '.' || next == byte ',' then
      fraction? parts (rest.drop 1) following
    else if !colons then parts? following colons parts count rest
    else none

/-- The parts of a time of day that ends where `following` starts. -/
def timeParts? (text following : List UInt8) : Option Reading :=
  parts? following false [] 3 text

/-- The sign of an offset, or the letter for universal time. -/
def startsOffset (b : UInt8) : Bool :=
  b == byte '+' || b == byte '-' || b == byte 'Z'

/-- The offset at the start of a text, in microseconds; zero seconds give universal time. -/
def offset? (text : List UInt8) : Option Int :=
  if peek text == byte 'Z' then
    if peek (text.drop 1) == 0 then some 0 else none
  else do
    let reading ← timeParts? (text.drop 1) []
    let size := match reading.parts with
      | [h] => h * 3600
      | [h, m] => h * 3600 + m * 60
      | [h, m, s] => h * 3600 + m * 60 + s
      | _ => 0
    if reading.leftover then none
    else if size = 0 then return 0
    else
      let total : Int := (size * 1000000 + reading.microsecond : Nat)
      return (if peek text == byte '-' then -total else total)

/-- A time of day that is the whole of a text. -/
def time? (text : List UInt8) : Option ClockTime := do
  let head := text.takeWhile (!startsOffset ·)
  let tail := text.dropWhile (!startsOffset ·)
  let reading ← timeParts? head tail
  let offset ← if tail.isEmpty then (if reading.leftover then none else some none)
    else (offset? tail).map some
  match reading.parts with
  | [h] => ClockTime.of? h 0 0 reading.microsecond offset
  | [h, m] => ClockTime.of? h m 0 reading.microsecond offset
  | [h, m, s] => ClockTime.of? h m s reading.microsecond offset
  | _ => none

/-- Where the date ends in the text of a point in time, judged by the bytes that tell the forms of
dates apart. -/
def dateLength? (text : List UInt8) : Option Nat :=
  let byteAt := fun (i : Nat) => peek (text.drop i)
  let isDigit := fun (i : Nat) => (digit? (byteAt i)).isSome
  if text.length = 7 then some 7
  else if byteAt 4 == byte '-' then
    if byteAt 5 == byte 'W' then
      if 8 < text.length ∧ byteAt 8 == byte '-' then
        if text.length = 9 then none
        else if 10 < text.length ∧ isDigit 10 then some 8 else some 10
      else some 8
    else some 10
  else if byteAt 4 == byte 'W' then
    let digits := ((text.drop 7).takeWhile fun b => (digit? b).isSome).length
    if digits < 2 then some (7 + digits)
    else if (7 + digits) % 2 = 0 then some 7 else some 8
  else some 8

/-- How many bytes the character at the start of a text has. -/
def characterLength (b : UInt8) : Nat :=
  if b < 128 then 1 else if b &&& 0xF0 == 0xE0 then 3 else if b &&& 0xF0 == 0xF0 then 4 else 2

end IsoReader

/-- The date that a text of 7, 8 or 10 bytes is the ISO form of. -/
def readIsoDate? (s : String) : Option Date :=
  let bytes := s.toUTF8.toList
  if bytes.length = 7 ∨ bytes.length = 8 ∨ bytes.length = 10 then
    IsoReader.date? bytes.length bytes
  else none

/-- The point in time that a text is the ISO form of. -/
def readIsoDateTime? (s : String) : Option DateTime := do
  let bytes := s.toUTF8.toList
  if bytes.length < 7 then none
  else
    let length ← IsoReader.dateLength? bytes
    let date ← IsoReader.date? length bytes
    if bytes.length ≤ length then return ⟨date, .midnight⟩
    else
      let tail := bytes.drop length
      let time ← IsoReader.time? (tail.drop (IsoReader.characterLength (IsoReader.peek tail)))
      return ⟨date, time⟩

/-- The time of day that a text is the ISO form of, a leading `T` being allowed. -/
def readIsoTime? (s : String) : Option ClockTime :=
  let bytes := s.toUTF8.toList
  IsoReader.time? (if IsoReader.peek bytes == IsoReader.byte 'T' then bytes.drop 1 else bytes)

end Intake
