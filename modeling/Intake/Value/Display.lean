import Intake.Calendar.Iso
import Intake.Text.Quoted
import Intake.Value.Basic

/-!
# How messages show values

A message shows a value in one of two ways: plainly, a text as it is, or in full, a text in quotes
and a date by its parts. What stands inside a list or a record is always shown in full.
-/

namespace Intake

/-- Numbers in messages. -/
def messageLayout : Layout := ⟨"nan", "inf"⟩

/-- Texts with a separator between them. -/
def joinTexts (separator : List Char) : List (List Char) → List Char
  | [] => []
  | [part] => part
  | part :: rest => part ++ separator ++ joinTexts separator rest

/-- Numbers separated by commas. -/
def numberList (ns : List Nat) : List Char :=
  joinTexts [',', ' '] (ns.map naturalText)

/-- The parts of a time of day, seconds and microseconds only as far as they are needed. -/
def ClockTime.shownParts (t : ClockTime) : List Nat :=
  [t.hour, t.minute] ++
    (if t.microsecond ≠ 0 then [t.second, t.microsecond]
      else if t.second ≠ 0 then [t.second] else [])

/-- A span of microseconds by its days, seconds and microseconds. -/
def durationText (span : Int) : List Char :=
  let days := Int.fdiv span microsecondsPerDay
  let rest := (Int.fmod span microsecondsPerDay).toNat
  let part := fun (name : String) (n : Int) =>
    if n = 0 then [] else [name.toList ++ '=' :: integerText n]
  let parts := part "days" days ++ part "seconds" (rest / 1000000 : Nat) ++
    part "microseconds" (rest % 1000000 : Nat)
  "datetime.timedelta(".toList ++
    (if parts.isEmpty then ['0'] else joinTexts [',', ' '] parts) ++ [')']

/-- An offset shown after the parts of a time. -/
def shownOffset : Option Int → List Char
  | none => []
  | some offset =>
    ", tzinfo=datetime.timezone".toList ++
      (if offset = 0 then ".utc".toList else '(' :: durationText offset ++ [')'])

/-- A date shown by its parts. -/
def Date.shownParts (d : Date) : List Nat := [d.year, d.month, d.day]

namespace Value

mutual

/-- A value shown in full. -/
def inFull (v : Value) : List Char :=
  match v with
  | .null => "None".toList
  | .bool b => (if b then "True" else "False").toList
  | .number n => n.text messageLayout
  | .text s => (quoteText s).toList
  | .list items => '[' :: joinTexts [',', ' '] (itemsInFull items) ++ [']']
  | .record entries => '\x7b' :: joinTexts [',', ' '] (entriesInFull entries) ++ ['\x7d']
  | .date d => "datetime.date(".toList ++ numberList d.shownParts ++ [')']
  | .dateTime t =>
    "datetime.datetime(".toList ++ numberList (t.date.shownParts ++ t.time.shownParts) ++
      shownOffset t.time.offset ++ [')']
  | .time t =>
    "datetime.time(".toList ++ numberList t.shownParts ++ shownOffset t.offset ++ [')']

/-- The items of a list shown in full. -/
def itemsInFull (items : List Value) : List (List Char) :=
  match items with
  | [] => []
  | item :: rest => inFull item :: itemsInFull rest

/-- The entries of a record shown in full. -/
def entriesInFull (entries : List (String × Value)) : List (List Char) :=
  match entries with
  | [] => []
  | (key, value) :: rest =>
    ((quoteText key).toList ++ ':' :: ' ' :: inFull value) :: entriesInFull rest

end

/-- A value shown in full, as a text. -/
def fullText (v : Value) : String := String.ofList v.inFull

/-- A value shown plainly. -/
def plainText : Value → String
  | .text s => s
  | .date d => String.ofList d.isoText
  | .dateTime t => String.ofList (t.isoTextWith ' ')
  | .time t => String.ofList t.isoText
  | v => v.fullText

end Value

end Intake
