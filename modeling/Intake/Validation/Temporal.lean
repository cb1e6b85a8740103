import Intake.Calendar.Iso
import Intake.Text.Ends
import Intake.Value.Basic

/-!
# Values that stand for dates

Dates and points in time are given as such, as texts in the international format, or as numbers of
milliseconds since the start of 1970. Main statement: a date and a point in time stand for
themselves.
-/

namespace Intake

/-- A text with a letter for universal time at its end replaced by the offset. -/
def expandZulu (cs : List Char) : List Char :=
  match cs.reverse with
  | 'Z' :: before | 'z' :: before => before.reverse ++ ['+', '0', '0', ':', '0', '0']
  | _ => cs

/-- The point in time that a text stands for. -/
def dateTimeOfText? (s : String) : Option DateTime :=
  readIsoDateTime? (String.ofList (expandZulu (trimBlanks s.toList)))

/-- The integer nearest to a finite double, a half going to the even neighbour. -/
def Binary64.nearest? (x : Binary64) : Option Int :=
  x.ratio?.map fun (num, den) =>
    let size : Int := roundRatio num.natAbs den
    if num < 0 then -size else size

/-- The point in time so many seconds after the start of 1970, to the nearest microsecond. -/
def dateTimeOfSeconds? (seconds : Binary64) : Option DateTime := do
  let whole ← seconds.truncate?
  let fraction := seconds - Binary64.ofInt whole
  let micros ← (fraction * Binary64.ofInt 1000000).nearest?
  if 1000000 ≤ micros then DateTime.ofEpoch? (whole + 1) (micros - 1000000).toNat
  else if micros < 0 then DateTime.ofEpoch? (whole - 1) (micros + 1000000).toNat
  else DateTime.ofEpoch? whole micros.toNat

/-- The thousandth part of a number. -/
def Number.thousandth? : Number → Option Binary64
  | .int n => let x := Binary64.ofQuotient n 1000; if x.isFinite then some x else none
  | .float x => if x.isFinite then some (x / Binary64.ofInt 1000) else none

namespace Value

/-- The point in time that a value stands for. -/
def dateTime? : Value → Option DateTime
  | .dateTime t => some t
  | .date d => some (DateTime.ofDate d)
  | .text s => dateTimeOfText? s
  | .number n => n.thousandth?.bind dateTimeOfSeconds?
  | _ => none

/-- The date that a value stands for. -/
def date? : Value → Option Date
  | .date d => some d
  | .text s =>
    match readIsoDate? (trimText s) with
    | some d => some d
    | none => (dateTimeOfText? s).map (·.date)
  | v => v.dateTime?.map (·.date)

/-- A date stands for itself. -/
theorem date?_date (d : Date) : (Value.date d).date? = some d := rfl

/-- A point in time stands for itself. -/
theorem dateTime?_dateTime (t : DateTime) : (Value.dateTime t).dateTime? = some t := rfl

end Value

end Intake
