import Intake.Failure
import Intake.Number.Basic
import Intake.Report.Detail

/-!
# Results and measurements

A validation ends in a result: an output or details of what is wrong, with the time it took. An
engine counts its validations. Main statement: the detail of a failure of the engine names the kind
of the failure.
-/

namespace Intake

/-- What a validation answers. -/
inductive Answer where
  /-- The data is accepted; this is the output. -/
  | accepted (output : List (String × Value))
  /-- The data is refused. -/
  | rejected (details : List Detail)

/-- Whether data is accepted. -/
def Answer.isAccepted : Answer → Bool
  | .accepted _ => true
  | .rejected _ => false

/-- The details of refused data. -/
def Answer.details : Answer → List Detail
  | .accepted _ => []
  | .rejected details => details

/-- How long a validation took, and where its validator came from. -/
structure Timing where
  /-- The duration in milliseconds. -/
  duration : Binary64
  /-- The validator was at hand. -/
  fromCache : Bool

/-- The result of a validation. -/
structure Result where
  /-- The answer. -/
  answer : Answer
  /-- The timing, if a validation took place. -/
  timing : Option Timing

/-- The validator was at hand. -/
def Result.fromCache (r : Result) : Bool := (r.timing.map (·.fromCache)).getD false

/-- A timer that goes on by a step whenever it is read. -/
structure Timer where
  /-- The time in seconds. -/
  now : Binary64
  /-- The step in seconds. -/
  step : Binary64

/-- The time, and the timer afterwards. -/
def Timer.read (t : Timer) : Binary64 × Timer := (t.now, { t with now := t.now + t.step })

/-- What an engine counts. -/
structure Tally where
  /-- The validations that came to a verdict. -/
  validations : Nat
  /-- Those of them whose validator was at hand. -/
  hits : Nat
  /-- The sum of their durations in milliseconds. -/
  duration : Binary64

namespace Tally

/-- Nothing counted yet. -/
def zero : Tally := ⟨0, 0, .zero false⟩

/-- A validation counted. -/
def add (t : Tally) (timing : Timing) : Tally :=
  ⟨t.validations + 1, t.hits + (if timing.fromCache then 1 else 0), t.duration + timing.duration⟩

/-- The mean duration in milliseconds. -/
def meanDuration (t : Tally) : Binary64 :=
  if t.validations = 0 then .zero false else t.duration / Binary64.ofInt t.validations

/-- The share of validations whose validator was at hand. -/
def hitRate (t : Tally) : Binary64 :=
  if t.validations = 0 then .zero false else Binary64.ofQuotient t.hits t.validations

/-- The hits never outnumber the validations. -/
theorem hits_add_le {t : Tally} (h : t.hits ≤ t.validations) (timing : Timing) :
    (t.add timing).hits ≤ (t.add timing).validations := by
  simp only [add]
  split <;> omega

end Tally

/-- What an engine tells of its work. -/
structure Metrics where
  /-- The validations that came to a verdict. -/
  validations : Nat
  /-- Those of them whose validator was at hand. -/
  hits : Nat
  /-- The sum of their durations in milliseconds. -/
  duration : Binary64
  /-- Their mean duration in milliseconds. -/
  meanDuration : Binary64
  /-- The share of them whose validator was at hand. -/
  hitRate : Binary64
  /-- The number of entries of the cache. -/
  cacheSize : Nat

/-- What is told of a failure of the engine. -/
def failureDetail (what : String) (failure : Failure) : Detail where
  path := []
  code := .system
  message := what ++ ": " ++ failure.message
  value := .null
  expected := none
  context := some [("error_type", .text failure.kind)]

end Intake
