import Intake.Value.Equality

/-!
# Lists without equal items

Equal items of a list are looked for in one of two ways. If the items can be ordered, they are
sorted, and only neighbours are compared; otherwise every item is compared with those before it. The
order of lists takes truth values for numbers while their equality does not, so sorting may leave
equal items apart. Main statement: a run at the start and what follows it make up the items.
-/

namespace Intake

namespace Number

/-- What is no number. -/
def isNaN : Number → Bool
  | .float .nan => true
  | _ => false

/-- Equal in exact value; what is no number equals itself where all of it is one thing. -/
def sameAsSharing (sharesNaN : Bool) (a b : Number) : Bool :=
  a.sameAs b || (sharesNaN && a.isNaN && b.isNaN)

end Number

namespace Value

mutual

/-- Whether a value is less than another; none if the two have no order. -/
def isLess? (same : Number → Number → Bool) (a b : Value) : Option Bool :=
  match a with
  | .bool x => b.counted?.map (Number.int (if x then 1 else 0)).lessThan
  | .number m => b.counted?.map m.lessThan
  | .text s =>
    match b with
    | .text t => some (s < t)
    | _ => none
  | .list items =>
    match b with
    | .list others => isLessList? same items others
    | _ => none
  | .date d =>
    match b with
    | .date e => some (d.isBefore e)
    | _ => none
  | .dateTime t =>
    match b with
    | .dateTime u =>
      if t.time.offset.isSome = u.time.offset.isSome then some (t.isLess u) else none
    | _ => none
  | .time t =>
    match b with
    | .time u => if t.offset.isSome = u.offset.isSome then some (t.isBefore u) else none
    | _ => none
  | .null | .record _ => none

/-- Whether a list is less than another: by the first items that differ, or by the lengths. -/
def isLessList? (same : Number → Number → Bool) (items others : List Value) : Option Bool :=
  match items with
  | [] => some !others.isEmpty
  | item :: rest =>
    match others with
    | [] => some false
    | other :: more =>
      if countsAsBy same item other then isLessList? same rest more else isLess? same item other

end

/-- Whether an item that is to be sorted is less than another; truth values have no order. -/
def sortsBefore? (same : Number → Number → Bool) (a b : Value) : Option Bool :=
  if a.isBool || b.isBool then none else isLess? same a b

/-- An order of items which not all of them may have. -/
abbrev PartialOrder := Value → Value → Option Bool

/-- The place of an item in a sorted stretch, after all items that are not greater: found by halving
the stretch between two bounds. -/
def placeBetween (less : PartialOrder) (item : Value) (sorted : Array Value) (low high : Nat) :
    Option Nat :=
  if low < high then
    let middle := low + (high - low) / 2
    match less item (sorted[middle]?.getD .null) with
    | none => none
    | some true => placeBetween less item sorted low middle
    | some false => placeBetween less item sorted (middle + 1) high
  else some low
termination_by high - low
decreasing_by all_goals omega

/-- Sorts items into a sorted stretch one by one. -/
def sortInto (less : PartialOrder) (sorted : Array Value) : List Value → Option (Array Value)
  | [] => some sorted
  | item :: rest => do
    let place ← placeBetween less item sorted 0 sorted.size
    sortInto less (sorted.insertIdxIfInBounds place item) rest

/-- The items that go on rising, or falling strictly, after one, and the rest. -/
def spanRun (less : PartialOrder) (falling : Bool) (last : Value) :
    List Value → Option (List Value × List Value)
  | [] => some ([], [])
  | item :: rest => do
    if (← less item last) = falling then
      let (run, after) ← spanRun less falling item rest
      return (item :: run, after)
    else return ([], item :: rest)

/-- Items in order, where equal ones keep their places: the run at the start is taken as it is, or
turned round if it falls, and the others are sorted into it. None if two items that are compared have
no order. -/
def sorted? (less : PartialOrder) : List Value → Option (List Value)
  | first :: second :: rest => do
    let falling ← less second first
    let (run, after) ← spanRun less falling second rest
    let start := first :: second :: run
    let sorted ← sortInto less (if falling then start.reverse else start).toArray after
    return sorted.toList
  | items => some items

/-- No item is equal to the next one. -/
def neighboursDiffer (same : Number → Number → Bool) : List Value → Bool
  | a :: b :: rest => !matchesJsonBy same a b && neighboursDiffer same (b :: rest)
  | _ => true

/-- No item is equal to another. -/
def allDiffer (same : Number → Number → Bool) : List Value → Bool
  | [] => true
  | item :: rest => !rest.any (matchesJsonBy same item) && allDiffer same rest

/-- Whether the items of a list count as distinct. -/
def areDistinct (sharesNaN : Bool) (items : List Value) : Bool :=
  let same := Number.sameAsSharing sharesNaN
  match sorted? (sortsBefore? same) items with
  | some sorted => neighboursDiffer same sorted
  | none => allDiffer same items

/-- A run and the rest make up the items. -/
theorem spanRun_append {less : PartialOrder} {falling : Bool} {last : Value}
    {items run after : List Value} (h : spanRun less falling last items = some (run, after)) :
    run ++ after = items := by
  induction items generalizing last run with
  | nil => simp_all [spanRun]
  | cons item rest ih =>
    rw [spanRun] at h
    cases order : less item last with
    | none => simp [order] at h
    | some answer =>
      by_cases goes : answer = falling
      · cases spanned : spanRun less falling item rest with
        | none => simp [order, goes, spanned] at h
        | some pair =>
          obtain ⟨tail, left⟩ := pair
          simp only [order, goes, spanned, Option.bind_eq_bind, Option.bind_some, ↓reduceIte,
            Option.pure_def, Option.some.injEq, Prod.mk.injEq] at h
          obtain ⟨rfl, rfl⟩ := h
          simp [ih spanned]
      · simp only [order, goes, Option.bind_eq_bind, Option.bind_some, ↓reduceIte,
          Option.pure_def, Option.some.injEq, Prod.mk.injEq] at h
        obtain ⟨rfl, rfl⟩ := h
        rfl

end Value

end Intake
