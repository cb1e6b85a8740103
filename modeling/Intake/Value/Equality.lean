import Intake.Value.Basic

/-!
# Equality of values

Two values are equal when they are numbers of the same exact value, equal texts, lists that are
equal item by item, records with the same keys and equal values in any order, or the same dates and
times. A truth value and a number are never equal at the top; inside lists and records true counts
as one and false as zero.
-/

namespace Intake

namespace Value

/-- The number that a number or truth value counts as inside a container. -/
def counted? : Value → Option Number
  | .bool b => some (.int (if b then 1 else 0))
  | .number n => some n
  | _ => none

mutual

/-- Equality in which truth values count as numbers, for a given equality of numbers. -/
def countsAsBy (same : Number → Number → Bool) (a b : Value) : Bool :=
  match a with
  | .null => b.isNull
  | .bool x =>
    match b.counted? with
    | some n => same (.int (if x then 1 else 0)) n
    | none => false
  | .number m =>
    match b.counted? with
    | some n => same m n
    | none => false
  | .text s =>
    match b with
    | .text t => s == t
    | _ => false
  | .list items =>
    match b with
    | .list others => itemsCountAsBy same items others
    | _ => false
  | .record entries =>
    match b with
    | .record others => entries.length == others.length && entriesCountInBy same entries others
    | _ => false
  | .date d =>
    match b with
    | .date e => d == e
    | _ => false
  | .dateTime t =>
    match b with
    | .dateTime u => t.sameAs u
    | _ => false
  | .time t =>
    match b with
    | .time u => t.sameAs u
    | _ => false

/-- Equality item by item. -/
def itemsCountAsBy (same : Number → Number → Bool) (items others : List Value) : Bool :=
  match items with
  | [] => others.isEmpty
  | item :: rest =>
    match others with
    | [] => false
    | other :: more => countsAsBy same item other && itemsCountAsBy same rest more

/-- Every entry has an equal one under its key. -/
def entriesCountInBy (same : Number → Number → Bool) (entries others : List (String × Value)) :
    Bool :=
  match entries with
  | [] => true
  | (key, value) :: rest =>
    (match others.lookup key with
      | some other => countsAsBy same value other
      | none => false) && entriesCountInBy same rest others

end

/-- Equality in which truth values count as numbers and numbers are equal by their exact values. -/
def countsAs (a b : Value) : Bool := countsAsBy Number.sameAs a b

/-- Equality of values for a given equality of numbers, a truth value being equal to no number. -/
def sameAsBy (same : Number → Number → Bool) (a b : Value) : Bool :=
  a.isBool == b.isBool && countsAsBy same a b

/-- Equality of values, a truth value being equal to no number. -/
def sameAs (a b : Value) : Bool := sameAsBy Number.sameAs a b

mutual

/-- Equality of JSON values for a given equality of numbers: a truth value is equal to no number at
any depth. -/
def matchesJsonBy (same : Number → Number → Bool) (a b : Value) : Bool :=
  match a with
  | .list items =>
    match b with
    | .list others => itemsMatchJsonBy same items others
    | _ => false
  | .record entries =>
    match b with
    | .record others => entries.length == others.length && entriesMatchJsonBy same entries others
    | _ => false
  | _ => sameAsBy same a b

/-- Equality of JSON values item by item. -/
def itemsMatchJsonBy (same : Number → Number → Bool) (items others : List Value) : Bool :=
  match items with
  | [] => others.isEmpty
  | item :: rest =>
    match others with
    | [] => false
    | other :: more => matchesJsonBy same item other && itemsMatchJsonBy same rest more

/-- Every entry has an equal JSON value under its key. -/
def entriesMatchJsonBy (same : Number → Number → Bool) (entries others : List (String × Value)) :
    Bool :=
  match entries with
  | [] => true
  | (key, value) :: rest =>
    (match others.lookup key with
      | some other => matchesJsonBy same value other
      | none => false) && entriesMatchJsonBy same rest others

end

/-- Equality of JSON values, numbers being equal by their exact values. -/
def matchesJson (a b : Value) : Bool := matchesJsonBy Number.sameAs a b

/-- A truth value is equal to no number. -/
theorem sameAs_bool_number (b : Bool) (n : Number) : (Value.bool b).sameAs (.number n) = false :=
  rfl

end Value

end Intake
